/-!
# Punycode

A label of a host name that holds characters beyond ASCII is written in ASCII: the ASCII
characters in order, a hyphen, and digits in base 36 that say which other characters stand where,
in increasing order of the characters. Each is given as a difference from the one before, as a
number of variable length whose thresholds adapt. Numbers of more than 32 bits are refused.
-/

namespace HttpGateway.Url.Punycode

/-- The value of a digit: letters come before decimal digits. -/
def digitValue? (c : Char) : Option Nat :=
  if 'a' ≤ c ∧ c ≤ 'z' then some (c.toNat - 97)
  else if 'A' ≤ c ∧ c ≤ 'Z' then some (c.toNat - 65)
  else if c.isDigit then some (c.toNat - 48 + 26)
  else none

/-- The threshold at a position, which is counted in steps of 36. -/
def threshold (bias position : Nat) : Nat := min 26 (max 1 (position - bias))

/-- A number, if it has no more than 32 bits. -/
def bounded? (n : Nat) : Option Nat := if n < UInt32.size then some n else none

/-- Read a difference, added to an index: digits up to the first below its threshold. -/
def readDelta (bias : Nat) (weight position index : Nat) : List Char → Option (Nat × List Char)
  | [] => none
  | c :: rest => do
    let digit ← digitValue? c
    let t := threshold bias position
    let index ← bounded? (index + digit * weight)
    if digit < t then some (index, rest)
    else readDelta bias (← bounded? (weight * (36 - t))) (position + 36) index rest

/-- Reduce a difference for the next bias, at most as often as the fuel allows. -/
def reduce : Nat → Nat → Nat → Nat
  | 0, delta, position => position + 36 * delta / (delta + 38)
  | fuel + 1, delta, position =>
    if 455 < delta then reduce fuel (delta / 35) (position + 36)
    else position + 36 * delta / (delta + 38)

/-- The bias after a difference, when there are `count` characters. -/
def adapt (delta count : Nat) (first : Bool) : Nat :=
  let damped := if first then delta / 700 else delta / 2
  reduce damped (damped + damped / count) 0

/-- Insert the characters that the digits stand for. Every difference takes a digit at least, so
fuel of the number of digits is enough. -/
def insertAll : Nat → Nat → Nat → Nat → List Char → List Char → Option (List Char)
  | _, _, _, _, chars, [] => some chars
  | 0, _, _, _, _, _ => none
  | fuel + 1, code, index, bias, chars, digits => do
    let (place, rest) ← readDelta bias 1 36 index digits
    let count := chars.length + 1
    let code := code + place / count
    if code.isValidChar then
      insertAll fuel code (place % count + 1) (adapt (place - index) count (index == 0))
        (chars.insertIdx (place % count) (Char.ofNat code)) rest
    else none

/-- The characters of a label without its mark. A hyphen is written only after other characters,
so one in front is no digit and is refused. -/
def decode? (label : List Char) : Option (List Char) :=
  let tail := (label.reverse.takeWhile (· != '-')).reverse
  let basic := label.take (label.length - tail.length)
  if basic = ['-'] then none else insertAll tail.length 128 0 72 basic.dropLast tail

end HttpGateway.Url.Punycode
