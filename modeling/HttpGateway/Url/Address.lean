import HttpGateway.Number.Decimal
import HttpGateway.Text.Percent

/-!
# Addresses

A host may be an address of the fourth or sixth version of the internet protocol. A host that
ends in a number has to be an address of the fourth version: up to four numbers, decimal, octal
or hexadecimal, the last of which fills the octets that are left. An address of the sixth version
is eight groups of hexadecimal digits, some of which two colons may stand for, and the last two
of which may be written as an address of the fourth.
-/

namespace HttpGateway.Url

/-- The value of a hexadecimal digit. -/
def hexDigit? (c : Char) : Option Nat :=
  if c.toNat < 128 then Text.Percent.hexValue (Text.Utf8.octet c.toNat) else none

/-- The value of digits in a base, if all are digits of it. -/
def numberIn? (base : Nat) (digits : List Char) : Option Nat :=
  digits.foldlM (fun n c => (hexDigit? c).bind fun d =>
    if d < base then some (n * base + d) else none) 0

/-- The value of a part of an address: hexadecimal after `0x`, octal after another zero, and
decimal otherwise. -/
def part? : List Char → Option Nat
  | [] => none
  | '0' :: 'x' :: digits => numberIn? 16 digits
  | '0' :: 'X' :: digits => numberIn? 16 digits
  | '0' :: c :: digits => numberIn? 8 (c :: digits)
  | digits => numberIn? 10 digits

/-- The parts of a host between dots, without an empty one at the end. -/
def parts (host : List Char) : List (List Char) :=
  let parts := host.splitOn '.'
  if 1 < parts.length && parts.getLast? == some [] then parts.dropLast else parts

/-- Whether a host ends in a number. -/
def endsInNumber (host : List Char) : Bool :=
  match (parts host).getLast? with
  | some last => (!last.isEmpty && last.all Char.isDigit) || (part? last).isSome
  | none => false

/-- Whether the parts of a host make up an address of the fourth version. -/
def isAddress4 (host : List Char) : Bool :=
  match (parts host).mapM part? with
  | none => false
  | some numbers =>
    numbers.length ≤ 4 && numbers.dropLast.all (· ≤ 255) &&
      numbers.getLast?.any fun last => last < Nat.pow 256 (5 - numbers.length)

/-- Whether characters are an octet in decimal without a zero in front. -/
def isDecimalOctet (digits : List Char) : Bool :=
  !digits.isEmpty && digits.all Char.isDigit && (digits.length == 1 || digits.head? != some '0') &&
    digits.length ≤ 3 && (numberIn? 10 digits).any (· ≤ 255)

/-- Whether characters are four octets in decimal. -/
def isDottedQuad (text : List Char) : Bool :=
  (text.splitOn '.').length == 4 && (text.splitOn '.').all isDecimalOctet

/-- Whether characters are a group of up to four hexadecimal digits. -/
def isGroup (digits : List Char) : Bool :=
  !digits.isEmpty && digits.length ≤ 4 && digits.all fun c => (hexDigit? c).isSome

/-- The number of groups that a text between colons stands for; the last may be four octets in
decimal, which stand for two. -/
def countGroups? (quadAllowed : Bool) : List (List Char) → Option Nat
  | [] => some 0
  | [last] =>
    if isGroup last then some 1
    else if quadAllowed && isDottedQuad last then some 2
    else none
  | group :: rest =>
    if isGroup group then (countGroups? quadAllowed rest).map (· + 1) else none

/-- The number of groups of a part of an address, which may be empty. -/
def sideGroups? (quadAllowed : Bool) (side : List Char) : Option Nat :=
  if side.isEmpty then some 0 else countGroups? quadAllowed (side.splitOn ':')

/-- The texts before and after the first two colons in a row. -/
def splitColons : List Char → Option (List Char × List Char)
  | ':' :: ':' :: rest => some ([], rest)
  | c :: rest => (splitColons rest).map fun (before, after) => (c :: before, after)
  | [] => none

/-- Whether characters are an address of the sixth version. -/
def isAddress6 (text : List Char) : Bool :=
  match splitColons text with
  | some (before, after) =>
    match sideGroups? false before, sideGroups? true after with
    | some m, some n => m + n ≤ 7
    | _, _ => false
  | none => countGroups? true (text.splitOn ':') == some 8

end HttpGateway.Url
