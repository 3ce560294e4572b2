import HttpGateway.Number.Dyadic
import HttpGateway.Text.Blank

/-!
# Decimal numbers and their binary values

A decimal is a sign, a natural number of units and a power of ten. `Decimal.nearest` rounds it
once to the nearest number of the 64-bit binary format. `Binary64` adds the two infinities and
the value that is not a number.
-/

namespace HttpGateway

/-- A value of the 64-bit binary format. -/
inductive Binary64
  /-- A finite number. -/
  | finite (x : Dyadic)
  /-- An infinity. -/
  | infinite (negative : Bool)
  /-- Not a number. -/
  | nan
deriving DecidableEq, Repr, Inhabited

/-- The number `± units * 10 ^ power`. -/
structure Decimal where
  /-- Whether the sign is minus. -/
  negative : Bool
  /-- The number of units. -/
  units : Nat
  /-- The power of ten of one unit. -/
  power : Int
deriving DecidableEq, Repr

namespace Decimal

/-- The value of decimal digits, the most significant first. -/
def ofDigits (digits : List Nat) : Nat := digits.foldl (fun n d => 10 * n + d) 0

/-- The value of a decimal digit. -/
def digit? (c : Char) : Option Nat := if c.isDigit then some (c.toNat - 48) else none

/-- The leading digits of a list of characters and the characters after them. -/
def takeDigits : List Char → List Nat × List Char
  | [] => ([], [])
  | c :: rest =>
    match digit? c with
    | some d => let (digits, tail) := takeDigits rest; (d :: digits, tail)
    | none => ([], c :: rest)

/-- The nearest value of the binary format; a number too large for it is infinite. -/
def nearest (d : Decimal) : Binary64 :=
  let reach := ((Nat.toDigits 10 d.units).length : Int) + d.power
  if d.units = 0 ∨ reach < -400 then .finite { Dyadic.zero with negative := d.negative }
  else if 400 < reach then .infinite d.negative
  else
    let rounded :=
      if d.power < 0 then Dyadic.round d.units (Nat.pow 10 (-d.power).toNat)
      else Dyadic.round (d.units * Nat.pow 10 d.power.toNat) 1
    match rounded with
    | some x => .finite { x with negative := d.negative }
    | none => .infinite d.negative

/-- Split a sign off. -/
def takeSign : List Char → Bool × List Char
  | '-' :: rest => (true, rest)
  | '+' :: rest => (false, rest)
  | rest => (false, rest)

/-- Read an exponent, the whole of what is left. -/
def readExponent : List Char → Option Int
  | [] => some 0
  | c :: rest =>
    if c = 'e' ∨ c = 'E' then
      let (negative, rest) := takeSign rest
      match takeDigits rest with
      | ([], _) => none
      | (digits, []) => some (if negative then -(ofDigits digits : Int) else ofDigits digits)
      | _ => none
    else none

/-- Read digits with an optional fraction and an optional exponent; a digit is needed before the
exponent. -/
def read? (text : List Char) : Option Decimal :=
  let (negative, rest) := takeSign text
  let (whole, rest) := takeDigits rest
  let (fraction, rest) :=
    match rest with
    | '.' :: rest => takeDigits rest
    | rest => ([], rest)
  if whole.isEmpty && fraction.isEmpty then none
  else
    (readExponent rest).map fun e =>
      ⟨negative, ofDigits (whole ++ fraction), e - fraction.length⟩

end Decimal

namespace Binary64

/-- Read a decimal number, or the name of an infinity or of the value that is not a number. -/
def read? (text : List Char) : Option Binary64 :=
  match Decimal.read? text with
  | some d => some d.nearest
  | none =>
    let (negative, rest) := Decimal.takeSign text
    let name := String.ofList (rest.map Char.toLower)
    if name = "inf" ∨ name = "infinity" then some (.infinite negative)
    else if name = "nan" then some .nan
    else none

end Binary64

end HttpGateway
