import HttpGateway.Number.Dyadic

/-!
# The shortest decimal of a binary number

`shortest` gives the fewest decimal digits that are read back as the same number, and of those
the digits nearest to it; a `Tie` says which of two equally near are taken. A decimal is read back
when it lies between the midpoints to the two neighbours, the midpoints included when the
significand is even. For one digit, two digits and so on, the two neighbours of the number on
that decimal grid are tried in exact arithmetic.
-/

namespace HttpGateway.Dyadic

/-- Which of two equally near decimals is taken. -/
inductive Tie
  /-- The one with an even last digit. -/
  | toEven
  /-- The greater in magnitude. -/
  | away
deriving DecidableEq, Repr

/-- The choice between a multiple of a grid step and the next, both equally near. -/
def Tie.choose (lower : Nat) : Tie → Nat
  | .toEven => lower + lower % 2
  | .away => lower + 1

/-- Decimal digits without a trailing zero, and the power of ten of the first digit: the value
is `d.ddd * 10 ^ power`. -/
structure Digits where
  /-- The digits, the first not zero. -/
  digits : List Nat
  /-- The power of ten that the first digit counts. -/
  power : Int
deriving DecidableEq, Repr

/-- The decimal digits of a natural, the most significant first. -/
def decimalDigits (n : Nat) : List Nat := (Nat.toDigits 10 n).map fun c => c.toNat - 48

/-- The power of ten of the first digit of a positive ratio. -/
def leadingPower (num den : Nat) : Int :=
  if den ≤ num then ((Nat.toDigits 10 (num / den)).length : Int) - 1
  else -((Nat.toDigits 10 ((den + num - 1) / num - 1)).length : Int)

/-- The bounds of the decimals that are read back as a positive number, over the common
denominator of its `ratio` times four: lower bound, number, upper bound, denominator. The gap
below is half as wide where the significand is the least of its binade. -/
def readBack (x : Dyadic) : Nat × Nat × Nat × Nat :=
  let ulp := if x.exponent < 0 then 1 else Nat.pow 2 x.exponent.toNat
  let value := 4 * x.ratio.1
  let below := if x.significand = Nat.pow 2 52 ∧ leastExponent < x.exponent then ulp else 2 * ulp
  (value - below, value, value + 2 * ulp, 4 * x.ratio.2)

/-- Whether `k` times the grid step `stepNum / stepDen` is read back as the number. -/
def isReadBack (x : Dyadic) (k stepNum stepDen : Nat) : Bool :=
  let (low, _, high, den) := x.readBack
  let point := k * stepNum * den
  if x.significand % 2 = 0 then low * stepDen ≤ point && point ≤ high * stepDen
  else low * stepDen < point && point < high * stepDen

/-- The multiple of the grid step nearest to the number among those of its two neighbours on the
grid that are read back. -/
def onGrid? (x : Dyadic) (tie : Tie) (stepNum stepDen : Nat) : Option Nat :=
  let (_, value, _, den) := x.readBack
  let lower := value * stepDen / (den * stepNum)
  let r := value * stepDen % (den * stepNum)
  match x.isReadBack lower stepNum stepDen, x.isReadBack (lower + 1) stepNum stepDen with
  | true, true =>
    if 2 * r < den * stepNum then some lower
    else if den * stepNum < 2 * r then some (lower + 1)
    else some (tie.choose lower)
  | true, false => some lower
  | false, true => some (lower + 1)
  | false, false => none

/-- Try one more digit until a grid has a decimal that is read back. -/
def search (x : Dyadic) (tie : Tie) (power : Int) : Nat → Nat → Option (Nat × Int)
  | _, 0 => none
  | count, fuel + 1 =>
    let step : Int := power + 1 - count
    match x.onGrid? tie (Nat.pow 10 step.toNat) (Nat.pow 10 (-step).toNat) with
    | some k => some (k, step)
    | none => x.search tie power (count + 1) fuel

/-- The shortest digits of a number other than zero. -/
def shortest (x : Dyadic) (tie : Tie) : Digits :=
  let power := leadingPower x.ratio.1 x.ratio.2
  match x.search tie power 1 17 with
  | some (k, step) =>
    let digits := decimalDigits k
    ⟨(digits.reverse.dropWhile (· == 0)).reverse, step + digits.length - 1⟩
  | none => ⟨[], 0⟩

/-- The character of a decimal digit. -/
def digitChar (d : Nat) : Char := Char.ofNat (48 + d)

/-- Digits in positional notation, without a point where there is no fraction. -/
def positional (d : Digits) : List Char :=
  let chars := d.digits.map digitChar
  if d.power < 0 then '0' :: '.' :: (List.replicate ((-d.power).toNat - 1) '0' ++ chars)
  else
    let whole := d.power.toNat + 1
    if chars.length ≤ whole then chars ++ List.replicate (whole - chars.length) '0'
    else chars.take whole ++ '.' :: chars.drop whole

/-- The sign of a number, where it is minus. -/
def sign (x : Dyadic) : List Char := if x.negative then ['-'] else []

/-- The number in positional notation with its shortest digits and no needless fraction. Of two
decimals equally near, the greater in magnitude is written. -/
def plainChars (x : Dyadic) : List Char :=
  x.sign ++ if x.isZero then ['0'] else positional (x.shortest .away)

end HttpGateway.Dyadic
