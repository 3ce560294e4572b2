/-!
# Finite binary floating-point numbers

A finite number of the 64-bit binary format is a sign, a significand below `2 ^ 53` and an
exponent of two. `round` gives the nearest such number to a ratio of naturals, a tie going to
the even significand; products, quotients and decimal values are rounded by it once each.
-/

namespace HttpGateway

/-- The number `± significand * 2 ^ exponent`. -/
structure Dyadic where
  /-- Whether the sign is minus; zero has both signs. -/
  negative : Bool
  /-- The significand, below `2 ^ 53`; at least `2 ^ 52` unless the exponent is the least. -/
  significand : Nat
  /-- The exponent, from `-1074` to `971`. -/
  exponent : Int
deriving DecidableEq, Repr, Inhabited

namespace Dyadic

/-- The least exponent. -/
def leastExponent : Int := -1074

/-- The greatest exponent. -/
def greatestExponent : Int := 971

/-- Zero, positive. -/
def zero : Dyadic := ⟨false, 0, leastExponent⟩

/-- Whether a number is zero. -/
def isZero (x : Dyadic) : Bool := x.significand == 0

/-- The nearest natural to a ratio, a tie going to the even one. -/
def roundHalfEven (num den : Nat) : Nat :=
  let q := num / den
  let r := num % den
  if 2 * r < den then q
  else if den < 2 * r then q + 1
  else q + q % 2

/-- The ratio `num / den` with `2 ^ exponent` taken out, as a numerator and a denominator. -/
def scaled (num den : Nat) (exponent : Int) : Nat × Nat :=
  if exponent < 0 then (num * Nat.pow 2 (-exponent).toNat, den)
  else (num, den * Nat.pow 2 exponent.toNat)

/-- The nearest number to the ratio of two naturals, the second positive; none when it is too
large for the format. -/
def round (num den : Nat) : Option Dyadic :=
  if num = 0 then some zero else
  let guess : Int := max ((Nat.log2 num : Int) - Nat.log2 den - 53) leastExponent
  let fits (e : Int) : Bool := (scaled num den e).1 / (scaled num den e).2 < Nat.pow 2 53
  let e := if fits guess then guess else guess + 1
  let m := roundHalfEven (scaled num den e).1 (scaled num den e).2
  let (m, e) := if m = Nat.pow 2 53 then (Nat.pow 2 52, e + 1) else (m, e)
  if greatestExponent < e then none else some ⟨false, m, e⟩

/-- The nearest number to a natural. -/
def ofNat? (n : Nat) : Option Dyadic := round n 1

/-- The magnitude as a ratio of naturals. -/
def ratio (x : Dyadic) : Nat × Nat :=
  if x.exponent < 0 then (x.significand, Nat.pow 2 (-x.exponent).toNat)
  else (x.significand * Nat.pow 2 x.exponent.toNat, 1)

/-- The nearest number to the product of two magnitudes; none when it is too large. -/
def mul? (x y : Dyadic) : Option Dyadic :=
  round (x.ratio.1 * y.ratio.1) (x.ratio.2 * y.ratio.2)

/-- The nearest number to the quotient of two magnitudes, the second not zero; none when it is
too large. -/
def div? (x y : Dyadic) : Option Dyadic :=
  round (x.ratio.1 * y.ratio.2) (x.ratio.2 * y.ratio.1)

end Dyadic

end HttpGateway
