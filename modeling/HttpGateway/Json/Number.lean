import HttpGateway.Json.Basic
import HttpGateway.Number.Decimal

/-!
# The value of a JSON number

The digits of a number are gathered into a 64-bit significand. Digits that would overflow it are
dropped: of the integer part each raises the power of ten by one, of the fraction none counts.
A number with a fraction, an exponent or too many digits is the significand times the power of
ten, or divided by it, rounded to the binary format at each step; a power beyond 308 is applied
in two steps.
-/

namespace HttpGateway.Json

/-- The greatest significand. -/
def significandLimit : Nat := 18446744073709551615

/-- Append digits to a significand as long as it does not pass the limit. The digits left out
are returned. -/
def gather (significand : Nat) : List Nat → Nat × List Nat
  | [] => (significand, [])
  | d :: rest =>
    if 10 * significand + d ≤ significandLimit then gather (10 * significand + d) rest
    else (significand, d :: rest)

/-- The binary number nearest to a power of ten. -/
def powerOfTen (k : Nat) : Dyadic := ((Dyadic.ofNat? (Nat.pow 10 k)).getD .zero)

/-- A number scaled by a power of ten, none when the result is too large. A negative power below
`-308` is applied 308 at a time until the number is zero or the rest is in range. -/
def scale? (x : Dyadic) (power : Int) : Nat → Option Dyadic
  | 0 => some x
  | fuel + 1 =>
    if power.natAbs ≤ 308 then
      if 0 ≤ power then x.mul? (powerOfTen power.toNat) else x.div? (powerOfTen power.natAbs)
    else if x.isZero then some x
    else if 0 ≤ power then none
    else (x.div? (powerOfTen 308)).bind fun y => scale? y (power + 308) fuel

/-- The value of a significand and a power of ten with a sign, none when it is too large. Four
steps of 308 powers take any significand to zero. -/
def real? (negative : Bool) (significand : Nat) (power : Int) : Option Number :=
  match (Dyadic.ofNat? significand).bind (scale? · power 5) with
  | some x => some (.real { x with negative })
  | none => none

/-- The value of a number without fraction and exponent: an integer where the range allows it. A
negative zero is no integer. -/
def whole? (negative : Bool) (digits : List Nat) : Option Number :=
  let (significand, dropped) := gather 0 digits
  if !dropped.isEmpty then real? negative significand dropped.length
  else
    let n : Int := if negative then -(significand : Int) else significand
    if negative && (significand == 0 || !inIntegerRange n) then real? negative significand 0
    else some (.integer n)

end HttpGateway.Json
