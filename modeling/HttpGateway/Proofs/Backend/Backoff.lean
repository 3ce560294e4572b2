import HttpGateway.Backend.Backoff
import Mathlib.Algebra.Order.Ring.Nat
import Mathlib.Order.Interval.Set.Basic

/-!
# The range of delays

Words that would wrap become the largest word instead. Of this nothing is seen in a delay but its
upper limit: without the random share it is the base, doubled with every attempt but the first and
capped, as computed in numbers without a bound (`Backoff.toNat_floor`). The random share takes every
value below a tenth of that and no other (`Backoff.range_share`), so the delays after some attempts
are an interval (`Backoff.delay_range`). No step of the computation is taken where it has no meaning
(`Backoff.delay?_eq_some`).
-/

namespace HttpGateway

/-! ## Words that do not wrap -/

/-- The largest word as a number. -/
theorem toNat_largestWord : largestWord.toNat = 2 ^ 64 - 1 := by decide

/-- The lesser of two words is that of their numbers. -/
theorem toNat_min (a b : UInt64) : (min a b).toNat = min a.toNat b.toNat := by
  change (if a ≤ b then a else b).toNat = _
  split
  · next order => exact (min_eq_left (UInt64.le_iff_toNat_le.1 order)).symm
  · next order => exact (min_eq_right (Nat.le_of_not_le (mt UInt64.le_iff_toNat_le.2 order))).symm

/-- The product of two words is the product of their numbers, as far as words reach. -/
theorem toNat_saturatingMul (a b : UInt64) :
    (saturatingMul a b).toNat = min (a.toNat * b.toNat) (2 ^ 64 - 1) := by
  have size : UInt64.size = 2 ^ 64 := rfl
  unfold saturatingMul
  by_cases fits : a.toNat * b.toNat < UInt64.size
  · rw [if_pos fits, UInt64.toNat_mul]
    omega
  · rw [if_neg fits, toNat_largestWord]
    omega

/-- The sum of two words is the sum of their numbers, as far as words reach. -/
theorem toNat_saturatingAdd (a b : UInt64) :
    (saturatingAdd a b).toNat = min (a.toNat + b.toNat) (2 ^ 64 - 1) := by
  have size : UInt64.size = 2 ^ 64 := rfl
  unfold saturatingAdd
  by_cases fits : a.toNat + b.toNat < UInt64.size
  · rw [if_pos fits, UInt64.toNat_add]
    omega
  · rw [if_neg fits, toNat_largestWord]
    omega

/-- A power of two is that of the number of its exponent, as far as words reach. -/
theorem toNat_saturatingPowerOfTwo (exponent : UInt32) :
    (saturatingPowerOfTwo exponent).toNat = min (2 ^ exponent.toNat) (2 ^ 64 - 1) := by
  have limit : (64 : UInt32).toNat = 64 := rfl
  unfold saturatingPowerOfTwo
  by_cases small : exponent < 64
  · have below : exponent.toNat < 64 := UInt32.lt_iff_toNat_lt.1 small
    have power : 2 ^ exponent.toNat < 2 ^ 64 := Nat.pow_lt_pow_right (by decide) below
    have one : (1 : UInt64).toNat = 1 := rfl
    rw [if_pos small, UInt64.toNat_shiftLeft, UInt32.toNat_toUInt64, Nat.mod_eq_of_lt below, one,
      Nat.one_shiftLeft, Nat.mod_eq_of_lt power]
    omega
  · have beyond : 64 ≤ exponent.toNat :=
      Nat.le_of_not_lt fun below => small (UInt32.lt_iff_toNat_lt.2 below)
    have power : 2 ^ 64 ≤ 2 ^ exponent.toNat := Nat.pow_le_pow_right (by decide) beyond
    rw [if_neg small, toNat_largestWord]
    omega

namespace Backoff

variable (backoff : Backoff)

/-! ## The least delay -/

/-- The least delay after some attempts, at least one: the base doubled with every attempt but the
first, up to the maximum. Its numbers have no bound. -/
def least (attempt : Nat) : Nat :=
  min (backoff.base.toNat * 2 ^ (attempt - 1)) backoff.greatest.toNat

/-- The number of attempts before the last. -/
theorem toNat_sub_one {attempt : UInt32} (made : 1 ≤ attempt) :
    (attempt - 1).toNat = attempt.toNat - 1 := by
  rw [UInt32.toNat_sub_of_le _ _ made]
  rfl

/-- Neither the bound of the power nor that of the product is seen in a delay without its random
share. -/
theorem toNat_floor {attempt : UInt32} (made : 1 ≤ attempt) :
    (backoff.floor attempt).toNat = backoff.least attempt.toNat := by
  have word := backoff.greatest.toNat_lt
  unfold floor least
  rw [toNat_min, toNat_saturatingMul, toNat_saturatingPowerOfTwo, toNat_sub_one made]
  generalize 2 ^ (attempt.toNat - 1) = power
  by_cases small : power ≤ 2 ^ 64 - 1
  · rw [min_eq_left small]
    omega
  -- A power beyond all words leaves nothing of a base but zero or the maximum.
  · rw [min_eq_right (Nat.le_of_not_le small)]
    rcases Nat.eq_zero_or_pos backoff.base.toNat with zero | positive
    · simp [zero]
    · have product : 2 ^ 64 - 1 ≤ backoff.base.toNat * (2 ^ 64 - 1) :=
        Nat.le_mul_of_pos_left _ positive
      have exact : power ≤ backoff.base.toNat * power := Nat.le_mul_of_pos_left _ positive
      omega

/-- The least delay does not decrease with the attempts. -/
theorem least_mono {first later : Nat} (order : first ≤ later) :
    backoff.least first ≤ backoff.least later := by
  have power : 2 ^ (first - 1) ≤ 2 ^ (later - 1) := Nat.pow_le_pow_right (by decide) (by omega)
  have product := Nat.mul_le_mul_left backoff.base.toNat power
  unfold least
  omega

/-- The least delay is never beyond the maximum. -/
theorem least_le (attempt : Nat) : backoff.least attempt ≤ backoff.greatest.toNat :=
  min_le_right _ _

/-! ## The random share -/

/-- The random share takes every value below a tenth of the delay, and is zero if there is none. -/
theorem range_share (delay : UInt64) :
    Set.range (fun draw => (share delay draw).toNat) = Set.Icc 0 (delay.toNat / 10 - 1) := by
  have ten : (delay / 10).toNat = delay.toNat / 10 := UInt64.toNat_div delay 10
  have none : delay / 10 = 0 ↔ delay.toNat / 10 = 0 := by
    rw [← ten]
    exact UInt64.toNat_inj.symm
  ext value
  constructor
  · rintro ⟨draw, rfl⟩
    refine ⟨Nat.zero_le _, ?_⟩
    dsimp only [share]
    by_cases empty : delay / 10 = 0
    · rw [if_pos empty]
      exact Nat.zero_le _
    · have positive := Nat.pos_of_ne_zero (mt none.2 empty)
      have below := Nat.mod_lt draw.toNat positive
      rw [if_neg empty, UInt64.toNat_mod, ten]
      omega
  · rintro ⟨-, top⟩
    have word : delay.toNat < UInt64.size := delay.toNat_lt
    have number : (UInt64.ofNat value).toNat = value := UInt64.toNat_ofNat_of_lt' (by omega)
    refine ⟨.ofNat value, ?_⟩
    dsimp only [share]
    by_cases empty : delay / 10 = 0
    · have zero := none.1 empty
      rw [if_pos empty, UInt64.toNat_zero]
      omega
    · have positive := Nat.pos_of_ne_zero (mt none.2 empty)
      rw [if_neg empty, UInt64.toNat_mod, ten, number]
      exact Nat.mod_eq_of_lt (by omega)

/-! ## Steps that have a meaning -/

/-- The number before a positive one. -/
def predecessor? (n : UInt32) : Option UInt32 := if n = 0 then none else some (n - 1)

/-- A random word below a bound that is not zero. -/
def wordBelow? (bound draw : UInt64) : Option UInt64 :=
  if bound = 0 then none else some (draw % bound)

/-- The delay before the next attempt, by steps each of which is refused where it has no
meaning. -/
def delay? (attempt : UInt32) (draw : UInt64) : Option UInt64 :=
  if attempt = 0 then some 0
  else do
    let doublings ← predecessor? attempt
    let capped := min (saturatingMul backoff.base (saturatingPowerOfTwo doublings)) backoff.greatest
    let jitter ← if 0 < capped / 10 then wordBelow? (capped / 10) draw else some 0
    return saturatingAdd capped jitter

/-- No step is refused. -/
theorem delay?_eq_some (attempt : UInt32) (draw : UInt64) :
    backoff.delay? attempt draw = some (backoff.delay attempt draw) := by
  unfold delay? delay
  by_cases none : attempt = 0
  · rw [if_pos none, if_pos none]
  · rw [if_neg none, if_neg none, predecessor?, if_neg none]
    change (do
      let jitter ← if 0 < backoff.floor attempt / 10 then
        wordBelow? (backoff.floor attempt / 10) draw else some 0
      return saturatingAdd (backoff.floor attempt) jitter) = _
    generalize backoff.floor attempt = capped
    unfold share wordBelow?
    by_cases empty : capped / 10 = 0
    · simp [empty]
    · simp [empty, UInt64.pos_iff_ne_zero]

/-! ## The delay -/

/-- The delay is the least delay with the random share, as far as words reach. -/
theorem toNat_delay {attempt : UInt32} (made : 1 ≤ attempt) (draw : UInt64) :
    (backoff.delay attempt draw).toNat =
      min (backoff.least attempt.toNat + (share (backoff.floor attempt) draw).toNat)
        (2 ^ 64 - 1) := by
  have some : attempt ≠ 0 := by
    rintro rfl
    exact absurd made (by decide)
  rw [delay, if_neg some, toNat_saturatingAdd, backoff.toNat_floor made]

/-- For every schedule, no step of the computation of a delay is without a meaning, and there is no
delay after no attempts. After some attempts the delays that the draws give are exactly the numbers
from the least delay to where one less than a tenth of it is added, as far as words reach. The least
delay does not decrease with the attempts, and once it has reached the maximum it stays there. -/
theorem delay_range (backoff : Backoff) :
    (∀ attempt draw, backoff.delay? attempt draw = some (backoff.delay attempt draw)) ∧
      (∀ draw, backoff.delay 0 draw = 0) ∧
      ∀ attempt : UInt32, 1 ≤ attempt →
        Set.range (fun draw => (backoff.delay attempt draw).toNat) =
            Set.Icc (backoff.least attempt.toNat)
              (min (backoff.least attempt.toNat + (backoff.least attempt.toNat / 10 - 1))
                (2 ^ 64 - 1)) ∧
          ∀ later : UInt32, attempt ≤ later →
            backoff.least attempt.toNat ≤ backoff.least later.toNat ∧
              (backoff.least attempt.toNat = backoff.greatest.toNat →
                backoff.least later.toNat = backoff.greatest.toNat) := by
  refine ⟨backoff.delay?_eq_some, fun draw => rfl, fun attempt made => ⟨?_, fun later order => ?_⟩⟩
  · have shares := range_share (backoff.floor attempt)
    rw [backoff.toNat_floor made] at shares
    have word := backoff.greatest.toNat_lt
    have capped := backoff.least_le attempt.toNat
    ext value
    constructor
    · rintro ⟨draw, rfl⟩
      have upper : (share (backoff.floor attempt) draw).toNat ≤
          backoff.least attempt.toNat / 10 - 1 := ((Set.ext_iff.1 shares _).1 ⟨draw, rfl⟩).2
      dsimp only
      rw [backoff.toNat_delay made]
      constructor <;> omega
    · rintro ⟨lower, upper⟩
      have share : value - backoff.least attempt.toNat ∈
          Set.Icc 0 (backoff.least attempt.toNat / 10 - 1) := ⟨Nat.zero_le _, by omega⟩
      rw [← shares] at share
      obtain ⟨draw, drawn⟩ := share
      refine ⟨draw, ?_⟩
      dsimp only at drawn ⊢
      rw [backoff.toNat_delay made, drawn]
      omega
  · have mono := backoff.least_mono (UInt32.le_iff_toNat_le.1 order)
    exact ⟨mono, fun reached => Nat.le_antisymm (backoff.least_le _) (reached ▸ mono)⟩

/-- Where power and product are beyond all words, the draws reach the largest word and no
further. -/
theorem delay_range_largest : (1 : UInt32) ≤ 65 ∧
    Set.range (fun draw => (delay ⟨3, 18446744073709551610⟩ 65 draw).toNat) =
      Set.Icc 18446744073709551610 18446744073709551615 := by
  have made : (1 : UInt32) ≤ 65 := by decide
  have least : least ⟨3, 18446744073709551610⟩ 65 = 18446744073709551610 := by decide +kernel
  have range := ((delay_range ⟨3, 18446744073709551610⟩).2.2 65 made).1
  have number : (65 : UInt32).toNat = 65 := rfl
  rw [number, least] at range
  exact ⟨made, range⟩

end Backoff

end HttpGateway
