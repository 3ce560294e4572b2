/-!
# Classes of code points as sorted ranges

A class of characters is a list of ranges of code points in increasing order. `inRanges`
searches it and stops at the first range that starts above the code point asked for.
-/

namespace HttpGateway.Text

/-- Whether a code point lies in one of the ranges, which are listed in increasing order. -/
def inRanges : List (Nat × Nat) → Nat → Bool
  | [], _ => false
  | (first, last) :: rest, n =>
    if n < first then false else if n ≤ last then true else inRanges rest n

/-- A code point found lies in one of the ranges. -/
theorem exists_range_of_inRanges {ranges : List (Nat × Nat)} {n : Nat}
    (found : inRanges ranges n = true) : ∃ r ∈ ranges, r.1 ≤ n ∧ n ≤ r.2 := by
  induction ranges with
  | nil => simp [inRanges] at found
  | cons range rest ih =>
    obtain ⟨first, last⟩ := range
    unfold inRanges at found
    split at found
    · contradiction
    · split at found
      · exact ⟨(first, last), List.mem_cons_self, by omega, by omega⟩
      · obtain ⟨r, mem, bounds⟩ := ih found
        exact ⟨r, List.mem_cons_of_mem _ mem, bounds⟩

end HttpGateway.Text
