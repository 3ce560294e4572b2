import HttpGateway.Proofs.Text.Lowercase
import HttpGateway.Proofs.Text.Strip
import HttpGateway.Text.Uppercase

/-!
# Laws of the upper-case mapping

What the mapping yields it maps to itself, so a second run changes nothing
(`uppercase_uppercase`), and it yields white space of white space alone: the images of the runs and
those of several characters are checked one by one against the tables. So a text without white
space at its ends has none there in upper case (`trim_uppercase_trim`).
-/

namespace HttpGateway.Text

/-! ## Capitals -/

/-- A code point that the mapping leaves as it is. -/
structure IsCapital (n : Nat) : Prop where
  /-- It is that of a character. -/
  valid : n.isValidChar
  /-- It is not mapped to several characters. -/
  single : uppercaseExpansions.lookup n = none
  /-- No run holds it. -/
  noImage : CaseRun.image? uppercaseRuns n = none

/-- A capital is its own upper case. -/
theorem uppercaseChar_of_isCapital {c : Char} (capital : IsCapital c.toNat) :
    uppercaseChar c = [c] := by
  simp only [uppercaseChar, CaseRun.map, capital.single, capital.noImage]

/-- Ranges that hold the white space and the characters whose upper case is several characters. -/
def expandingRanges : List (Nat × Nat) :=
  blankRanges ++ [(0xDF, 0xDF), (0x149, 0x149), (0x1F0, 0x1F0), (0x390, 0x390), (0x3B0, 0x3B0),
    (0x587, 0x587), (0x1E96, 0x1E9A), (0x1F50, 0x1F56), (0x1F80, 0x1FAF), (0x1FB2, 0x1FB7),
    (0x1FBC, 0x1FBC), (0x1FC2, 0x1FC7), (0x1FCC, 0x1FCC), (0x1FD2, 0x1FD7), (0x1FE2, 0x1FE7),
    (0x1FF2, 0x1FF7), (0x1FFC, 0x1FFC), (0xFB00, 0xFB17)]

/-- The characters whose upper case is several characters lie in the ranges. -/
theorem exists_range_of_mem_uppercaseExpansions : ∀ entry ∈ uppercaseExpansions,
    ∃ range ∈ expandingRanges, range.1 ≤ entry.1 ∧ entry.1 ≤ range.2 := by
  decide +kernel

/-- Whether the code points from `low` to `high` are missed by the runs and the ranges, and are no
surrogates; with `even`, those at an even distance from `low`. -/
def areCapitals (even : Bool) (low high : Nat) : Bool :=
  CaseRun.misses even low high uppercaseRuns &&
    (expandingRanges.all fun range => Nat.blt high range.1 || Nat.blt range.2 low) &&
    (Nat.blt high 0xD800 || (Nat.blt 0xDFFF low && Nat.blt high 0x110000))

/-- A code point that is missed is a capital and no white space. -/
theorem isCapital_of_areCapitals {even : Bool} {low high n : Nat}
    (capitals : areCapitals even low high = true) (above : low ≤ n) (below : n ≤ high)
    (parity : even = true → (n - low) % 2 = 0) :
    IsCapital n ∧ inRanges blankRanges n = false := by
  simp only [areCapitals, Bool.and_eq_true, Bool.or_eq_true, Nat.blt_eq, List.all_eq_true]
    at capitals
  obtain ⟨⟨missed, apart⟩, scalar⟩ := capitals
  refine ⟨⟨?valid, ?single, ?noImage⟩, ?noBlank⟩
  case valid => exact scalar.imp (by omega) (by omega)
  case single =>
    refine List.lookup_eq_none_iff.2 fun entry mem => bne_iff_ne.2 fun same => ?_
    obtain ⟨range, held, from_first, to_last⟩ := exists_range_of_mem_uppercaseExpansions entry mem
    have outside := apart range held
    omega
  case noImage => exact CaseRun.image?_of_misses missed above below parity
  case noBlank =>
    refine Bool.eq_false_iff.2 fun blank => ?_
    obtain ⟨range, held, from_first, to_last⟩ := exists_range_of_inRanges blank
    have outside := apart range (List.mem_append_left _ held)
    omega

/-- The images of every run are missed. -/
theorem areCapitals_of_mem_uppercaseRuns : ∀ run ∈ uppercaseRuns,
    areCapitals (Nat.beq run.stride 2 || Nat.beq run.last run.first) run.target
      (Nat.add run.target (Nat.sub run.last run.first)) = true := by
  decide +kernel

/-- Images of several characters are not empty, and each of their characters is missed. -/
theorem areCapitals_of_mem_uppercaseExpansions :
    ∀ entry ∈ uppercaseExpansions, entry.2 ≠ [] ∧ ∀ n ∈ entry.2, areCapitals false n n = true := by
  decide +kernel

/-- What a run maps a code point to is a capital and no white space. -/
theorem isCapital_of_image? {n m : Nat} (found : CaseRun.image? uppercaseRuns n = some m) :
    IsCapital m ∧ inRanges blankRanges m = false := by
  obtain ⟨run, mem, above, below, parity⟩ := CaseRun.exists_bounds_of_image? found
  exact isCapital_of_areCapitals (areCapitals_of_mem_uppercaseRuns run mem) above below parity

/-! ## The upper case of a character -/

/-- The image under an entry of a table is that of the entry. -/
theorem mem_of_lookup_uppercaseExpansions {n : Nat} {image : List Nat}
    (found : uppercaseExpansions.lookup n = some image) : (n, image) ∈ uppercaseExpansions := by
  obtain ⟨front, back, whole, -⟩ := List.lookup_eq_some_iff.1 found
  rw [whole]
  exact List.mem_append_right _ List.mem_cons_self

/-- Every character has an upper case. -/
theorem uppercaseChar_ne_nil (c : Char) : uppercaseChar c ≠ [] := by
  unfold uppercaseChar
  split
  · next image found =>
    have some := (areCapitals_of_mem_uppercaseExpansions _
      (mem_of_lookup_uppercaseExpansions found)).1
    exact mt List.map_eq_nil_iff.1 some
  · exact List.cons_ne_nil _ _

/-- The upper case of a character consists of capitals, and is white space of white space alone. -/
theorem isCapital_of_mem_uppercaseChar {c d : Char} (mem : d ∈ uppercaseChar c) :
    IsCapital d.toNat ∧ (isBlank c = false → isBlank d = false) := by
  -- an image is the character of its number
  have made : ∀ {n : Nat}, IsCapital n ∧ inRanges blankRanges n = false → d = Char.ofNat n →
      IsCapital d.toNat ∧ (isBlank c = false → isBlank d = false) := by
    rintro n ⟨capital, solid⟩ rfl
    rw [isBlank, isBlank, toNat_ofNat_of_isValidChar capital.valid]
    exact ⟨capital, fun _ => solid⟩
  unfold uppercaseChar at mem
  split at mem
  · next image found =>
    obtain ⟨n, held, same⟩ := List.mem_map.1 mem
    have entry := (areCapitals_of_mem_uppercaseExpansions _
      (mem_of_lookup_uppercaseExpansions found)).2 n held
    exact made (isCapital_of_areCapitals entry n.le_refl n.le_refl (by simp)) same.symm
  · next single =>
    rw [List.mem_singleton, CaseRun.map] at mem
    split at mem
    · next n image => exact made (isCapital_of_image? image) mem
    · next noImage =>
      subst mem
      exact ⟨⟨d.valid, single, noImage⟩, id⟩

/-! ## The upper case of a text -/

/-- The upper case of a list of characters is its own upper case. -/
theorem uppercaseChars_uppercaseChars (l : List Char) :
    uppercaseChars (uppercaseChars l) = uppercaseChars l := by
  have kept : ∀ m : List Char, (∀ d ∈ m, IsCapital d.toNat) → uppercaseChars m = m := by
    intro m capitals
    induction m with
    | nil => rfl
    | cons d rest ih =>
      obtain ⟨capital, others⟩ := List.forall_mem_cons.1 capitals
      have own := uppercaseChar_of_isCapital capital
      unfold uppercaseChars at ih ⊢
      rw [List.flatMap_cons, own, ih others, List.singleton_append]
  refine kept _ fun d mem => ?_
  obtain ⟨c, -, image⟩ := List.mem_flatMap.1 mem
  exact (isCapital_of_mem_uppercaseChar image).1

/-- The upper case of a text is its own upper case. -/
theorem uppercase_uppercase (s : String) : uppercase (uppercase s) = uppercase s := by
  simp only [uppercase, String.toList_ofList, uppercaseChars_uppercaseChars]

/-- The upper case of characters that do not begin and end with white space does not either. -/
theorem strip_uppercaseChars {l : List Char} (head : ∀ c ∈ l.head?, isBlank c = false)
    (last : ∀ c ∈ l.getLast?, isBlank c = false) :
    strip isBlank (uppercaseChars l) = uppercaseChars l := by
  apply strip_of_ends
  · cases l with
    | nil => simp [uppercaseChars]
    | cons c rest =>
      have solid : isBlank c = false := head c rfl
      unfold uppercaseChars
      rw [List.flatMap_cons, List.head?_append_of_ne_nil _ (uppercaseChar_ne_nil c)]
      exact fun d mem =>
        (isCapital_of_mem_uppercaseChar (List.mem_of_mem_head? mem)).2 solid
  · rcases List.eq_nil_or_concat l with rfl | ⟨front, c, rfl⟩
    · simp [uppercaseChars]
    · have solid : isBlank c = false := last c (by simp)
      unfold uppercaseChars
      rw [List.concat_eq_append, List.flatMap_append, List.flatMap_singleton,
        List.getLast?_append_of_ne_nil _ (uppercaseChar_ne_nil c)]
      exact fun d mem =>
        (isCapital_of_mem_uppercaseChar (List.mem_of_mem_getLast? mem)).2 solid

/-- The upper case of a text without white space at its ends has none there. -/
theorem trim_uppercase_trim (s : String) : trim (uppercase (trim s)) = uppercase (trim s) := by
  obtain ⟨head, last⟩ := ends_strip isBlank s.toList
  simp only [trim, uppercase, String.toList_ofList, strip_uppercaseChars head last]

end HttpGateway.Text
