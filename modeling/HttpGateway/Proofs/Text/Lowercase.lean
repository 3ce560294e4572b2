import HttpGateway.Text.Lowercase

/-!
# Laws of the lower-case mapping

Every character has a lower case of at least one character, so only the empty text has an empty
lower case (`lowercaseChars_eq_nil_iff`). What the mapping yields it maps to itself, wherever it
stands, so a second run changes nothing (`lowercase_lowercase`): the images of the runs are
checked one by one against the runs, and the final sigma concerns the capital alone. A settled
character before the small letters is the lower case of itself alone, so it is kept and never made
(`mem_lowercaseChars_iff`). The mapping of a sigma looks at the text around it as far as the next
character that parts words, so the parts of a text before and after such a character are mapped as
if each stood alone (`lowercaseChars_append_cons`).
-/

namespace HttpGateway.Text

/-- A code point that the mapping leaves as it is, in whatever text it stands. -/
def IsSettled (n : Nat) : Prop :=
  n.isValidChar ∧ n ≠ 0x3A3 ∧ n ≠ 0x130 ∧ CaseRun.image? lowercaseRuns n = none

instance (n : Nat) : Decidable (IsSettled n) :=
  inferInstanceAs (Decidable (_ ∧ _ ∧ _ ∧ _))

/-- The number of a character given by the number of a character. -/
theorem toNat_ofNat_of_isValidChar {n : Nat} (valid : n.isValidChar) :
    (Char.ofNat n).toNat = n := by
  have made : Char.ofNat n = Char.ofNatAux n valid := dif_pos valid
  rw [made]
  rfl

/-- A settled character is its own lower case between any texts. -/
theorem lowercaseBetween_of_isSettled {c : Char} (settled : IsSettled c.toNat)
    (before after : List Char) : lowercaseBetween before c after = [c] := by
  obtain ⟨-, noSigma, noDotted, noImage⟩ := settled
  simp only [lowercaseBetween, lowercaseChar, CaseRun.map, noSigma, noDotted, noImage, ↓reduceIte]

/-- A text of settled characters is its own lower case. -/
theorem lowercaseAfter_of_isSettled {l : List Char} (settled : ∀ c ∈ l, IsSettled c.toNat)
    (before : List Char) : lowercaseAfter before l = l := by
  induction l generalizing before with
  | nil => rfl
  | cons c rest ih =>
    have head := lowercaseBetween_of_isSettled (settled c List.mem_cons_self) before rest
    have tail := ih (fun d mem => settled d (List.mem_cons_of_mem c mem)) (c :: before)
    rw [lowercaseAfter, head, tail, List.singleton_append]

/-- Whether no run of a list, which is in increasing order, holds a code point from `low` to `high`;
with `even`, none at an even distance from `low`. The arithmetic is that of the kernel, since the
whole table is checked with it. -/
def CaseRun.misses (even : Bool) (low high : Nat) : List CaseRun → Bool
  | [] => true
  | ⟨first, last, stride, _⟩ :: rest =>
    Nat.blt high first ||
      (Nat.blt last low ||
        (even && Nat.beq stride 2 && Nat.beq (Nat.mod (Nat.add low first) 2) 1)) &&
      misses even low high rest

/-- A code point that the runs miss has no image. -/
theorem CaseRun.image?_of_misses {even : Bool} {low high n : Nat} {runs : List CaseRun}
    (missed : misses even low high runs = true) (above : low ≤ n) (below : n ≤ high)
    (parity : even = true → (n - low) % 2 = 0) : image? runs n = none := by
  induction runs with
  | nil => rfl
  | cons run rest ih =>
    obtain ⟨first, last, stride, target⟩ := run
    simp only [misses, Bool.or_eq_true, Bool.and_eq_true, Nat.blt_eq, Nat.beq_eq] at missed
    unfold image?
    by_cases beyond : n < first
    · rw [if_pos beyond]
    · rw [if_neg beyond]
      obtain clear | ⟨clear, others⟩ := missed
      · omega
      · rw [if_neg, ih others]
        rintro ⟨within, divides⟩
        dsimp only at within divides
        obtain passed | ⟨⟨isEven, rfl⟩, odd⟩ := clear
        · omega
        · have same := parity isEven
          change (low + first) % 2 = 1 at odd
          omega

/-- An image stands between the first and the last of its run, and at an even distance from the
first in a run of distance two or of a single code point. -/
theorem CaseRun.exists_bounds_of_image? {runs : List CaseRun} {n m : Nat}
    (found : image? runs n = some m) : ∃ run ∈ runs, run.target ≤ m ∧
      m ≤ run.target + (run.last - run.first) ∧
      ((Nat.beq run.stride 2 || Nat.beq run.last run.first) = true →
        (m - run.target) % 2 = 0) := by
  obtain ⟨run, mem, above, below, divides, rfl⟩ := exists_run_of_image? found
  refine ⟨run, mem, by omega, by omega, fun even => ?_⟩
  simp only [Bool.or_eq_true, Nat.beq_eq] at even
  obtain two | single := even
  · rw [two] at divides
    omega
  · omega

/-- The images of a run are missed by every run, and are neither the dotted capital nor
surrogates. -/
def CaseRun.IsFinal (run : CaseRun) : Prop :=
  let high := Nat.add run.target (Nat.sub run.last run.first)
  misses (Nat.beq run.stride 2 || Nat.beq run.last run.first) run.target high lowercaseRuns ∧
    (high < 0x130 ∨ 0x130 < run.target) ∧
    (high < 0xD800 ∨ (0xDFFF < run.target ∧ high < 0x110000))

instance (run : CaseRun) : Decidable run.IsFinal :=
  inferInstanceAs (Decidable (_ ∧ (_ ∨ _) ∧ (_ ∨ _ ∧ _)))

/-- The images of every run of the mapping are final. -/
theorem isFinal_of_mem_lowercaseRuns : ∀ run ∈ lowercaseRuns, run.IsFinal := by
  decide +kernel

/-- The capital sigma has an image. -/
theorem image?_sigma : CaseRun.image? lowercaseRuns 0x3A3 ≠ none := by
  decide +kernel

/-- What a run maps a code point to is settled. -/
theorem isSettled_of_image? {n m : Nat} (found : CaseRun.image? lowercaseRuns n = some m) :
    IsSettled m := by
  obtain ⟨run, mem, above, below, parity⟩ := CaseRun.exists_bounds_of_image? found
  obtain ⟨missed, noDotted, scalar⟩ := isFinal_of_mem_lowercaseRuns run mem
  simp only [Nat.add_eq, Nat.sub_eq] at missed noDotted scalar
  have noImage := CaseRun.image?_of_misses missed above below parity
  refine ⟨?_, ?_, by omega, noImage⟩
  · exact scalar.imp (by omega) (by omega)
  · intro sigma
    exact image?_sigma (sigma ▸ noImage)

/-- The simple mapping yields a settled character, of any other than the two that the full mapping
treats apart. -/
theorem map_isSettled {c : Char} (noSigma : c.toNat ≠ 0x3A3) (noDotted : c.toNat ≠ 0x130) :
    IsSettled (CaseRun.map lowercaseRuns c).toNat := by
  cases image : CaseRun.image? lowercaseRuns c.toNat with
  | none =>
    simp only [CaseRun.map, image]
    exact ⟨c.valid, noSigma, noDotted, image⟩
  | some m =>
    have settled := isSettled_of_image? image
    simp only [CaseRun.map, image]
    rwa [toNat_ofNat_of_isValidChar settled.1]

/-- The mapping of a character between any texts yields settled characters. -/
theorem isSettled_of_mem_lowercaseBetween {before after : List Char} {c d : Char}
    (mem : d ∈ lowercaseBetween before c after) : IsSettled d.toNat := by
  unfold lowercaseBetween lowercaseChar at mem
  by_cases sigma : c.toNat = 0x3A3
  · rw [if_pos sigma, List.mem_singleton] at mem
    subst mem
    split <;> decide +kernel
  · rw [if_neg sigma] at mem
    by_cases dotted : c.toNat = 0x130
    · rw [if_pos dotted, List.mem_cons, List.mem_singleton] at mem
      rcases mem with rfl | rfl <;> decide +kernel
    · rw [if_neg dotted, List.mem_singleton] at mem
      rw [mem]
      exact map_isSettled sigma dotted

/-- The lower case of a text consists of settled characters. -/
theorem isSettled_of_mem_lowercaseAfter {before l : List Char} {d : Char}
    (mem : d ∈ lowercaseAfter before l) : IsSettled d.toNat := by
  induction l generalizing before with
  | nil => simp [lowercaseAfter] at mem
  | cons c rest ih =>
    rw [lowercaseAfter, List.mem_append] at mem
    rcases mem with head | tail
    · exact isSettled_of_mem_lowercaseBetween head
    · exact ih tail

/-- The lower case of a list of characters is its own lower case. -/
theorem lowercaseChars_lowercaseChars (l : List Char) :
    lowercaseChars (lowercaseChars l) = lowercaseChars l :=
  lowercaseAfter_of_isSettled (fun _ mem => isSettled_of_mem_lowercaseAfter mem) []

/-- The lower case of a text is its own lower case. -/
theorem lowercase_lowercase (s : String) : lowercase (lowercase s) = lowercase s := by
  simp only [lowercase, String.toList_ofList, lowercaseChars_lowercaseChars]

/-- Every character has a lower case. -/
theorem lowercaseBetween_ne_nil (before : List Char) (c : Char) (after : List Char) :
    lowercaseBetween before c after ≠ [] := by
  unfold lowercaseBetween lowercaseChar
  split
  · simp
  · split <;> simp

/-- Only the empty text has an empty lower case. -/
theorem lowercaseChars_eq_nil_iff {l : List Char} : lowercaseChars l = [] ↔ l = [] := by
  cases l with
  | nil => simp [lowercaseChars, lowercaseAfter]
  | cons c rest => simp [lowercaseChars, lowercaseAfter, lowercaseBetween_ne_nil]

/-! ## Characters that stand for themselves alone -/

/-- The images of the runs are small letters or lie beyond them. -/
theorem le_target_of_mem_lowercaseRuns : ∀ run ∈ lowercaseRuns, 0x61 ≤ run.target := by
  decide +kernel

/-- A character before the small letters is the lower case of no other. -/
theorem eq_of_mem_lowercaseBetween {before after : List Char} {c d : Char}
    (low : d.toNat < 0x61) (mem : d ∈ lowercaseBetween before c after) : d = c := by
  unfold lowercaseBetween lowercaseChar at mem
  by_cases sigma : c.toNat = 0x3A3
  · have small : ∀ n, n = 0x3C2 ∨ n = 0x3C3 → 0x61 ≤ (Char.ofNat n).toNat := by
      rintro n (rfl | rfl) <;> decide
    have image := small (if meetsCased before && !meetsCased after then 0x3C2 else 0x3C3)
      (by split <;> simp)
    rw [if_pos sigma, List.mem_singleton] at mem
    rw [← mem] at image
    omega
  · rw [if_neg sigma] at mem
    by_cases dotted : c.toNat = 0x130
    · rw [if_pos dotted, List.mem_cons, List.mem_singleton] at mem
      rcases mem with rfl | rfl <;> exact absurd low (by decide)
    · rw [if_neg dotted, List.mem_singleton] at mem
      cases image : CaseRun.image? lowercaseRuns c.toNat with
      | none => simpa only [CaseRun.map, image] using mem
      | some m =>
        obtain ⟨run, held, above, -, -, rfl⟩ := CaseRun.exists_run_of_image? image
        have beyond := le_target_of_mem_lowercaseRuns run held
        have number : d.toNat = run.target + (c.toNat - run.first) := by
          simp only [CaseRun.map, image] at mem
          rw [mem, toNat_ofNat_of_isValidChar (isSettled_of_image? image).1]
        omega

/-- A settled character before the small letters stands in the lower case of a text exactly when it
stands in the text. -/
theorem mem_lowercaseChars_iff {d : Char} (low : d.toNat < 0x61) (settled : IsSettled d.toNat)
    {l : List Char} : d ∈ lowercaseChars l ↔ d ∈ l := by
  have inside : ∀ before, d ∈ lowercaseAfter before l ↔ d ∈ l := by
    induction l with
    | nil => simp [lowercaseAfter]
    | cons c rest ih =>
      intro before
      rw [lowercaseAfter, List.mem_append, ih, List.mem_cons]
      refine or_congr ⟨eq_of_mem_lowercaseBetween low, ?_⟩ Iff.rfl
      rintro rfl
      rw [lowercaseBetween_of_isSettled settled]
      exact List.mem_singleton_self d
  exact inside []

/-! ## Characters that part words -/

/-- A character that ends the search for a cased character without being one. -/
def IsParting (c : Char) : Prop := isCaseIgnorable c = false ∧ isCased c = false

instance (c : Char) : Decidable (IsParting c) := inferInstanceAs (Decidable (_ ∧ _))

/-- A text meets no cased character behind one that parts words. -/
theorem meetsCased_append_cons {c : Char} (parting : IsParting c) (l rest : List Char) :
    meetsCased (l ++ c :: rest) = meetsCased l := by
  have kept : ¬ isCaseIgnorable c = true := by simp [parting.1]
  unfold meetsCased
  rw [List.dropWhile_append, List.dropWhile_cons_of_neg kept]
  cases l.dropWhile isCaseIgnorable with
  | nil => exact parting.2
  | cons d others => rfl

theorem lowercaseAfter_cons (before : List Char) (c : Char) (rest : List Char) :
    lowercaseAfter before (c :: rest) =
      lowercaseBetween before c rest ++ lowercaseAfter (c :: before) rest := rfl

/-- What stands in front of a character that parts words does not count for the text after it. -/
theorem lowercaseAfter_append_cons {c : Char} (parting : IsParting c) (before more l : List Char) :
    lowercaseAfter (before ++ c :: more) l = lowercaseAfter before l := by
  induction l generalizing before with
  | nil => rfl
  | cons d rest ih =>
    rw [lowercaseAfter_cons, lowercaseAfter_cons, ← List.cons_append, ih]
    simp only [lowercaseBetween, meetsCased_append_cons parting]

/-- What stands from a character that parts words on does not count for the text before it. -/
theorem lowercaseAfter_of_append_cons {c : Char} (parting : IsParting c)
    (before l rest : List Char) :
    lowercaseAfter before (l ++ c :: rest) =
      lowercaseAfter before l ++ lowercaseAfter (l.reverse ++ before) (c :: rest) := by
  induction l generalizing before with
  | nil => rfl
  | cons d l ih =>
    rw [List.cons_append, lowercaseAfter_cons before d, lowercaseAfter_cons before d, ih,
      List.append_assoc, List.reverse_cons, List.append_assoc, List.singleton_append]
    simp only [lowercaseBetween, meetsCased_append_cons parting]

/-- The parts of a text before and after a settled character that parts words have the lower case
that they have alone. -/
theorem lowercaseChars_append_cons {c : Char} (parting : IsParting c) (settled : IsSettled c.toNat)
    (l rest : List Char) :
    lowercaseChars (l ++ c :: rest) = lowercaseChars l ++ c :: lowercaseChars rest := by
  have alone : lowercaseAfter ([] ++ c :: l.reverse) rest = lowercaseAfter [] rest :=
    lowercaseAfter_append_cons parting [] l.reverse rest
  unfold lowercaseChars
  rw [lowercaseAfter_of_append_cons parting, List.append_nil, lowercaseAfter_cons l.reverse c,
    lowercaseBetween_of_isSettled settled, List.singleton_append, ← alone, List.nil_append]

end HttpGateway.Text
