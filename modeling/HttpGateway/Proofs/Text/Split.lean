import Mathlib.Data.List.Basic

/-!
# Pieces of a list

A list cut at a separator has one piece more than it has separators (`length_splitOn`), every
other member is in one of the pieces (`exists_mem_splitOn`), and the pieces have no other members
(`mem_and_ne_of_mem_splitOn`), also if it is cut at members of several kinds
(`mem_and_not_of_mem_splitOnP`). A change of the members that makes no separator and loses none
changes the pieces (`splitOn_map`).
-/

namespace HttpGateway.Text

/-- The members of a piece are members of the list, and at none of them is the list cut. -/
theorem mem_and_not_of_mem_splitOnP {α : Type} {p : α → Bool} {a : α} {piece l : List α}
    (there : piece ∈ l.splitOnP p) (inside : a ∈ piece) : a ∈ l ∧ p a = false := by
  induction l generalizing piece with
  | nil =>
    rw [List.splitOnP_nil, List.mem_singleton] at there
    rw [there] at inside
    cases inside
  | cons b rest ih =>
    rw [List.splitOnP_cons_eq_if_modifyHead] at there
    by_cases cut : p b = true
    · rw [if_pos cut] at there
      rcases List.mem_cons.1 there with rfl | there
      · cases inside
      · exact (ih there inside).imp_left (List.mem_cons_of_mem _)
    · rw [if_neg cut] at there
      obtain ⟨first, others, pieces⟩ := List.exists_cons_of_ne_nil (List.splitOnP_ne_nil p rest)
      rw [pieces] at ih there
      rcases List.mem_cons.1 there with rfl | there
      · rcases List.mem_cons.1 inside with rfl | inside
        · exact ⟨List.mem_cons_self, Bool.eq_false_iff.2 cut⟩
        · exact (ih List.mem_cons_self inside).imp_left (List.mem_cons_of_mem _)
      · exact (ih (List.mem_cons_of_mem _ there) inside).imp_left (List.mem_cons_of_mem _)

variable {α : Type} [BEq α] [LawfulBEq α] {separator : α}

/-- Cutting at a separator gives one piece more than there are separators. -/
theorem length_splitOn (separator : α) (l : List α) :
    (l.splitOn separator).length = l.count separator + 1 := by
  induction l with
  | nil => rfl
  | cons a rest ih =>
    rw [List.splitOn_cons_eq_if_modifyHead]
    by_cases same : a = separator
    · rw [same, if_pos (beq_self_eq_true _), List.length_cons, ih, List.count_cons_self]
    · rw [if_neg (by simpa using same), List.length_modifyHead, ih, List.count_cons_of_ne same]

/-- A member other than the separator is in one of the pieces. -/
theorem exists_mem_splitOn {a : α} {l : List α} (mem : a ∈ l) (other : a ≠ separator) :
    ∃ piece ∈ l.splitOn separator, a ∈ piece := by
  induction l with
  | nil => cases mem
  | cons b rest ih =>
    rw [List.splitOn_cons_eq_if_modifyHead]
    by_cases same : b = separator
    · rw [if_pos (beq_iff_eq.2 same)]
      rcases List.mem_cons.1 mem with rfl | mem
      · exact absurd same other
      · obtain ⟨piece, there, inside⟩ := ih mem
        exact ⟨piece, List.mem_cons_of_mem _ there, inside⟩
    · rw [if_neg (by simpa using same)]
      obtain ⟨first, others, cut⟩ := List.exists_cons_of_ne_nil (List.splitOn_ne_nil separator rest)
      rw [cut] at ih ⊢
      rcases List.mem_cons.1 mem with rfl | mem
      · exact ⟨a :: first, List.mem_cons_self, List.mem_cons_self⟩
      · obtain ⟨piece, there, inside⟩ := ih mem
        rcases List.mem_cons.1 there with rfl | there
        · exact ⟨b :: piece, List.mem_cons_self, List.mem_cons_of_mem _ inside⟩
        · exact ⟨piece, List.mem_cons_of_mem _ there, inside⟩

/-- The members of a piece are members of the list, and none is the separator. -/
theorem mem_and_ne_of_mem_splitOn {a : α} {piece l : List α} (there : piece ∈ l.splitOn separator)
    (inside : a ∈ piece) : a ∈ l ∧ a ≠ separator := by
  rw [List.splitOn_eq_splitOnP] at there
  obtain ⟨mem, other⟩ := mem_and_not_of_mem_splitOnP there inside
  exact ⟨mem, by simpa using other⟩

omit [LawfulBEq α] in
/-- A change of the members that keeps which of them are separators commutes with cutting. -/
theorem splitOn_map {f : α → α} (kept : ∀ a, (f a == separator) = (a == separator)) (l : List α) :
    (l.map f).splitOn separator = (l.splitOn separator).map (List.map f) := by
  induction l with
  | nil => rfl
  | cons a rest ih =>
    rw [List.map_cons, List.splitOn_cons_eq_if_modifyHead, List.splitOn_cons_eq_if_modifyHead, kept,
      ih]
    split
    · rfl
    · cases rest.splitOn separator <;> rfl

end HttpGateway.Text
