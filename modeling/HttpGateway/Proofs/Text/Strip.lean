import HttpGateway.Text.Blank
import Mathlib.Data.List.Basic
import Mathlib.Data.List.TakeWhile

/-!
# Laws of stripping

Stripping removes members from the two ends of a list and from nowhere else. A part of a list that
begins and ends with members that stay parts the removal in two: what stands before it loses members
in front, what stands after it at its end (`strip_append_append`). A list that begins and ends with
such members is its own strip (`strip_of_ends`), and no member that stays is ever lost
(`mem_strip_of_not`). What is removed are members at the two ends (`exists_eq_append_strip`).
-/

namespace HttpGateway.Text

/-- Visible ASCII characters are no white space. -/
theorem isBlank_eq_false_of_visible {c : Char} (lower : 0x21 ≤ c.toNat) (upper : c.toNat < 0x7F) :
    isBlank c = false := by
  refine Bool.eq_false_iff.2 fun blank => ?_
  obtain ⟨range, mem, first, last⟩ := exists_range_of_inRanges blank
  simp only [blankRanges, List.mem_cons, List.not_mem_nil, or_false] at mem
  rcases mem with rfl | rfl | rfl | rfl | rfl | rfl | rfl | rfl | rfl | rfl <;> omega

section

variable {α : Type} {p : α → Bool}

/-- Removal in front stops at a part that begins with a member that stays. -/
theorem dropWhile_append_of_head {part : List α} (head : ∀ a ∈ part.head?, p a = false)
    (before : List α) : (before ++ part).dropWhile p = before.dropWhile p ++ part := by
  have own : part.dropWhile p = part := by
    cases part with
    | nil => rfl
    | cons a rest =>
      have stays : p a = false := head a rfl
      rw [List.dropWhile_cons_of_neg (by simp [stays])]
  rw [List.dropWhile_append, own]
  by_cases gone : (before.dropWhile p).isEmpty = true
  · rw [if_pos gone, List.isEmpty_iff.1 gone, List.nil_append]
  · rw [if_neg gone]

/-- Removal at the end stops at a part that ends with a member that stays. -/
theorem dropTailWhile_append_of_getLast {part : List α}
    (last : ∀ a ∈ part.getLast?, p a = false) (after : List α) :
    dropTailWhile p (part ++ after) = part ++ dropTailWhile p after := by
  have head : ∀ a ∈ part.reverse.head?, p a = false := by
    rw [List.head?_reverse]
    exact last
  unfold dropTailWhile
  rw [List.reverse_append, dropWhile_append_of_head head, List.reverse_append,
    List.reverse_reverse]

/-- Around a part that begins and ends with members that stay, members are removed in front of what
stands before it and at the end of what stands after it. -/
theorem strip_append_append {part : List α} (some : part ≠ [])
    (head : ∀ a ∈ part.head?, p a = false) (last : ∀ a ∈ part.getLast?, p a = false)
    (before after : List α) :
    strip p (before ++ part ++ after) = before.dropWhile p ++ part ++ dropTailWhile p after := by
  have front : ∀ a ∈ (part ++ after).head?, p a = false := by
    rw [List.head?_append_of_ne_nil _ some]
    exact head
  have back : ∀ a ∈ (before.dropWhile p ++ part).getLast?, p a = false := by
    rw [List.getLast?_append_of_ne_nil _ some]
    exact last
  unfold strip
  rw [List.append_assoc, dropWhile_append_of_head front, ← List.append_assoc,
    dropTailWhile_append_of_getLast back]

/-- A list that begins and ends with members that stay is its own strip. -/
theorem strip_of_ends {l : List α} (head : ∀ a ∈ l.head?, p a = false)
    (last : ∀ a ∈ l.getLast?, p a = false) : strip p l = l := by
  by_cases none : l = []
  · rw [none]
    rfl
  · have whole := strip_append_append none head last [] []
    rwa [List.append_nil, List.dropWhile_nil, List.nil_append, dropTailWhile, List.reverse_nil,
      List.dropWhile_nil, List.reverse_nil, List.append_nil] at whole

/-- A list of members that stay is its own strip. -/
theorem strip_of_forall {l : List α} (kept : ∀ a ∈ l, p a = false) : strip p l = l :=
  strip_of_ends (fun a mem => kept a (List.mem_of_mem_head? mem))
    fun a mem => kept a (List.mem_of_mem_getLast? mem)

/-- Stripping cuts off members at both ends that do not stay. -/
theorem exists_eq_append_strip (p : α → Bool) (l : List α) :
    ∃ front back, l = front ++ strip p l ++ back ∧ (∀ a ∈ front, p a = true) ∧
      ∀ a ∈ back, p a = true := by
  refine ⟨l.takeWhile p, ((l.dropWhile p).reverse.takeWhile p).reverse, ?_, ?_, ?_⟩
  · unfold strip dropTailWhile
    rw [List.append_assoc, ← List.reverse_append, List.takeWhile_append_dropWhile,
      List.reverse_reverse, List.takeWhile_append_dropWhile]
  · exact fun a mem => List.mem_takeWhile_imp mem
  · exact fun a mem => List.mem_takeWhile_imp (List.mem_reverse.1 mem)

/-- Stripping adds no member. -/
theorem mem_of_mem_strip {l : List α} {a : α} (kept : a ∈ strip p l) : a ∈ l := by
  obtain ⟨front, back, whole, -, -⟩ := exists_eq_append_strip p l
  rw [whole]
  exact List.mem_append_left _ (List.mem_append_right _ kept)

/-- A strip begins where removal in front stops. -/
theorem head?_strip (p : α → Bool) (l : List α) : (strip p l).head? = (l.dropWhile p).head? := by
  have start := List.head?_dropWhile_not p l
  unfold strip
  cases left : l.dropWhile p with
  | nil => rfl
  | cons a rest =>
    rw [left] at start
    have stays : p a = false := start
    rw [← List.singleton_append, dropTailWhile_append_of_getLast (by simp [stays])]
    rfl

/-- A strip begins and ends with members that stay. -/
theorem ends_strip (p : α → Bool) (l : List α) :
    (∀ a ∈ (strip p l).head?, p a = false) ∧ ∀ a ∈ (strip p l).getLast?, p a = false := by
  have start : ∀ m : List α, ∀ a ∈ (m.dropWhile p).head?, p a = false := by
    intro m a first
    have stays := List.head?_dropWhile_not p m
    rw [Option.mem_def.1 first] at stays
    exact stays
  rw [head?_strip]
  refine ⟨start l, ?_⟩
  rw [strip, dropTailWhile, List.getLast?_reverse]
  exact start _

/-- A change of the members that keeps which of them stay commutes with stripping. -/
theorem strip_map {f : α → α} (kept : ∀ a, p (f a) = p a) (l : List α) :
    strip p (l.map f) = (strip p l).map f := by
  have same : p ∘ f = p := funext kept
  unfold strip dropTailWhile
  rw [List.dropWhile_map, same, ← List.map_reverse, List.dropWhile_map, same, List.map_reverse]

/-- Members that stay are not lost in front. -/
theorem mem_dropWhile_of_not {a : α} (stays : p a = false) {l : List α} (mem : a ∈ l) :
    a ∈ l.dropWhile p := by
  have parts : a ∈ l.takeWhile p ++ l.dropWhile p := by
    rwa [List.takeWhile_append_dropWhile]
  rcases List.mem_append.1 parts with taken | left
  · have goes : p a = true := List.mem_takeWhile_imp taken
    rw [stays] at goes
    contradiction
  · exact left

/-- Members that stay are not lost. -/
theorem mem_strip_of_not {a : α} (stays : p a = false) {l : List α} (mem : a ∈ l) :
    a ∈ strip p l := by
  unfold strip dropTailWhile
  rw [List.mem_reverse]
  apply mem_dropWhile_of_not stays
  rw [List.mem_reverse]
  exact mem_dropWhile_of_not stays mem

end

end HttpGateway.Text
