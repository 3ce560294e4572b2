import HttpGateway.Metrics
import Mathlib.Algebra.GroupWithZero.Nat
import Mathlib.Data.List.Lex
import Mathlib.Data.String.Basic

/-!
# Laws of metrics

Counts are kept in the order of the keys of their series, and a series is told by its key
(`Series.key_injective`). So each series has at most one count, and counting up adds one to that of
its own series alone. The count of a series is therefore how often the events that were counted add
to it (`Metrics.count_ofEvents`), and the counts of all series of a name add up to how often the
events add to any of them (`Metrics.total_ofEvents`).
-/

namespace HttpGateway

/-- The names and values of labels, one after the other, tell the labels. -/
theorem Series.eq_of_flatMap_labels {labels others : List (String × String)}
    (same : labels.flatMap (fun label => [label.1, label.2]) =
      others.flatMap fun label => [label.1, label.2]) : labels = others := by
  induction labels generalizing others with
  | nil =>
    cases others with
    | nil => rfl
    | cons other rest => simp at same
  | cons label rest ih =>
    cases others with
    | nil => simp at same
    | cons other more =>
      simp only [List.flatMap_cons, List.cons_append, List.nil_append, List.cons.injEq] at same
      obtain ⟨name, value, tail⟩ := same
      rw [ih tail, Prod.ext name value]

/-- A series is told by its key. -/
theorem Series.key_injective : Function.Injective Series.key := by
  intro series other same
  obtain ⟨name, labels⟩ := series
  obtain ⟨otherName, others⟩ := other
  simp only [key, List.cons.injEq] at same
  obtain ⟨rfl, tail⟩ := same
  rw [eq_of_flatMap_labels tail]

/-- The keys of two series are in order one way or the other. -/
theorem Series.key_lt_of_not {series other : Series} (differ : series ≠ other)
    (above : ¬ series.key < other.key) : other.key < series.key := by
  have keys : series.key ≠ other.key := fun same => differ (key_injective same)
  exact lt_of_le_of_ne (not_lt.1 above) keys.symm

namespace Metrics

variable {counts : List (Series × Nat)} {series other : Series} {metrics : Metrics} {name : String}

/-! ## Counting up -/

/-- Counts are in order when the key of each series is below the keys of those after it. -/
def Ordered (counts : List (Series × Nat)) : Prop :=
  counts.Pairwise fun entry later => entry.1.key < later.1.key

/-- The series after counting up are the one that was counted and those there were. -/
theorem series_of_mem_countUp {entry : Series × Nat} (mem : entry ∈ countUp series counts) :
    entry.1 = series ∨ ∃ earlier ∈ counts, entry.1 = earlier.1 := by
  induction counts with
  | nil =>
    left
    rw [countUp, List.mem_singleton] at mem
    rw [mem]
  | cons first rest ih =>
    obtain ⟨other, n⟩ := first
    unfold countUp at mem
    split at mem
    · next same =>
      rcases List.mem_cons.1 mem with rfl | mem
      · exact .inl same.symm
      · exact .inr ⟨entry, List.mem_cons_of_mem _ mem, rfl⟩
    · split at mem
      · rcases List.mem_cons.1 mem with rfl | mem
        · exact .inl rfl
        · exact .inr ⟨entry, mem, rfl⟩
      · rcases List.mem_cons.1 mem with rfl | mem
        · exact .inr ⟨_, List.mem_cons_self, rfl⟩
        · refine (ih mem).imp_right ?_
          rintro ⟨earlier, there, same⟩
          exact ⟨earlier, List.mem_cons_of_mem _ there, same⟩

/-- Counting up keeps the order. -/
theorem Ordered.countUp (ordered : Ordered counts) : Ordered (countUp series counts) := by
  induction counts with
  | nil => exact List.pairwise_singleton _ _
  | cons first rest ih =>
    obtain ⟨other, n⟩ := first
    obtain ⟨below, others⟩ := List.pairwise_cons.1 ordered
    unfold Metrics.countUp
    split
    · exact List.pairwise_cons.2 ⟨below, others⟩
    · next differ =>
      split
      · next first =>
        refine List.pairwise_cons.2 ⟨fun later mem => ?_, ordered⟩
        rcases List.mem_cons.1 mem with rfl | mem
        · exact first
        · exact List.lt_trans first (below later mem)
      · next after =>
        refine List.pairwise_cons.2 ⟨fun later mem => ?_, ih others⟩
        rcases series_of_mem_countUp mem with same | ⟨earlier, there, same⟩
        · rw [same]
          exact Series.key_lt_of_not differ after
        · rw [same]
          exact below earlier there

/-- The count of a series is that of the first entry for it. -/
theorem count_cons (n : Nat) :
    count ⟨(other, n) :: counts⟩ series = if series = other then n else count ⟨counts⟩ series := by
  unfold count
  rw [List.lookup_cons]
  by_cases same : series = other
  · rw [if_pos same, beq_iff_eq.2 same]
    rfl
  · rw [if_neg same, beq_eq_false_iff_ne.2 same]

/-- A series whose key is below that of all others has no count. -/
theorem count_eq_zero_of_below (below : ∀ entry ∈ counts, series.key < entry.1.key) :
    count ⟨counts⟩ series = 0 := by
  induction counts with
  | nil => rfl
  | cons first rest ih =>
    have differ : series ≠ first.1 := by
      intro same
      have loop := below first List.mem_cons_self
      rw [same] at loop
      exact List.lt_irrefl _ loop
    rw [count_cons, if_neg differ]
    exact ih fun entry mem => below entry (List.mem_cons_of_mem _ mem)

/-- Counting up adds one to the count of its own series alone. -/
theorem count_countUp (ordered : Ordered counts) : count ⟨countUp series counts⟩ other =
    count ⟨counts⟩ other + if series = other then 1 else 0 := by
  induction counts with
  | nil =>
    rw [countUp, count_cons]
    simp only [count, List.lookup_nil, Option.getD_none, Nat.zero_add, eq_comm]
  | cons first rest ih =>
    obtain ⟨head, n⟩ := first
    obtain ⟨below, others⟩ := List.pairwise_cons.1 ordered
    unfold countUp
    split
    · next same =>
      subst same
      rw [count_cons, count_cons]
      by_cases own : other = series
      · rw [if_pos own, if_pos own, if_pos own.symm]
      · rw [if_neg own, if_neg own, if_neg (Ne.symm own)]
        rfl
    · next differ =>
      split
      · next first =>
        -- The series has no count yet, because its key is below all that are there.
        have fresh : count ⟨(head, n) :: rest⟩ series = 0 := by
          refine count_eq_zero_of_below fun entry mem => ?_
          rcases List.mem_cons.1 mem with rfl | mem
          · exact first
          · exact List.lt_trans first (below entry mem)
        rw [count_cons]
        by_cases own : other = series
        · rw [if_pos own, own, fresh, if_pos rfl]
        · rw [if_neg own, if_neg (Ne.symm own)]
          rfl
      · rw [count_cons, count_cons, ih others]
        by_cases atHead : other = head
        · rw [if_pos atHead, if_pos atHead, if_neg fun own => differ (own.trans atHead)]
          rfl
        · rw [if_neg atHead, if_neg atHead]

/-! ## Adding up a name -/

/-- The counts of all series of a name, added up. -/
def total (metrics : Metrics) (name : String) : Nat :=
  ((metrics.counts.filter fun entry => entry.1.name = name).map Prod.snd).sum

/-- The first entry adds its count to the total of its name. -/
theorem total_cons (n : Nat) : total ⟨(series, n) :: counts⟩ name =
    (if series.name = name then n else 0) + total ⟨counts⟩ name := by
  unfold total
  by_cases named : series.name = name
  · rw [List.filter_cons_of_pos (by simpa using named), if_pos named]
    rfl
  · rw [List.filter_cons_of_neg (by simpa using named), if_neg named, Nat.zero_add]

/-- Counting up adds one to the total of the name of the series alone. -/
theorem total_countUp : total ⟨countUp series counts⟩ name =
    total ⟨counts⟩ name + if series.name = name then 1 else 0 := by
  induction counts with
  | nil =>
    rw [countUp, total_cons]
    exact Nat.add_comm _ _
  | cons first rest ih =>
    obtain ⟨head, n⟩ := first
    unfold countUp
    split
    · next same =>
      subst same
      rw [total_cons, total_cons]
      split <;> omega
    · split
      · rw [total_cons]
        exact Nat.add_comm _ _
      · rw [total_cons, total_cons, ih]
        exact (Nat.add_assoc _ _ _).symm

/-! ## Counting events -/

/-- Counting several series adds to the count of a series how often it is among them. -/
theorem count_foldl_countUp (ordered : Ordered counts) (added : List Series) :
    count ⟨added.foldl (fun counts series => countUp series counts) counts⟩ series =
      count ⟨counts⟩ series + added.count series := by
  induction added generalizing counts with
  | nil => rfl
  | cons first rest ih =>
    rw [List.foldl_cons, ih ordered.countUp, count_countUp ordered, List.count_cons, Nat.add_assoc]
    simp only [beq_iff_eq, Nat.add_comm]

/-- Counting several series adds to the total of a name how many of them have it. -/
theorem total_foldl_countUp (added : List Series) :
    total ⟨added.foldl (fun counts series => countUp series counts) counts⟩ name =
      total ⟨counts⟩ name + added.countP (·.name = name) := by
  induction added generalizing counts with
  | nil => rfl
  | cons first rest ih =>
    rw [List.foldl_cons, ih, total_countUp, List.countP_cons, Nat.add_assoc]
    simp only [decide_eq_true_eq, Nat.add_comm]

/-- The series that are counted are those there were and those that were added. -/
theorem series_of_mem_foldl_countUp {entry : Series × Nat} (added : List Series)
    (mem : entry ∈ added.foldl (fun counts series => countUp series counts) counts) :
    entry.1 ∈ added ∨ ∃ earlier ∈ counts, entry.1 = earlier.1 := by
  induction added generalizing counts with
  | nil => exact .inr ⟨entry, mem, rfl⟩
  | cons first rest ih =>
    rcases ih mem with later | ⟨earlier, there, same⟩
    · exact .inl (List.mem_cons_of_mem _ later)
    · rcases series_of_mem_countUp there with own | ⟨before, known, kept⟩
      · exact .inl (List.mem_cons.2 (.inl (same.trans own)))
      · exact .inr ⟨before, known, same.trans kept⟩

/-- Counting events is counting the series that they add to, one after the other. -/
theorem counts_foldl_record (events : List Event) (metrics : Metrics) :
    (events.foldl record metrics).counts = (events.flatMap Event.series).foldl
      (fun counts series => countUp series counts) metrics.counts := by
  induction events generalizing metrics with
  | nil => rfl
  | cons event rest ih => rw [List.foldl_cons, ih, List.flatMap_cons, List.foldl_append, record]

/-- The count of a series is how often the events that were counted add to it. -/
theorem count_ofEvents (events : List Event) :
    (ofEvents events).count series = (events.flatMap Event.series).count series := by
  have empty : Ordered Metrics.empty.counts := .nil
  have none : count ⟨Metrics.empty.counts⟩ series = 0 := rfl
  calc (ofEvents events).count series
      = count ⟨(events.foldl record Metrics.empty).counts⟩ series := rfl
    _ = (events.flatMap Event.series).count series := by
      rw [counts_foldl_record, count_foldl_countUp empty, none, Nat.zero_add]

/-- The counts of all series of a name add up to how often the events that were counted add to any
of them. -/
theorem total_ofEvents (events : List Event) :
    (ofEvents events).total name = (events.flatMap Event.series).countP (·.name = name) := by
  have none : total ⟨Metrics.empty.counts⟩ name = 0 := rfl
  calc (ofEvents events).total name
      = total ⟨(events.foldl record Metrics.empty).counts⟩ name := rfl
    _ = (events.flatMap Event.series).countP (·.name = name) := by
      rw [counts_foldl_record, total_foldl_countUp, none, Nat.zero_add]

/-- Every series that has a count is one that the events which were counted add to. -/
theorem mem_series_of_mem_ofEvents {entry : Series × Nat} {events : List Event}
    (mem : entry ∈ (ofEvents events).counts) : entry.1 ∈ events.flatMap Event.series := by
  unfold ofEvents at mem
  rw [counts_foldl_record] at mem
  rcases series_of_mem_foldl_countUp _ mem with added | ⟨earlier, there, -⟩
  · exact added
  · cases there

end Metrics

end HttpGateway
