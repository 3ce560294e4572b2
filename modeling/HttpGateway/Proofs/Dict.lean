import HttpGateway.Dict

/-!
# Laws of dictionaries

The look-up of a dictionary after each of its operations. The order of the entries makes a
look-up find exactly the entries (`get?_eq_some_iff`), an insertion changes the value under its
own key alone (`get?_insert`), and a list whose keys are distinct keeps all its entries when it
becomes a dictionary (`get?_ofList_eq_some_iff`). Dictionaries with the same look-ups are equal
(`ext_get?`). A set of names is determined by its members (`Names.ext_mem`).
-/

namespace HttpGateway

namespace Dict

variable {α : Type}

/-- A look-up in a list takes the first entry with the key. -/
theorem lookup_cons_eq_if (key k : String) (v : α) (rest : List (String × α)) :
    ((k, v) :: rest).lookup key = if key = k then some v else rest.lookup key := by
  by_cases same : key = k
  · subst same
    simp
  · rw [List.lookup_cons, beq_eq_false_iff_ne.2 same, if_neg same]

/-- A look-up in a list with distinct keys finds exactly its entries. -/
theorem lookup_eq_some_iff {l : List (String × α)} (distinct : (l.map Prod.fst).Nodup)
    {key : String} {value : α} : l.lookup key = some value ↔ (key, value) ∈ l := by
  induction l with
  | nil => simp
  | cons head rest ih =>
    obtain ⟨k, v⟩ := head
    obtain ⟨fresh, others⟩ := List.nodup_cons.1 distinct
    rw [lookup_cons_eq_if, List.mem_cons, Prod.mk.injEq]
    by_cases same : key = k
    · subst same
      have absent : (key, value) ∉ rest := fun mem => fresh (List.mem_map.2 ⟨_, mem, rfl⟩)
      simp only [↓reduceIte, Option.some.injEq, true_and, absent, or_false, eq_comm]
    · simp only [same, ↓reduceIte, ih others, false_and, false_or]

/-- The keys of a dictionary are distinct. -/
theorem keys_nodup (d : Dict α) : (d.entries.map Prod.fst).Nodup :=
  List.pairwise_map.2 (d.sorted.imp fun below => String.ne_of_lt below)

/-- The value under a key is that of the entry with the key. -/
theorem get?_eq_some_iff {d : Dict α} {key : String} {value : α} :
    d.get? key = some value ↔ (key, value) ∈ d.entries :=
  lookup_eq_some_iff d.keys_nodup

/-- A dictionary without entries is the empty one. -/
theorem isEmpty_iff {d : Dict α} : d.isEmpty = true ↔ d = ∅ := by
  refine ⟨fun none => Dict.ext (List.isEmpty_iff.1 none), ?_⟩
  rintro rfl
  rfl

/-- A look-up after putting an entry into a list. -/
theorem lookup_insertEntry (key other : String) (value : α) (l : List (String × α)) :
    (insertEntry key value l).lookup other =
      if other = key then some value else l.lookup other := by
  induction l with
  | nil => rw [insertEntry, lookup_cons_eq_if]
  | cons head rest ih =>
    obtain ⟨k, v⟩ := head
    unfold insertEntry
    split
    · rw [lookup_cons_eq_if]
    · split
      · next replaced =>
        subst replaced
        simp only [lookup_cons_eq_if]
        split <;> rfl
      · next differ =>
        rw [lookup_cons_eq_if, lookup_cons_eq_if, ih]
        by_cases atHead : other = k
        · subst atHead
          rw [if_pos rfl, if_pos rfl, if_neg (Ne.symm differ)]
        · rw [if_neg atHead, if_neg atHead]

/-- An insertion changes the value under its own key alone. -/
theorem get?_insert (d : Dict α) (key other : String) (value : α) :
    (d.insert key value).get? other = if other = key then some value else d.get? other :=
  lookup_insertEntry key other value d.entries

/-- Insertions one after the other keep what is under keys that none of them has. -/
theorem get?_foldl_insert_of_not_mem (l : List (String × α)) (d : Dict α) {key : String}
    (absent : key ∉ l.map Prod.fst) :
    (l.foldl (fun d e => d.insert e.1 e.2) d).get? key = d.get? key := by
  induction l generalizing d with
  | nil => rfl
  | cons head rest ih =>
    obtain ⟨differ, others⟩ := not_or.1 (mt List.mem_cons.2 absent)
    rw [List.foldl_cons, ih _ others, get?_insert, if_neg differ]

/-- Insertions with distinct keys leave each of their values under its key. -/
theorem get?_foldl_insert_of_mem {l : List (String × α)} (distinct : (l.map Prod.fst).Nodup)
    (d : Dict α) {key : String} {value : α} (mem : (key, value) ∈ l) :
    (l.foldl (fun d e => d.insert e.1 e.2) d).get? key = some value := by
  induction l generalizing d with
  | nil => simp at mem
  | cons head rest ih =>
    obtain ⟨fresh, others⟩ := List.nodup_cons.1 distinct
    rw [List.foldl_cons]
    rcases List.mem_cons.1 mem with rfl | later
    · rw [get?_foldl_insert_of_not_mem rest _ fresh, get?_insert, if_pos rfl]
    · exact ih others _ later

/-- The dictionary of a list with distinct keys holds exactly the entries of the list. -/
theorem get?_ofList_eq_some_iff {l : List (String × α)} (distinct : (l.map Prod.fst).Nodup)
    {key : String} {value : α} : (ofList l).get? key = some value ↔ (key, value) ∈ l := by
  refine ⟨fun found => ?_, get?_foldl_insert_of_mem distinct empty⟩
  by_cases present : key ∈ l.map Prod.fst
  · obtain ⟨⟨_, kept⟩, mem, rfl⟩ := List.mem_map.1 present
    have value' := get?_foldl_insert_of_mem distinct empty mem
    obtain rfl : kept = value := Option.some.inj (value'.symm.trans found)
    exact mem
  · have nothing := get?_foldl_insert_of_not_mem l empty present
    exact absurd (nothing.symm.trans found) (by simp [empty, get?])

/-- A dictionary is empty when no key has a value. -/
theorem eq_empty_iff {d : Dict α} : d = ∅ ↔ ∀ key, d.get? key = none := by
  constructor
  · rintro rfl key
    rfl
  · intro nothing
    refine Dict.ext (List.eq_nil_iff_forall_not_mem.2 fun entry mem => ?_)
    have found := get?_eq_some_iff.2 mem
    simp [nothing] at found

/-- A look-up in a dictionary whose values are mapped maps the value that was there. -/
theorem get?_filterMap {β : Type} (d : Dict α) (f : α → Option β) (key : String) :
    (d.filterMap f).get? key = (d.get? key).bind f := by
  refine Option.ext fun value => ?_
  rw [get?_eq_some_iff, filterMap, List.mem_filterMap, Option.bind_eq_some_iff]
  constructor
  · rintro ⟨⟨k, a⟩, mem, mapped⟩
    obtain ⟨b, image, same⟩ := Option.map_eq_some_iff.1 mapped
    cases same
    exact ⟨a, get?_eq_some_iff.2 mem, image⟩
  · rintro ⟨a, found, image⟩
    exact ⟨(key, a), get?_eq_some_iff.1 found, by simp [image]⟩

/-- Lists with distinct keys and the same entries are permutations of each other. -/
theorem perm_of_entries {l m : List (String × α)} (distinct : (l.map Prod.fst).Nodup)
    (others : (m.map Prod.fst).Nodup)
    (same : ∀ key value, (key, value) ∈ l ↔ (key, value) ∈ m) : l.Perm m := by
  have once : ∀ n : List (String × α), (n.map Prod.fst).Nodup → n.Nodup := fun n keys =>
    List.Pairwise.of_map Prod.fst (fun _ _ differ alike => differ (congrArg Prod.fst alike)) keys
  exact (List.perm_ext_iff_of_nodup (once l distinct) (once m others)).2 fun entry =>
    same entry.1 entry.2

/-- Dictionaries with the same look-ups are equal. -/
theorem ext_get? {d e : Dict α} (same : ∀ key, d.get? key = e.get? key) : d = e := by
  have perm : d.entries.Perm e.entries := by
    apply perm_of_entries d.keys_nodup e.keys_nodup
    intro key value
    rw [← get?_eq_some_iff, ← get?_eq_some_iff, same]
  have antisymmetric : ∀ x y : String × α, x ∈ d.entries → y ∈ e.entries → x.1 < y.1 →
      y.1 < x.1 → x = y := fun _ _ _ _ below above => absurd below (String.lt_asymm above)
  exact Dict.ext (perm.eq_of_pairwise antisymmetric d.sorted e.sorted)

/-- The entries of a dictionary make up the same dictionary again. -/
theorem ofList_entries (d : Dict α) : ofList d.entries = d := by
  apply ext_get?
  intro key
  apply Option.ext
  intro value
  rw [get?_ofList_eq_some_iff d.keys_nodup, get?_eq_some_iff]

/-- A list with distinct keys has as many entries as the dictionary that it becomes. -/
theorem size_ofList {l : List (String × α)} (distinct : (l.map Prod.fst).Nodup) :
    (ofList l).size = l.length := by
  have perm : (ofList l).entries.Perm l := by
    apply perm_of_entries (ofList l).keys_nodup distinct
    intro key value
    rw [← get?_eq_some_iff, get?_ofList_eq_some_iff distinct]
  exact perm.length_eq

/-- The entries after applying a function to every value. -/
theorem entries_map {β : Type} (d : Dict α) (f : α → β) :
    (d.map f).entries = d.entries.map fun entry => (entry.1, f entry.2) := by
  simp only [map, filterMap, Option.map_some, List.filterMap_eq_map']

/-- A look-up in a dictionary whose values are changed changes the value that was there. -/
theorem get?_map {β : Type} (d : Dict α) (f : α → β) (key : String) :
    (d.map f).get? key = (d.get? key).map f := by
  rw [map, get?_filterMap]
  cases d.get? key <;> rfl

/-- A change of the values keeps the keys. -/
theorem keys_map {β : Type} (d : Dict α) (f : α → β) : (d.map f).keys = d.keys := by
  unfold keys
  rw [entries_map, List.map_map]
  rfl

/-- A change of the values of a list changes the values of the dictionary that it becomes. -/
theorem ofList_map {β : Type} (f : α → β) (l : List (String × α)) :
    ofList (l.map fun entry => (entry.1, f entry.2)) = (ofList l).map f := by
  have insert_map : ∀ (d : Dict α) key value,
      (d.map f).insert key (f value) = (d.insert key value).map f := by
    intro d key value
    apply ext_get?
    intro other
    rw [get?_insert, get?_map, get?_map, get?_insert]
    split <;> rfl
  have run : ∀ d : Dict α,
      (l.map fun entry => (entry.1, f entry.2)).foldl (fun d e => d.insert e.1 e.2) (d.map f) =
        (l.foldl (fun d e => d.insert e.1 e.2) d).map f := by
    induction l with
    | nil => exact fun d => rfl
    | cons entry rest ih =>
      intro d
      rw [List.map_cons, List.foldl_cons, List.foldl_cons, insert_map, ih]
  exact run empty

end Dict

/-! ## Sets of names -/

namespace Names

variable {names first second : Names} {name other : String}

/-- The members of a set are the keys with an entry. -/
theorem mem_toList_iff : name ∈ names.toList ↔ names.get? name = some () := by
  unfold toList Dict.keys
  rw [List.mem_map, Dict.get?_eq_some_iff]
  constructor
  · rintro ⟨⟨_, ⟨⟩⟩, mem, rfl⟩
    exact mem
  · exact fun mem => ⟨_, mem, rfl⟩

/-- Adding a name makes it a member and keeps the others. -/
theorem mem_toList_add : other ∈ (names.add name).toList ↔ other ∈ names.toList ∨ other = name := by
  rw [mem_toList_iff, mem_toList_iff, add, Dict.get?_insert]
  by_cases same : other = name <;> simp [same]

/-- Adding names makes them members and keeps the others. -/
theorem mem_toList_addAll {list : List String} :
    other ∈ (names.addAll list).toList ↔ other ∈ names.toList ∨ other ∈ list := by
  induction list generalizing names with
  | nil => simp [addAll]
  | cons name rest ih =>
    change other ∈ ((names.add name).addAll rest).toList ↔ _
    rw [ih, mem_toList_add, List.mem_cons, or_assoc]

/-- Sets with the same members are equal. -/
theorem ext_mem (same : ∀ name, name ∈ first.toList ↔ name ∈ second.toList) : first = second := by
  apply Dict.ext_get?
  intro name
  apply Option.ext
  intro value
  exact (mem_toList_iff.symm.trans (same name)).trans mem_toList_iff

end Names

end HttpGateway
