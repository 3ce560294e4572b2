/-!
# Dictionaries with text keys

A dictionary lists its entries in increasing order of their keys, each key once, and carries the
proof, so two dictionaries with the same entries are equal. `Names` is a set of texts: a
dictionary whose entries hold nothing.
-/

namespace HttpGateway

/-- Entries with pairwise distinct keys in increasing order. -/
@[ext] structure Dict (α : Type) where
  /-- The entries in increasing order of their keys. -/
  entries : List (String × α)
  /-- Every key is below the keys after it. -/
  sorted : entries.Pairwise fun a b => a.1 < b.1

namespace Dict

variable {α β : Type}

instance [DecidableEq α] : DecidableEq (Dict α) := fun a b =>
  decidable_of_iff (a.entries = b.entries) ⟨Dict.ext, fun h => h ▸ rfl⟩

/-- No entries. -/
def empty : Dict α := ⟨[], .nil⟩

instance : EmptyCollection (Dict α) := ⟨empty⟩

instance : Inhabited (Dict α) := ⟨empty⟩

/-- Put an entry into a list in order of keys, in place of an entry with the same key. -/
def insertEntry (key : String) (value : α) : List (String × α) → List (String × α)
  | [] => [(key, value)]
  | (k, v) :: rest =>
    if key < k then (key, value) :: (k, v) :: rest
    else if key = k then (key, value) :: rest
    else (k, v) :: insertEntry key value rest

/-- The keys after an insertion are the new one and those there were. -/
theorem key_of_mem_insertEntry {key : String} {value : α} {l : List (String × α)}
    {e : String × α} (h : e ∈ insertEntry key value l) : e = (key, value) ∨ e ∈ l := by
  induction l with
  | nil => simpa [insertEntry] using h
  | cons head rest ih =>
    obtain ⟨k, v⟩ := head
    unfold insertEntry at h
    split at h
    · simpa using h
    · split at h
      · rcases List.mem_cons.1 h with h | h
        · exact .inl h
        · exact .inr (List.mem_cons_of_mem _ h)
      · rcases List.mem_cons.1 h with h | h
        · exact .inr (h ▸ List.mem_cons_self)
        · exact (ih h).imp_right (List.mem_cons_of_mem _)

/-- Insertion keeps the order. -/
theorem insertEntry_sorted (key : String) (value : α) {l : List (String × α)}
    (h : l.Pairwise fun a b => a.1 < b.1) :
    (insertEntry key value l).Pairwise fun a b => a.1 < b.1 := by
  induction l with
  | nil => simp [insertEntry]
  | cons head rest ih =>
    obtain ⟨k, v⟩ := head
    have above := (List.pairwise_cons.1 h).1
    have tail := (List.pairwise_cons.1 h).2
    unfold insertEntry
    split
    · next below =>
      refine List.pairwise_cons.2 ⟨fun e mem => ?_, h⟩
      rcases List.mem_cons.1 mem with rfl | mem
      · exact below
      · exact String.lt_trans below (above e mem)
    · split
      · next same => exact List.pairwise_cons.2 ⟨fun e mem => same ▸ above e mem, tail⟩
      · next notBelow differ =>
        refine List.pairwise_cons.2 ⟨fun e mem => ?_, ih tail⟩
        rcases key_of_mem_insertEntry mem with rfl | mem
        · exact Decidable.byContradiction fun no =>
            differ (String.le_antisymm (String.not_lt.1 no) (String.not_lt.1 notBelow))
        · exact above e mem

/-- The dictionary with an entry put in, in place of an entry with the same key. -/
def insert (d : Dict α) (key : String) (value : α) : Dict α :=
  ⟨insertEntry key value d.entries, insertEntry_sorted key value d.sorted⟩

/-- The dictionary of a list of entries; of two with one key the later counts. -/
def ofList (l : List (String × α)) : Dict α := l.foldl (fun d e => d.insert e.1 e.2) empty

/-- The value under a key. -/
def get? (d : Dict α) (key : String) : Option α := d.entries.lookup key

/-- Whether a key has an entry. -/
def contains (d : Dict α) (key : String) : Bool := (d.get? key).isSome

/-- Whether there is no entry. -/
def isEmpty (d : Dict α) : Bool := d.entries.isEmpty

/-- The number of entries. -/
def size (d : Dict α) : Nat := d.entries.length

/-- The keys in increasing order. -/
def keys (d : Dict α) : List String := d.entries.map (·.1)

/-- Keep the entries whose value `f` maps to something, with that as their value. -/
def filterMap (f : α → Option β) (d : Dict α) : Dict β where
  entries := d.entries.filterMap fun e => (f e.2).map (e.1, ·)
  sorted := by
    refine List.Pairwise.filterMap _ (fun a b below c hc e he => ?_) d.sorted
    obtain ⟨_, _, rfl⟩ := Option.map_eq_some_iff.1 hc
    obtain ⟨_, _, rfl⟩ := Option.map_eq_some_iff.1 he
    exact below

/-- Apply `f` to every value. -/
def map (f : α → β) (d : Dict α) : Dict β := d.filterMap fun a => some (f a)

end Dict

/-- A set of texts in increasing order. -/
abbrev Names := Dict Unit

namespace Names

/-- The set with one more member. -/
def add (names : Names) (name : String) : Names := names.insert name ()

/-- The set with every member of a list. -/
def addAll (names : Names) (list : List String) : Names := list.foldl add names

/-- The members in increasing order. -/
def toList (names : Names) : List String := names.keys

/-- The members of a list as a set. -/
def ofList (list : List String) : Names := addAll ∅ list

end Names

end HttpGateway
