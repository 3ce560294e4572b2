import HttpGateway.Message.Field

/-!
# Laws of header fields

Setting a header field leaves one value under its own name and changes nothing under any other
(`Headers.values_insert`). A name that is read in any letter case is stored in lower case, in which
it is read as itself. When several fields given as text are set, those that are not legal are passed
over, and of those with one name the last counts (`Headers.values_foldl_insertText`).
-/

namespace HttpGateway

namespace FieldName

variable {s : String} {name : FieldName}

/-- A name that is read is stored in lower case. -/
theorem read?_eq_some_iff : read? s = some name ↔ asciiLowercase s = name.text := by
  unfold read?
  by_cases legal : isLegal (asciiLowercase s) = true
  · rw [dif_pos legal, Option.some.injEq]
    constructor
    · rintro rfl
      rfl
    · intro same
      obtain ⟨text, _⟩ := name
      obtain rfl : asciiLowercase s = text := same
      rfl
  · rw [dif_neg legal]
    refine iff_of_false (by simp) fun same => legal ?_
    rw [same]
    exact name.legal

/-- A stored name is in lower case. -/
theorem asciiLowercase_text (name : FieldName) : asciiLowercase name.text = name.text := by
  have legal := name.legal
  unfold isLegal at legal
  exact eq_of_beq (Bool.and_eq_true_iff.1 legal).2

/-- A stored name is read as itself. -/
theorem read?_text (name : FieldName) : read? name.text = some name :=
  read?_eq_some_iff.2 name.asciiLowercase_text

end FieldName

namespace Headers

variable {headers : Headers} {name other : FieldName} {value : FieldValue}

/-- The values of the fields with a name, in order. -/
def values (headers : Headers) (name : FieldName) : List FieldValue :=
  (headers.fields.filter fun field => field.1 == name).map Prod.snd

/-- A look-up gives the first value. -/
theorem get?_eq_head?_values (headers : Headers) (name : FieldName) :
    headers.get? name = (headers.values name).head? := by
  unfold get? values
  induction headers.fields with
  | nil => rfl
  | cons field rest ih =>
    rw [List.lookup_cons]
    by_cases same : field.1 = name
    · subst same
      simp
    · rw [List.filter_cons_of_neg (by simpa using same), ← ih,
        beq_eq_false_iff_ne.2 (Ne.symm same)]

/-- A field that is set has one value, and the others keep theirs. -/
theorem values_insert : (headers.insert name value).values other =
    if other = name then [value] else headers.values other := by
  have kept : ∀ fields : List (FieldName × FieldValue), other ≠ name →
      ((fields.filter fun field => field.1 != name).filter fun field => field.1 == other) =
        fields.filter fun field => field.1 == other := by
    intro fields differ
    rw [List.filter_filter]
    refine List.filter_congr fun field _ => ?_
    by_cases same : field.1 = other
    · simp [same, differ]
    · simp [same]
  unfold values insert append erase
  rw [List.filter_append, List.map_append]
  by_cases same : other = name
  · subst same
    simp [List.filter_filter]
  · rw [if_neg same, kept headers.fields same]
    simp [Ne.symm same]

/-- A look-up after setting a field. -/
theorem get?_insert : (headers.insert name value).get? other =
    if other = name then some value else headers.get? other := by
  rw [get?_eq_head?_values, values_insert, get?_eq_head?_values]
  split <;> rfl

/-! ## Fields given as text -/

/-- The value that a field given as text has under a name, if both are legal. -/
def textValue? (name : FieldName) (field : String × String) : Option FieldValue :=
  if FieldName.read? field.1 = some name then FieldValue.read? field.2 else none

/-- A field given as text is set if it is legal, and nothing changes otherwise. -/
theorem values_insertText (field : String × String) :
    (headers.insertText field.1 field.2).values name =
      (textValue? name field).elim (headers.values name) fun value => [value] := by
  unfold insertText textValue?
  cases named : FieldName.read? field.1 with
  | none => simp
  | some stored =>
    cases valued : FieldValue.read? field.2 with
    | none => simp
    | some value =>
      by_cases same : name = stored
      · simp [values_insert, same]
      · simp [values_insert, same, Ne.symm same]

/-- After several fields given as text are set, the last legal one with a name gives its value, and
a name without one keeps what was there. -/
theorem values_foldl_insertText (fields : List (String × String)) :
    (fields.foldl (fun headers field => headers.insertText field.1 field.2) headers).values name =
      (fields.filterMap (textValue? name)).getLast?.elim (headers.values name)
        fun value => [value] := by
  induction fields generalizing headers with
  | nil => rfl
  | cons field rest ih =>
    rw [List.foldl_cons, ih, values_insertText, List.filterMap_cons]
    cases textValue? name field with
    | none => rfl
    | some value =>
      rw [List.getLast?_cons]
      cases (rest.filterMap (textValue? name)).getLast? <;> rfl

/-- Of fields with distinct names in lower case, only the one that is looked up has a value under a
name. -/
theorem filterMap_textValue? {fields : List (String × String)}
    (distinct : (fields.map Prod.fst).Nodup)
    (stored : ∀ field ∈ fields, asciiLowercase field.1 = field.1) :
    fields.filterMap (textValue? name) =
      ((fields.lookup name.text).bind FieldValue.read?).toList := by
  induction fields with
  | nil => rfl
  | cons field rest ih =>
    obtain ⟨key, text⟩ := field
    obtain ⟨own, others⟩ := List.forall_mem_cons.1 stored
    obtain ⟨fresh, apart⟩ := List.nodup_cons.1 distinct
    have read : FieldName.read? key = some name ↔ name.text = key := by
      rw [FieldName.read?_eq_some_iff, own, eq_comm]
    rw [List.filterMap_cons, ih apart others, List.lookup_cons]
    by_cases same : name.text = key
    · have absent : rest.lookup name.text = none := by
        rw [List.lookup_eq_none_iff]
        intro field mem
        have differ : name.text ≠ field.1 := fun other =>
          fresh (List.mem_map.2 ⟨field, mem, other.symm.trans same⟩)
        simpa using differ
      rw [textValue?, if_pos (read.2 same), absent, beq_iff_eq.2 same]
      cases valued : FieldValue.read? text <;> simp [valued]
    · rw [textValue?, if_neg (mt read.1 same), beq_eq_false_iff_ne.2 same]

end Headers

end HttpGateway
