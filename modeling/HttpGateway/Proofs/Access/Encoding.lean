import HttpGateway.Proofs.Access.Array
import HttpGateway.Proofs.Access.Growth

/-!
# Ways of writing roles

Names of roles stand in a `Row`, each written in one of several ways, with something that parts it
from the next. `Encodes` puts such rows together: an array has quoted names and commas, with white
space wherever it may be; a list has names that are bare or quoted, with any separators. An array
without its marks is a list of bare names (`Row.filter`), and the tokens of a list are its names
(`Row.tokenChars_eq`). So all ways of writing the same plain names are read alike
(`roleTokens_of_encodes`).
-/

namespace HttpGateway.Access

/-! ## The family of writings -/

/-- A name between two quotation marks of one kind. -/
inductive Quoted (name : String) : List Char → Prop
  /-- The quotation mark is of either kind. -/
  | between (mark : Char) (quote : isQuote mark = true) :
    Quoted name (mark :: (name.toList ++ [mark]))

/-- A name in a list. -/
inductive Written (name : String) : List Char → Prop
  /-- The name stands as it is. -/
  | bare : Written name name.toList
  /-- The name stands between quotation marks. -/
  | quoted {written : List Char} (quoted : Quoted name written) : Written name written

/-- A comma with any white space around it. -/
inductive IsComma : List Char → Prop
  /-- The white space is on either side or on both. -/
  | within {before after : List Char} (blank : ∀ c ∈ before ++ after, Text.isBlank c = true) :
    IsComma (before ++ ',' :: after)

/-- Names in a row, each written in one way and parted from the next in another. -/
inductive Row (writes : String → List Char → Prop) (parts : List Char → Prop) :
    List String → List Char → Prop
  /-- There is no name. -/
  | none : Row writes parts [] []
  /-- There is one name. -/
  | one {name : String} {written : List Char} (first : writes name written) :
    Row writes parts [name] written
  /-- There are more names than one. -/
  | more {name next : String} {names : List String} {written gap text : List Char}
    (first : writes name written) (parted : parts gap)
    (others : Row writes parts (next :: names) text) :
    Row writes parts (name :: next :: names) (written ++ (gap ++ text))

/-- A text encodes names. -/
inductive Encodes (names : List String) : String → Prop
  /-- It is an array of the quoted names, with any white space around it, inside its brackets and
  around its commas. -/
  | array {front left text right back : List Char}
    (blank : ∀ c ∈ front ++ left ++ (right ++ back), Text.isBlank c = true)
    (row : Row Quoted IsComma names text) :
    Encodes names (.ofList (front ++ '[' :: (left ++ (text ++ (right ++ ']' :: back)))))
  /-- It is a list of the names, each bare or quoted, with any separators around it. -/
  | list {front text back : List Char} (separators : ∀ c ∈ front ++ back, isSeparator c = true)
    (row : Row Written IsGap names text) : Encodes names (.ofList (front ++ (text ++ back)))

/-! ## Rows -/

namespace Row

variable {writes writes' : String → List Char → Prop} {parts parts' : List Char → Prop}
  {names : List String} {text : List Char}

/-- Without some characters a row is a row, whose names and gaps are without them. -/
theorem filter {keep : Char → Bool} (row : Row writes parts names text)
    (names_kept : ∀ name ∈ names, ∀ written, writes name written →
      writes' name (written.filter keep))
    (gaps_kept : ∀ gap, parts gap → parts' (gap.filter keep)) :
    Row writes' parts' names (text.filter keep) := by
  induction row with
  | none => exact .none
  | one first => exact .one (names_kept _ List.mem_cons_self _ first)
  | more first parted _ ih =>
    obtain ⟨head, tail⟩ := List.forall_mem_cons.1 names_kept
    rw [List.filter_append, List.filter_append]
    exact .more (head _ first) (gaps_kept _ parted) (ih tail)

/-- What holds of all characters of the names and the gaps holds of all characters of a row. -/
theorem forall_mem {p : Char → Prop} (row : Row writes parts names text)
    (in_names : ∀ name ∈ names, ∀ written, writes name written → ∀ c ∈ written, p c)
    (in_gaps : ∀ gap, parts gap → ∀ c ∈ gap, p c) : ∀ c ∈ text, p c := by
  induction row with
  | none => exact List.forall_mem_nil _
  | one first => exact in_names _ List.mem_cons_self _ first
  | more first parted _ ih =>
    obtain ⟨head, tail⟩ := List.forall_mem_cons.1 in_names
    rw [List.forall_mem_append, List.forall_mem_append]
    exact ⟨head _ first, in_gaps _ parted, ih tail⟩

/-- The tokens of a row with separators in its gaps are its names, if each name is the token of its
writing. -/
theorem tokenChars_eq (row : Row writes IsGap names text)
    (own : ∀ name ∈ names, ∀ written, writes name written → tokenChars written = [name.toList]) :
    tokenChars text = names.map String.toList := by
  induction row with
  | none => rfl
  | one first => exact own _ List.mem_cons_self _ first
  | more first parted _ ih =>
    obtain ⟨head, tail⟩ := List.forall_mem_cons.1 own
    rw [parted.tokenChars_append, head _ first, ih tail]
    rfl

end Row

/-! ## Plain names -/

section

variable {name : String} {written : List Char}

/-- A plain name may be a token. -/
theorem IsPlain.isToken (plain : IsPlain name) (some : name ≠ "") : IsToken name.toList :=
  isToken_of_word (mt String.toList_eq_nil_iff.1 some) plain.joined plain.unquoted

/-- A plain name is the token of its writing in a list. -/
theorem Written.tokenChars_eq (wrote : Written name written) (plain : IsPlain name)
    (some : name ≠ "") : tokenChars written = [name.toList] := by
  have token := plain.isToken some
  cases wrote with
  | bare => exact token.tokenChars_eq
  | quoted quoted =>
    obtain ⟨mark, quote⟩ := quoted
    have marks : ∀ c ∈ [mark], isQuote c = true := List.forall_mem_singleton.2 quote
    exact token.tokenChars_wrapped marks marks

/-- No bracket is in the writing of a plain name in a list. -/
theorem Written.ne_bracket (wrote : Written name written) (plain : IsPlain name) :
    ∀ c ∈ written, c ≠ '[' := by
  have inside : ∀ c ∈ name.toList, c ≠ '[' := by
    rintro c mem rfl
    exact absurd (plain _ mem).2.1 (by decide)
  cases wrote with
  | bare => exact inside
  | quoted quoted =>
    obtain ⟨mark, quote⟩ := quoted
    have other : mark ≠ '[' := by
      rintro rfl
      exact absurd quote (by decide)
    simpa [or_imp, forall_and, other] using inside

/-- Without the marks of an array a quoted plain name is bare. -/
theorem Quoted.filter (quoted : Quoted name written) (plain : IsPlain name) :
    Written name (written.filter (!isArrayMark ·)) := by
  obtain ⟨mark, quote⟩ := quoted
  have gone := isArrayMark_of_isQuote quote
  have bare : (mark :: (name.toList ++ [mark])).filter (!isArrayMark ·) = name.toList := by
    rw [List.filter_cons_of_neg (by simp [gone]), List.filter_append, plain.filter_isArrayMark,
      List.filter_singleton, gone]
    exact List.append_nil _
  rw [bare]
  exact .bare

end

/-- White space is not lost with the marks of an array. -/
theorem filter_isArrayMark_of_blank {l : List Char} (blank : ∀ c ∈ l, Text.isBlank c = true) :
    l.filter (!isArrayMark ·) = l := by
  rw [List.filter_eq_self]
  intro c mem
  rw [isArrayMark_of_isSeparator (isSeparator_of_isBlank (blank c mem))]
  rfl

/-- Without the marks of an array the comma between two names is a gap. -/
theorem IsComma.filter {gap : List Char} (comma : IsComma gap) :
    IsGap (gap.filter (!isArrayMark ·)) := by
  obtain ⟨blank⟩ := comma
  obtain ⟨before, after⟩ := List.forall_mem_append.1 blank
  have stays : isArrayMark ',' = false := by decide
  have separator : isSeparator ',' = true := by decide
  rw [List.filter_append, filter_isArrayMark_of_blank before,
    List.filter_cons_of_pos (by simp [stays]), filter_isArrayMark_of_blank after]
  refine ⟨by simp, ?_⟩
  rw [List.forall_mem_append, List.forall_mem_cons]
  exact ⟨fun c mem => isSeparator_of_isBlank (before c mem), separator,
    fun c mem => isSeparator_of_isBlank (after c mem)⟩

/-! ## Roles -/

section

variable {names : List String} (plain : ∀ name ∈ names, name ≠ "" ∧ IsPlain name)

include plain

/-- The roles of an array of plain names are the names. -/
theorem roleTokenChars_array {front left text right back : List Char}
    (blank : ∀ c ∈ front ++ left ++ (right ++ back), Text.isBlank c = true)
    (row : Row Quoted IsComma names text) :
    roleTokenChars (front ++ '[' :: (left ++ (text ++ (right ++ ']' :: back)))) =
      names.map String.toList := by
  obtain ⟨before, after⟩ := List.forall_mem_append.1 blank
  obtain ⟨blankFront, blankLeft⟩ := List.forall_mem_append.1 before
  obtain ⟨blankRight, blankBack⟩ := List.forall_mem_append.1 after
  have opening : isArrayMark '[' = true := by decide
  have closing : isArrayMark ']' = true := by decide
  have array : isArrayText (front ++ '[' :: (left ++ (text ++ (right ++ ']' :: back)))) = true := by
    have bracket : Text.isBlank '[' = false := by decide
    rw [isArrayText, Text.dropWhile_append_of_head (by simp [bracket]),
      List.dropWhile_eq_nil_iff.2 blankFront]
    rfl
  have unmarked : Row Written IsGap names (text.filter (!isArrayMark ·)) :=
    row.filter (fun name mem _ quoted => quoted.filter (plain name mem).2)
      fun _ comma => comma.filter
  have separators : ∀ {l : List Char}, (∀ c ∈ l, Text.isBlank c = true) →
      ∀ c ∈ l, isSeparator c = true := fun blank c mem => isSeparator_of_isBlank (blank c mem)
  -- Without its marks the array is a list of bare names with white space around it.
  rw [roleTokenChars_eq, array, if_pos rfl, List.filter_append,
    List.filter_cons_of_neg (by simp [opening]), List.filter_append, List.filter_append,
    List.filter_append, List.filter_cons_of_neg (by simp [closing]),
    filter_isArrayMark_of_blank blankFront, filter_isArrayMark_of_blank blankLeft,
    filter_isArrayMark_of_blank blankRight, filter_isArrayMark_of_blank blankBack,
    tokenChars_append_left (separators blankFront), tokenChars_append_left (separators blankLeft),
    tokenChars_append_right (separators after)]
  exact unmarked.tokenChars_eq fun name mem _ wrote =>
    wrote.tokenChars_eq (plain name mem).2 (plain name mem).1

/-- The roles of a list of plain names are the names. -/
theorem roleTokenChars_list {front text back : List Char}
    (separators : ∀ c ∈ front ++ back, isSeparator c = true)
    (row : Row Written IsGap names text) :
    roleTokenChars (front ++ (text ++ back)) = names.map String.toList := by
  obtain ⟨before, after⟩ := List.forall_mem_append.1 separators
  -- The text has no bracket at all, so its first character that is no white space is none.
  have bare : ∀ c, isSeparator c = true → c ≠ '[' := by
    rintro c separator rfl
    exact absurd separator (by decide)
  have inside : ∀ c ∈ text, c ≠ '[' :=
    row.forall_mem (fun name mem _ wrote => wrote.ne_bracket (plain name mem).2)
      fun _ gap c mem => bare c (gap.separators c mem)
  have whole : ∀ c ∈ front ++ (text ++ back), c ≠ '[' := by
    rw [List.forall_mem_append, List.forall_mem_append]
    exact ⟨fun c mem => bare c (before c mem), inside, fun c mem => bare c (after c mem)⟩
  have array : isArrayText (front ++ (text ++ back)) = false := by
    refine Bool.eq_false_iff.2 fun bracket => ?_
    have first := List.mem_of_mem_head? (beq_iff_eq.1 bracket)
    exact whole '[' ((List.dropWhile_suffix _).subset first) rfl
  rw [roleTokenChars_eq, array, if_neg Bool.false_ne_true, tokenChars_append_left before,
    tokenChars_append_right after]
  exact row.tokenChars_eq fun name mem _ wrote =>
    wrote.tokenChars_eq (plain name mem).2 (plain name mem).1

/-- The compact text of an array encodes its plain names. -/
theorem encodes_arrayOfTexts : Encodes names (Json.arrayOfTexts names).text := by
  have row : ∀ names : List String, (∀ name ∈ names, IsPlain name) →
      Row Quoted IsComma names (Json.itemChars (names.map .string)) := by
    intro names plain
    have quote : isQuote '"' = true := by decide
    induction names with
    | nil => exact .none
    | cons name rest ih =>
      obtain ⟨first, others⟩ := List.forall_mem_cons.1 plain
      have quoted : Quoted name (Json.stringChars name) := by
        rw [first.stringChars]
        exact .between '"' quote
      cases rest with
      | nil => exact .one quoted
      | cons next more =>
        rw [Json.itemChars_cons name (List.cons_ne_nil _ _)]
        have comma : IsComma ([] ++ ',' :: []) := .within (List.forall_mem_nil _)
        exact .more quoted comma (ih others)
  have none : ∀ c ∈ [] ++ [] ++ ([] ++ []), Text.isBlank c = true := List.forall_mem_nil _
  exact .array none (row names fun name mem => (plain name mem).2)

omit plain in
/-- Names joined with separators are encoded. -/
theorem encodes_intercalate {glue : String} (gap : IsGap glue.toList) :
    Encodes names (glue.intercalate names) := by
  have row : ∀ names : List String,
      Row Written IsGap names (glue.toList.intercalate (names.map String.toList)) := by
    intro names
    induction names with
    | nil => exact .none
    | cons name rest ih =>
      cases rest with
      | nil =>
        rw [List.map_singleton, List.intercalate_singleton]
        exact .one .bare
      | cons next more =>
        rw [List.map_cons, List.map_cons, List.intercalate_cons_cons, List.append_assoc]
        exact .more .bare gap ih
  have none : ∀ c ∈ [] ++ [], isSeparator c = true := List.forall_mem_nil _
  have encodes := Encodes.list none (row names)
  rwa [List.append_nil, List.nil_append, ← String.toList_intercalate, String.ofList_toList]
    at encodes

end

/-- However plain names are encoded, the roles that are read are the names, in their order. Among
the encodings are the compact text of an array and the names joined with any separators. So the
check of roles comes out alike for all encodings of the same names, whatever the other claims and
the accepted roles; and a caller with only such a claim, of a type that may hold roles, passes
exactly when no role is asked for or one of the names is accepted. -/
theorem roleTokens_of_encodes {names : List String}
    (plain : ∀ name ∈ names, name ≠ "" ∧ IsPlain name) :
    (∀ text, Encodes names text → roleTokens text = names) ∧
      Encodes names (Json.arrayOfTexts names).text ∧
      (∀ glue : String, IsGap glue.toList → Encodes names (glue.intercalate names)) ∧
      ∀ first second, Encodes names first → Encodes names second →
        ∀ type ∈ ["role", "roles", "cognito:groups", "groups"], ∀ accepted : Names,
          (∀ claims : Dict String, checkRoles (claims.insert type first) accepted =
            checkRoles (claims.insert type second) accepted) ∧
          (checkRoles (.ofList [(type, first)]) accepted = .ok () ↔
            accepted = ∅ ∨ Meets names accepted) := by
  have read : ∀ text, Encodes names text → roleTokens text = names := by
    intro text encodes
    have names_eq : (names.map String.toList).map String.ofList = names := by
      rw [List.map_map]
      exact List.map_id'' (fun _ => String.ofList_toList) names
    cases encodes with
    | array blank row =>
      rw [roleTokens, String.toList_ofList, roleTokenChars_array plain blank row, names_eq]
    | list separators row =>
      rw [roleTokens, String.toList_ofList, roleTokenChars_list plain separators row, names_eq]
  refine ⟨read, encodes_arrayOfTexts plain, fun _ gap => encodes_intercalate gap, ?_⟩
  intro first second encodes encodesSecond type recognised accepted
  constructor
  · intro claims
    refine checkRoles_congr (fun other => ?_) accepted
    rw [Dict.get?_insert, Dict.get?_insert]
    by_cases same : other = type
    · rw [if_pos same, if_pos same, Option.map_some, Option.map_some, read first encodes,
        read second encodesSecond]
    · rw [if_neg same, if_neg same]
  · by_cases unasked : accepted = ∅
    · subst unasked
      exact iff_of_true rfl (.inl rfl)
    · rw [checkRoles_singleton_iff recognised unasked, read first encodes, or_iff_right unasked]

/-- An array with wide blanks and both kinds of quotation marks, and a list with more separators
than it needs, are read as the same two roles. -/
theorem roleTokens_of_encodes_wide :
    (∀ name ∈ ["User", "Büro"], name ≠ "" ∧ IsPlain name) ∧
      Encodes ["User", "Büro"] "\t[ 'User'\u3000,\"Büro\" ]" ∧
      Encodes ["User", "Büro"] ", User ,\u3000'Büro'" ∧
      roleTokens "\t[ 'User'\u3000,\"Büro\" ]" = ["User", "Büro"] ∧
      roleTokens ", User ,\u3000'Büro'" = ["User", "Büro"] ∧
      checkRoles (.ofList [("groups", ", User ,\u3000'Büro'")]) (Names.ofList ["BÜRO"]) =
        .ok () := by
  have plain : ∀ name ∈ ["User", "Büro"], name ≠ "" ∧ IsPlain name := by decide
  have array : Encodes ["User", "Büro"] "\t[ 'User'\u3000,\"Büro\" ]" := by
    have row : Row Quoted IsComma ["User", "Büro"]
        ('\'' :: ("User".toList ++ ['\'']) ++
          (['\u3000'] ++ ',' :: [] ++ '"' :: ("Büro".toList ++ ['"']))) :=
      .more (.between _ (by decide)) (.within (List.all_eq_true.1 (by decide)))
        (.one (.between _ (by decide)))
    have blank : ∀ c ∈ ['\t'] ++ [' '] ++ ([' '] ++ []), Text.isBlank c = true :=
      List.all_eq_true.1 (by decide)
    exact .array blank row
  have list : Encodes ["User", "Büro"] ", User ,\u3000'Büro'" := by
    have row : Row Written IsGap ["User", "Büro"]
        ("User".toList ++ ([' ', ',', '\u3000'] ++ '\'' :: ("Büro".toList ++ ['\'']))) :=
      .more .bare ⟨List.cons_ne_nil _ _, List.all_eq_true.1 (by decide)⟩
        (.one (.quoted (.between _ (by decide))))
    have separators : ∀ c ∈ [',', ' '] ++ [], isSeparator c = true :=
      List.all_eq_true.1 (by decide)
    exact .list separators row
  have accepted : Meets ["User", "Büro"] (Names.ofList ["BÜRO"]) := meets_iff.1 (by decide +kernel)
  obtain ⟨read, -, -, alike⟩ := roleTokens_of_encodes plain
  have passes := (alike _ _ list array "groups" (by decide) (Names.ofList ["BÜRO"])).2
  exact ⟨plain, array, list, read _ array, read _ list, passes.2 (.inr accepted)⟩

end HttpGateway.Access
