import HttpGateway.Access.Authorization
import HttpGateway.Access.Identity
import HttpGateway.Proofs.Access.Decision
import HttpGateway.Proofs.Access.Token

/-!
# Roles in arrays

Both forms of an identity keep an array as its compact text (`Identity.keeps_arrayOfTexts_iff`), and
roles are read off this text without reading it as JSON: brackets and quotation marks are deleted
wherever they stand, and the rest is cut at commas and white space. So an element gives its
`fragments` as roles, which are the element itself only if it is plain
(`checkRoles_arrayOfTexts_iff`).
-/

namespace HttpGateway

/-- The array of a list of texts. -/
def Json.arrayOfTexts (texts : List String) : Json := .array (texts.map .string)

/-- A JSON value is kept as a claim in one of the two forms of an identity. -/
inductive Identity.Keeps (value : Json) (claim : String) : Prop
  /-- It is kept among the claims of a token. -/
  | token (kept : tokenClaim? value = some claim)
  /-- It is kept as a value of a context. -/
  | context (kept : (ContextValue.ofJson value).claim? = some claim)

/-- Both forms of an identity keep an array as its compact text. -/
theorem Identity.keeps_arrayOfTexts_iff {texts : List String} {claim : String} :
    Keeps (.arrayOfTexts texts) claim ↔ claim = (Json.arrayOfTexts texts).text := by
  constructor
  · rintro (kept | kept)
    · exact (Option.some.inj kept).symm
    · exact (Option.some.inj kept).symm
  · rintro rfl
    exact .token rfl

namespace Json

/-- The text of an array has brackets around the items. -/
theorem toList_text_arrayOfTexts (texts : List String) :
    (arrayOfTexts texts).text.toList = '[' :: (itemChars (texts.map .string) ++ [']']) := by
  rw [text, String.toList_ofList]
  rfl

/-- The first of several items stands before a comma. -/
theorem itemChars_cons (text : String) {texts : List String} (some : texts ≠ []) :
    itemChars ((text :: texts).map .string) =
      stringChars text ++ ',' :: itemChars (texts.map .string) := by
  cases texts with
  | nil => contradiction
  | cons next rest =>
    rw [List.map_cons, List.map_cons, itemChars, chars]

end Json

namespace Access

/-! ## Roles -/

/-- Tokens of several sources meet accepted texts when those of one source do. -/
theorem meets_flatMap_iff {α : Type} {tokens : α → List String} {sources : List α}
    {accepted : Names} :
    Meets (sources.flatMap tokens) accepted ↔ ∃ a ∈ sources, Meets (tokens a) accepted := by
  constructor
  · rintro ⟨token, held, meets⟩
    obtain ⟨a, mem, there⟩ := List.mem_flatMap.1 held
    exact ⟨a, mem, token, there, meets⟩
  · rintro ⟨a, mem, token, there, meets⟩
    exact ⟨token, List.mem_flatMap.2 ⟨a, mem, there⟩, meets⟩

/-- The roles that an element of an array is read as: the tokens of the element as it is written in
the array, without its brackets and quotation marks. -/
def fragments (element : String) : List String :=
  (tokenChars ((element.toList.flatMap Json.escapeChar).filter (!isArrayMark ·))).map String.ofList

/-- Without brackets and quotation marks the items of an array have the tokens of its elements. -/
theorem tokenChars_filter_itemChars (elements : List String) :
    (tokenChars ((Json.itemChars (elements.map .string)).filter (!isArrayMark ·))).map
      String.ofList = elements.flatMap fragments := by
  have quote : isArrayMark '"' = true := by decide
  have comma : isArrayMark ',' = false := by decide
  -- The marks around an element fall away, and the comma after it parts it from the others.
  have item : ∀ element : String, (Json.stringChars element).filter (!isArrayMark ·) =
      (element.toList.flatMap Json.escapeChar).filter (!isArrayMark ·) := by
    intro element
    simp [Json.stringChars, quote]
  induction elements with
  | nil => rfl
  | cons element rest ih =>
    by_cases last : rest = []
    · rw [last, List.map_singleton, Json.itemChars, Json.chars, item, List.flatMap_singleton]
      rfl
    · have separator : isSeparator ',' = true := by decide
      rw [Json.itemChars_cons element last, List.filter_append, item,
        List.filter_cons_of_pos (by simp [comma]), tokenChars_append separator, List.map_append,
        ih, List.flatMap_cons]
      rfl

/-- An array is read as the roles that its elements are read as, one after the other. -/
theorem roleTokens_arrayOfTexts (elements : List String) :
    roleTokens (Json.arrayOfTexts elements).text = elements.flatMap fragments := by
  have opening : isArrayMark '[' = true := by decide
  have closing : isArrayMark ']' = true := by decide
  have trimmed : Text.strip Text.isBlank (Json.arrayOfTexts elements).text.toList =
      (Json.arrayOfTexts elements).text.toList := by
    have front : Text.isBlank '[' = false := by decide
    have back : Text.isBlank ']' = false := by decide
    rw [Json.toList_text_arrayOfTexts]
    apply Text.strip_of_ends
    · rintro c ⟨⟩
      exact front
    · rw [← List.cons_append, List.getLast?_concat]
      rintro c ⟨⟩
      exact back
  unfold roleTokens roleTokenChars
  rw [trimmed, Json.toList_text_arrayOfTexts, ← tokenChars_filter_itemChars]
  simp [opening, closing]

example : roleTokens "[\"Power Admin\",\"a[b]c\"]" = ["Power", "Admin", "abc"] := by decide +kernel

/-- Roles may be in a claim of each of these types, and a caller with only such a claim holds one of
the accepted roles when its tokens meet them. -/
theorem checkRoles_singleton_iff {type claim : String} {accepted : Names}
    (recognised : type ∈ ["role", "roles", "cognito:groups", "groups"]) (asked : accepted ≠ ∅) :
    checkRoles (.ofList [(type, claim)]) accepted = .ok () ↔ Meets (roleTokens claim) accepted := by
  have found : ∀ other raw, (Dict.ofList [(type, claim)]).get? other = some raw ↔
      other = type ∧ raw = claim := by
    intro other raw
    have distinct : ([(type, claim)].map Prod.fst).Nodup := by simp
    rw [Dict.get?_ofList_eq_some_iff distinct, List.mem_singleton, Prod.mk.injEq]
  have decides := checkRoles_decides (.ofClaims (.ofList [(type, claim)])) accepted
  have reading := decides.eq_ok_iff
  rw [List.forall_mem_singleton] at reading
  refine reading.trans ⟨?_, fun meets => .inr ⟨type, recognised, claim, (found _ _).2 ⟨rfl, rfl⟩,
    meets⟩⟩
  rintro (unasked | ⟨other, -, raw, there, meets⟩)
  · exact absurd unasked asked
  · obtain ⟨-, rfl⟩ := (found other raw).1 there
    exact meets

/-! ## Plain elements -/

/-- A text that is written in an array as it is and has nothing of an array in it: no separator, no
bracket, no quotation mark, no backslash and no control character. -/
def IsPlain (text : String) : Prop :=
  ∀ c ∈ text.toList, isSeparator c = false ∧ isArrayMark c = false ∧ c ≠ '\\' ∧ 0x20 ≤ c.toNat

instance (text : String) : Decidable (IsPlain text) :=
  List.decidableBAll _ text.toList

section

variable {element : String}

/-- Plain texts have no separators. -/
theorem IsPlain.joined (plain : IsPlain element) : ∀ c ∈ element.toList, isSeparator c = false :=
  fun c mem => (plain c mem).1

/-- Plain texts have no quotation marks. -/
theorem IsPlain.unquoted (plain : IsPlain element) : ∀ c ∈ element.toList, isQuote c = false := by
  intro c mem
  have unmarked := (plain c mem).2.1
  simp only [isArrayMark, Bool.or_eq_false_iff] at unmarked
  exact unmarked.2

/-- Plain texts need no escapes. -/
theorem IsPlain.flatMap_escapeChar (plain : IsPlain element) :
    element.toList.flatMap Json.escapeChar = element.toList := by
  have own : ∀ c ∈ element.toList, Json.escapeChar c = [c] := by
    intro c mem
    obtain ⟨-, -, noBackslash, visible⟩ := plain c mem
    have named : ∀ d : Char, c.toNat = d.toNat → c = d := fun d same => by
      rw [← Char.ofNat_toNat c, same, Char.ofNat_toNat]
    have quote : c.toNat ≠ 0x22 := by
      intro same
      have quoted := plain.unquoted c mem
      rw [named '"' same] at quoted
      contradiction
    have backslash : c.toNat ≠ 0x5C := fun same => noBackslash (named '\\' same)
    simp only [Json.escapeChar, quote, backslash, visible, ↓reduceIte]
  rw [List.flatMap_congr own]
  exact List.flatMap_singleton' _

/-- Plain texts are written between quotation marks as they are. -/
theorem IsPlain.stringChars (plain : IsPlain element) :
    Json.stringChars element = '"' :: (element.toList ++ ['"']) := by
  rw [Json.stringChars, plain.flatMap_escapeChar]

/-- Plain texts have no marks of an array. -/
theorem IsPlain.filter_isArrayMark (plain : IsPlain element) :
    element.toList.filter (!isArrayMark ·) = element.toList := by
  rw [List.filter_eq_self]
  intro c mem
  rw [(plain c mem).2.1]
  rfl

/-- A plain element is read as the role of its name, unless it is empty. -/
theorem IsPlain.fragments (plain : IsPlain element) :
    fragments element = if element = "" then [] else [element] := by
  unfold Access.fragments
  rw [plain.flatMap_escapeChar, plain.filter_isArrayMark,
    tokenChars_of_word plain.joined plain.unquoted]
  by_cases none : element = ""
  · rw [none]
    rfl
  · rw [if_neg (mt String.toList_eq_nil_iff.1 none), if_neg none, List.map_singleton,
      String.ofList_toList]

/-- A text that is its only token meets accepted texts when it is not empty and equals one of them,
letter case apart. -/
theorem meets_ite_iff {accepted : Names} :
    Meets (if element = "" then [] else [element]) accepted ↔
      element ≠ "" ∧ ∃ name ∈ accepted.toList, Text.lowercase element = Text.lowercase name := by
  unfold Meets
  by_cases none : element = ""
  · simp [none]
  · simp [none]

end

/-! ## What an array of roles gives -/

/-- A caller whose only claim is an array of roles holds one of the accepted roles exactly when an
accepted role is among the fragments of an element. If the elements are plain, these are the
elements themselves. -/
theorem checkRoles_arrayOfTexts_iff {elements : List String} {type claim : String}
    {accepted : Names} (kept : Identity.Keeps (.arrayOfTexts elements) claim)
    (recognised : type ∈ ["role", "roles", "cognito:groups", "groups"]) (asked : accepted ≠ ∅) :
    (checkRoles (.ofList [(type, claim)]) accepted = .ok () ↔
      ∃ element ∈ elements, Meets (fragments element) accepted) ∧
    ((∀ element ∈ elements, IsPlain element) →
      (checkRoles (.ofList [(type, claim)]) accepted = .ok () ↔
        ∃ element ∈ elements, element ≠ "" ∧
          ∃ role ∈ accepted.toList, Text.lowercase element = Text.lowercase role)) := by
  have reading : checkRoles (.ofList [(type, claim)]) accepted = .ok () ↔
      ∃ element ∈ elements, Meets (fragments element) accepted := by
    rw [checkRoles_singleton_iff recognised asked, Identity.keeps_arrayOfTexts_iff.1 kept,
      roleTokens_arrayOfTexts]
    exact meets_flatMap_iff
  refine ⟨reading, fun plain => reading.trans ?_⟩
  have elementwise : ∀ element, element ∈ elements ∧ Meets (fragments element) accepted ↔
      element ∈ elements ∧ element ≠ "" ∧
        ∃ role ∈ accepted.toList, Text.lowercase element = Text.lowercase role :=
    fun element => and_congr_right fun mem => by rw [(plain element mem).fragments, meets_ite_iff]
  exact exists_congr elementwise

/-- A caller of the groups `Auditor` and `Power Admin` holds the role `admin`. -/
theorem checkRoles_array_fragment :
    Identity.Keeps (.arrayOfTexts ["Auditor", "Power Admin"]) "[\"Auditor\",\"Power Admin\"]" ∧
      checkRoles (.ofList [("cognito:groups", "[\"Auditor\",\"Power Admin\"]")])
        (Names.ofList ["admin"]) = .ok () := by
  have kept : Identity.Keeps (.arrayOfTexts ["Auditor", "Power Admin"])
      "[\"Auditor\",\"Power Admin\"]" := .token (by decide +kernel)
  have fragment : Meets (fragments "Power Admin") (Names.ofList ["admin"]) :=
    meets_iff.1 (by decide +kernel)
  refine ⟨kept, (checkRoles_arrayOfTexts_iff kept (by decide) (by decide)).1.2 ?_⟩
  exact ⟨"Power Admin", by decide, fragment⟩

/-- A fragment of an element may be an accepted role when no element is. -/
theorem not_forall_checkRoles_array : ¬ ∀ (elements : List String) (type claim : String)
    (accepted : Names), Identity.Keeps (.arrayOfTexts elements) claim →
      type ∈ ["role", "roles", "cognito:groups", "groups"] → accepted ≠ ∅ →
      checkRoles (.ofList [(type, claim)]) accepted = .ok () →
      ∃ element ∈ elements, ∃ role ∈ accepted.toList,
        Text.lowercase element = Text.lowercase role := by
  intro all
  have named := all ["Power Admin"] "role" "[\"Power Admin\"]" (Names.ofList ["Admin"])
    (.token (by decide +kernel)) (by decide) (by decide) (by decide +kernel)
  exact absurd named (by decide +kernel)

end Access

end HttpGateway
