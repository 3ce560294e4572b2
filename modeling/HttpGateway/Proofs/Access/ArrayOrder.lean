import HttpGateway.Proofs.Access.Array
import HttpGateway.Proofs.Access.Growth
import HttpGateway.Proofs.Text.Lowercase
import Mathlib.Data.List.Induction

/-!
# The order of arrays

As values the text of an array is cut with its brackets in it. The elements between the first and
the last are read as their own tokens, wherever they stand; the first and the last keep a bracket
(`claimTokens_arrayOfTexts`), and a bracket is met by no accepted value without one. As roles all
elements are read alike. So a decision without predicates depends on the order of an array only
through its ends, and on these only where values are asked (`authorize_arrayOfTexts_perm`).
-/

namespace HttpGateway.Access

/-! ## Values -/

/-- The values that an element inside an array is read as: its tokens between quotation marks. -/
def innerTokens (element : String) : List String :=
  (tokenChars (Json.stringChars element)).map String.ofList

/-- The values of the array of two elements and more are those of the first element with the opening
bracket, those of the elements between, and those of the last element with the closing bracket. -/
theorem claimTokens_arrayOfTexts (first : String) (inner : List String) (last : String) :
    claimTokens (Json.arrayOfTexts (first :: (inner ++ [last]))).text =
      (tokenChars ('[' :: Json.stringChars first)).map String.ofList ++
        (inner.flatMap innerTokens ++
          (tokenChars (Json.stringChars last ++ [']'])).map String.ofList) := by
  have separator : isSeparator ',' = true := by decide
  -- Every element but the last stands before a comma, which parts its tokens from those after it.
  have later : ∀ inner : List String,
      (tokenChars (Json.itemChars ((inner ++ [last]).map .string) ++ [']'])).map String.ofList =
        inner.flatMap innerTokens ++
          (tokenChars (Json.stringChars last ++ [']'])).map String.ofList := by
    intro inner
    induction inner with
    | nil => rfl
    | cons element rest ih =>
      rw [List.cons_append, Json.itemChars_cons element (by simp), List.append_assoc,
        List.cons_append, tokenChars_append separator, List.map_append, ih, List.flatMap_cons,
        List.append_assoc]
      rfl
  unfold claimTokens
  rw [Json.toList_text_arrayOfTexts, Json.itemChars_cons first (by simp), List.append_assoc,
    List.cons_append, ← List.cons_append, tokenChars_append separator, List.map_append, later]

/-- A rearrangement that leaves the ends in place rearranges what is between them. -/
theorem exists_perm_between {first last : String} {inner others : List String}
    (perm : (first :: (inner ++ [last])).Perm others) (head : others.head? = some first)
    (tail : others.getLast? = some last) :
    ∃ between, others = first :: (between ++ [last]) ∧ inner.Perm between := by
  obtain ⟨rest, rfl⟩ := List.head?_eq_some_iff.1 head
  have after : (inner ++ [last]).Perm rest := perm.cons_inv
  have some : rest ≠ [] := by
    rintro rfl
    exact absurd after.eq_nil (by simp)
  rw [List.getLast?_cons_of_ne_nil some] at tail
  obtain ⟨between, rfl⟩ := List.getLast?_eq_some_iff.1 tail
  exact ⟨between, rfl, (List.perm_append_right_iff [last]).1 after⟩

/-- The same elements between the same ends have the same values. -/
theorem claimTokens_perm {elements others : List String} (perm : elements.Perm others)
    (head : elements.head? = others.head?) (tail : elements.getLast? = others.getLast?) :
    (claimTokens (Json.arrayOfTexts elements).text).Perm
      (claimTokens (Json.arrayOfTexts others).text) := by
  cases elements using List.bidirectionalRec with
  | nil => rw [List.nil_perm.1 perm]
  | singleton element => rw [List.singleton_perm.1 perm]
  | cons_append first inner last =>
    have ending : others.getLast? = some last := by
      rw [← tail, ← List.cons_append, List.getLast?_concat]
    obtain ⟨between, rfl, rearranged⟩ := exists_perm_between perm head.symm ending
    rw [claimTokens_arrayOfTexts, claimTokens_arrayOfTexts]
    exact ((rearranged.flatMap_right innerTokens).append_right _).append_left _

/-- Claims grow when the elements of an array in them are rearranged, and its ends stay where values
are asked. -/
theorem grows_arrayOfTexts {asked : String → Prop} {type claim other : String}
    {elements others : List String} (perm : elements.Perm others)
    (ends : asked type →
      elements.head? = others.head? ∧ elements.getLast? = others.getLast?)
    (kept : Identity.Keeps (.arrayOfTexts elements) claim)
    (keptOther : Identity.Keeps (.arrayOfTexts others) other) (claims : Dict String) :
    Grows asked (claims.insert type claim) (claims.insert type other) := by
  obtain rfl := Identity.keeps_arrayOfTexts_iff.1 kept
  obtain rfl := Identity.keeps_arrayOfTexts_iff.1 keptOther
  apply grows_insert
  · rw [roleTokens_arrayOfTexts, roleTokens_arrayOfTexts]
    exact (perm.flatMap_right fragments).subset
  · intro values
    obtain ⟨head, tail⟩ := ends values
    exact (claimTokens_perm perm head tail).subset

/-- A token has a bracket in it. -/
def IsBracketed (token : String) : Prop := '[' ∈ token.toList ∨ ']' ∈ token.toList

/-- Brackets are their own lower case and that of no other character. -/
theorem isBracketed_iff_of_lowercase_eq {token value : String}
    (same : Text.lowercase token = Text.lowercase value) :
    IsBracketed token ↔ IsBracketed value := by
  have chars : Text.lowercaseChars token.toList = Text.lowercaseChars value.toList := by
    simpa [Text.lowercase] using congrArg String.toList same
  have kept : ∀ c : Char, c.toNat < 0x61 → Text.IsSettled c.toNat →
      (c ∈ token.toList ↔ c ∈ value.toList) := by
    intro c low settled
    rw [← Text.mem_lowercaseChars_iff low settled, chars,
      Text.mem_lowercaseChars_iff low settled]
  have opening := kept '[' (by decide) (by decide +kernel)
  have closing := kept ']' (by decide) (by decide +kernel)
  exact or_congr opening closing

/-- A text with a bracket and without separators meets no accepted texts without brackets. -/
theorem not_meets_of_bracket {l : List Char} {accepted : Names} (bracket : '[' ∈ l ∨ ']' ∈ l)
    (joined : ∀ c ∈ l, isSeparator c = false)
    (bare : ∀ value ∈ accepted.toList, ¬ IsBracketed value) :
    ¬ Meets ((tokenChars l).map String.ofList) accepted := by
  rintro ⟨token, held, value, mem, same⟩
  obtain ⟨chars, there, rfl⟩ := List.mem_map.1 held
  have opening : isTokenEdge '[' = false := by decide
  have closing : isTokenEdge ']' = false := by decide
  have bracketed : IsBracketed (String.ofList chars) := by
    unfold IsBracketed
    rw [String.toList_ofList]
    exact bracket.imp (mem_of_mem_tokenChars opening · joined there)
      (mem_of_mem_tokenChars closing · joined there)
  exact bare value mem ((isBracketed_iff_of_lowercase_eq same).1 bracketed)

/-- Tokens of two texts meet accepted texts when those of one of them do. -/
theorem meets_append_iff {tokens others : List String} {accepted : Names} :
    Meets (tokens ++ others) accepted ↔ Meets tokens accepted ∨ Meets others accepted := by
  simp only [Meets, List.mem_append, or_and_right, exists_or]

/-- A plain element inside an array is read as the value of its name, unless it is empty. -/
theorem IsPlain.innerTokens {element : String} (plain : IsPlain element) :
    innerTokens element = if element = "" then [] else [element] := by
  unfold Access.innerTokens
  rw [plain.stringChars, tokenChars_quoted plain.joined plain.unquoted]
  by_cases none : element = ""
  · rw [none]
    rfl
  · rw [if_neg (mt String.toList_eq_nil_iff.1 none), if_neg none, List.map_singleton,
      String.ofList_toList]

/-- Between quotation marks a plain element has no separator. -/
theorem IsPlain.joined_stringChars {element : String} (plain : IsPlain element) :
    ∀ c ∈ Json.stringChars element, isSeparator c = false := by
  have mark : isSeparator '"' = false := by decide
  rw [plain.stringChars]
  simpa [mark, or_imp, forall_and] using plain.joined

/-- Accepted values without brackets are met by an array of plain elements when they are met by an
element between its ends. -/
theorem meets_claimTokens_arrayOfTexts_iff {elements : List String} {accepted : Names}
    (plain : ∀ element ∈ elements, IsPlain element)
    (bare : ∀ value ∈ accepted.toList, ¬ IsBracketed value) :
    Meets (claimTokens (Json.arrayOfTexts elements).text) accepted ↔
      Meets (elements.tail.dropLast.flatMap innerTokens) accepted := by
  have opening : isSeparator '[' = false := by decide
  have closing : isSeparator ']' = false := by decide
  have nothing : ¬ Meets [] accepted := by simp [Meets]
  cases elements using List.bidirectionalRec with
  | nil =>
    refine iff_of_false (not_meets_of_bracket ?_ ?_ bare) nothing
    · rw [Json.toList_text_arrayOfTexts]
      exact .inl List.mem_cons_self
    · rw [Json.toList_text_arrayOfTexts]
      simp [opening, closing, Json.itemChars]
  | singleton element =>
    have joined := (plain element List.mem_cons_self).joined_stringChars
    refine iff_of_false (not_meets_of_bracket ?_ ?_ bare) nothing
    · rw [Json.toList_text_arrayOfTexts]
      exact .inl List.mem_cons_self
    · rw [Json.toList_text_arrayOfTexts]
      simpa [opening, closing, or_imp, forall_and, Json.itemChars, Json.chars] using joined
  | cons_append first inner last =>
    have firstJoined := (plain first List.mem_cons_self).joined_stringChars
    have lastJoined := (plain last (by simp)).joined_stringChars
    have front : ¬ Meets ((tokenChars ('[' :: Json.stringChars first)).map String.ofList)
        accepted := by
      refine not_meets_of_bracket (.inl List.mem_cons_self) ?_ bare
      exact List.forall_mem_cons.2 ⟨opening, firstJoined⟩
    have back : ¬ Meets ((tokenChars (Json.stringChars last ++ [']'])).map String.ofList)
        accepted := by
      refine not_meets_of_bracket (.inr (by simp)) ?_ bare
      exact List.forall_mem_append.2 ⟨lastJoined, List.forall_mem_singleton.2 closing⟩
    have between : (first :: (inner ++ [last])).tail.dropLast = inner :=
      List.dropLast_concat
    rw [claimTokens_arrayOfTexts, meets_append_iff, meets_append_iff, between]
    simp only [front, back, false_or, or_false]

/-- A claim that is put in passes its check without accepted values, and else when its tokens meet
them. -/
theorem checkClaim_insert_iff {claims : Dict String} {type raw : String} {accepted : Names} :
    checkClaim (claims.insert type raw) type accepted = .ok () ↔
      accepted = ∅ ∨ Meets (claimTokens raw) accepted := by
  have decides := checkClaim_decides (.ofClaims (claims.insert type raw)) type accepted
  have there : (claims.insert type raw).get? type = some raw := by
    rw [Dict.get?_insert, if_pos rfl]
  refine decides.eq_ok_iff.trans (forall_claimChecks_iff.trans ?_)
  change (∃ found, (claims.insert type raw).get? type = some found ∧ _) ↔ _
  rw [there]
  simp only [Option.some.injEq, exists_eq_left']

/-! ## The order of an array -/

/-- Without predicates the order of the elements of an array does not matter, but for the first and
the last of them where values of the claim are asked: of plain elements only those between these two
are met by accepted values without brackets. -/
theorem authorize_arrayOfTexts_perm {registry : Registry} {requirement : Requirement}
    {first second : Context} {claims : Dict String} {type claim other : String}
    {elements others : List String} (unpredicated : Unpredicated registry requirement)
    (perm : elements.Perm others)
    (ends : AsksValues registry requirement type →
      elements.head? = others.head? ∧ elements.getLast? = others.getLast?)
    (kept : Identity.Keeps (.arrayOfTexts elements) claim)
    (keptOther : Identity.Keeps (.arrayOfTexts others) other)
    (claimsFirst : first.claims = claims.insert type claim)
    (claimsSecond : second.claims = claims.insert type other) :
    (authorize registry first requirement = .ok () ↔
      authorize registry second requirement = .ok ()) ∧
    ((∀ element ∈ elements, IsPlain element) → ∀ accepted : Names,
      (∀ value ∈ accepted.toList, ¬ IsBracketed value) →
      (checkClaim first.claims type accepted = .ok () ↔
        accepted = ∅ ∨ ∃ element ∈ elements.tail.dropLast, element ≠ "" ∧
          ∃ value ∈ accepted.toList, Text.lowercase element = Text.lowercase value)) := by
  constructor
  -- Each array has grown from the other, so each context is allowed if the other is.
  · have grows := grows_arrayOfTexts perm ends kept keptOther claims
    have shrinks := grows_arrayOfTexts perm.symm
      (fun asked => ⟨(ends asked).1.symm, (ends asked).2.symm⟩) keptOther kept claims
    rw [← claimsFirst, ← claimsSecond] at grows shrinks
    exact ⟨authorize_of_grows unpredicated grows, authorize_of_grows unpredicated shrinks⟩
  -- The first and the last element keep a bracket, so only those between them can be met.
  · intro plain accepted bare
    obtain rfl := Identity.keeps_arrayOfTexts_iff.1 kept
    rw [claimsFirst, checkClaim_insert_iff, meets_claimTokens_arrayOfTexts_iff plain bare,
      meets_flatMap_iff]
    refine or_congr Iff.rfl (exists_congr fun element => and_congr_right fun mem => ?_)
    have held := List.mem_of_mem_tail (List.dropLast_subset _ mem)
    rw [(plain element held).innerTokens, meets_ite_iff]

/-- Two groups between the same ends may change places. -/
theorem authorize_array_between :
    authorize ∅ (.ofClaims (Dict.ofList [("roles", "[\"a\",\"read\",\"Admin\",\"z\"]")]))
        (.ofSteps [.requireRole "admin", .requireClaim "roles" ["READ"]]) = .ok () ∧
      authorize ∅ (.ofClaims (Dict.ofList [("roles", "[\"a\",\"Admin\",\"read\",\"z\"]")]))
        (.ofSteps [.requireRole "admin", .requireClaim "roles" ["READ"]]) = .ok () := by
  have allowed : authorize ∅
      (.ofClaims (Dict.ofList [("roles", "[\"a\",\"read\",\"Admin\",\"z\"]")]))
      (.ofSteps [.requireRole "admin", .requireClaim "roles" ["READ"]]) = .ok () := by
    decide +kernel
  have none : Unpredicated ∅
      (.ofSteps [.requireRole "admin", .requireClaim "roles" ["READ"]]) :=
    fun _ named => absurd named List.not_mem_nil
  have perm : ["a", "read", "Admin", "z"].Perm ["a", "Admin", "read", "z"] := by decide
  have same := authorize_arrayOfTexts_perm none perm (fun _ => ⟨rfl, rfl⟩)
    (.token (by decide +kernel)) (.token (by decide +kernel))
    (rfl : (Context.ofClaims (Dict.ofList
      [("roles", "[\"a\",\"read\",\"Admin\",\"z\"]")])).claims = Dict.insert ∅ "roles" _)
    (rfl : (Context.ofClaims (Dict.ofList
      [("roles", "[\"a\",\"Admin\",\"read\",\"z\"]")])).claims = Dict.insert ∅ "roles" _)
  exact ⟨allowed, same.1.1 allowed⟩

/-- A caller may lose a value when the elements of an array change places. -/
theorem not_forall_authorize_array_perm : ¬ ∀ (registry : Registry) (requirement : Requirement)
    (first second : Context) (claims : Dict String) (type claim other : String)
    (elements others : List String), Unpredicated registry requirement → elements.Perm others →
      (∀ element ∈ elements, IsPlain element) →
      Identity.Keeps (.arrayOfTexts elements) claim →
      Identity.Keeps (.arrayOfTexts others) other → first.claims = claims.insert type claim →
      second.claims = claims.insert type other →
      (authorize registry first requirement = .ok () ↔
        authorize registry second requirement = .ok ()) := by
  intro all
  have none : Unpredicated ∅ (.ofSteps [.requireClaim "scope" ["read"]]) :=
    fun _ named => absurd named List.not_mem_nil
  have same := all ∅ (.ofSteps [.requireClaim "scope" ["read"]])
    (.ofClaims (Dict.ofList [("scope", "[\"x\",\"read\",\"y\"]")]))
    (.ofClaims (Dict.ofList [("scope", "[\"read\",\"x\",\"y\"]")])) ∅ "scope" _ _
    ["x", "read", "y"] ["read", "x", "y"] none (by decide) (by decide +kernel)
    (.token (by decide +kernel)) (.token (by decide +kernel)) rfl rfl
  exact absurd same (by decide +kernel)

end HttpGateway.Access
