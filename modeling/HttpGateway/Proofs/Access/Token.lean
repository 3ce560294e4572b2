import HttpGateway.Access.Token
import HttpGateway.Proofs.Text.Split
import HttpGateway.Proofs.Text.Strip

/-!
# Laws of tokens

A separator parts the tokens of a text: those of what stands before it come first, then those of
what stands after it (`tokenChars_append`). A text without a separator is a single token, once the
quotation marks at its ends are removed (`tokenChars_of_forall`). So `IsToken` says what every token
is, and cutting the tokens of a text joined with commas gives them again
(`claimTokens_homomorphism`).

Separators at the ends of a text do not matter, so roles are the tokens of the whole text, without
the marks of an array if it is read as one (`roleTokenChars_eq`). A separator with any text after it
leaves a text all its tokens and all its roles (`roleTokenChars_isPrefix`).
-/

namespace HttpGateway.Access

variable {l : List Char}

/-- The tokens of a text with a separator are those before it and those after it. -/
theorem tokenChars_append {c : Char} (separator : isSeparator c = true)
    (before after : List Char) :
    tokenChars (before ++ c :: after) = tokenChars before ++ tokenChars after := by
  unfold tokenChars
  rw [List.splitOnP_append_cons before after separator, List.map_append, List.filter_append]

/-- A text without a separator has at most one token: what is left without its edges. -/
theorem tokenChars_of_forall (joined : ∀ c ∈ l, isSeparator c = false) :
    tokenChars l =
      if Text.strip isTokenEdge l = [] then [] else [Text.strip isTokenEdge l] := by
  unfold tokenChars
  rw [List.splitOnP_eq_singleton joined, List.map_singleton]
  by_cases none : Text.strip isTokenEdge l = []
  · rw [if_pos none, none]
    rfl
  · have kept : (Text.strip isTokenEdge l).isEmpty = false := List.isEmpty_eq_false_iff.2 none
    rw [if_neg none, List.filter_singleton, kept]
    rfl

/-- A character that is neither a separator nor a quotation mark is no edge of a token. -/
theorem isTokenEdge_eq_false {c : Char} (joined : isSeparator c = false)
    (unquoted : isQuote c = false) : isTokenEdge c = false := by
  simp only [isSeparator, Bool.or_eq_false_iff] at joined
  rw [isTokenEdge, unquoted, joined.2]
  rfl

/-- A separator is no mark of an array. -/
theorem isArrayMark_of_isSeparator {c : Char} (separator : isSeparator c = true) :
    isArrayMark c = false := by
  have marks : ['[', ']', '"', '\''].all (fun d => !isSeparator d) = true := by decide
  refine Bool.eq_false_iff.2 fun mark => ?_
  have mem : c ∈ ['[', ']', '"', '\''] := by
    simpa [isArrayMark, isQuote, or_assoc] using mark
  have kept := List.all_eq_true.1 marks c mem
  rw [separator] at kept
  contradiction

/-- A quotation mark is a mark of an array. -/
theorem isArrayMark_of_isQuote {c : Char} (quote : isQuote c = true) : isArrayMark c = true := by
  rw [isArrayMark, quote, Bool.or_true]

/-- A quotation mark is no separator. -/
theorem isSeparator_of_isQuote {c : Char} (quote : isQuote c = true) : isSeparator c = false := by
  refine Bool.eq_false_iff.2 fun separator => ?_
  have unmarked := isArrayMark_of_isSeparator separator
  rw [isArrayMark_of_isQuote quote] at unmarked
  contradiction

/-! ## What tokens are -/

/-- A text that may be a token: it is not empty, it has no separator, and no quotation mark stands
at either of its ends. -/
structure IsToken (token : List Char) : Prop where
  /-- There is a character. -/
  ne_nil : token ≠ []
  /-- No character is a separator. -/
  joined : ∀ c ∈ token, isSeparator c = false
  /-- The first character is no quotation mark. -/
  head : ∀ c ∈ token.head?, isQuote c = false
  /-- The last character is no quotation mark. -/
  last : ∀ c ∈ token.getLast?, isQuote c = false

/-- Whatever the text, its tokens are such. -/
theorem isToken_of_mem_tokenChars {token : List Char} (held : token ∈ tokenChars l) :
    IsToken token := by
  obtain ⟨stripped, some⟩ := List.mem_filter.1 held
  obtain ⟨piece, there, rfl⟩ := List.mem_map.1 stripped
  obtain ⟨head, last⟩ := Text.ends_strip isTokenEdge piece
  have unquoted : ∀ c, isTokenEdge c = false → isQuote c = false := fun c stays =>
    (Bool.or_eq_false_iff.1 stays).1
  exact {
    ne_nil := by simpa using some
    joined := fun c mem =>
      (Text.mem_and_not_of_mem_splitOnP there (Text.mem_of_mem_strip mem)).2
    head := fun c first => unquoted c (head c first)
    last := fun c final => unquoted c (last c final) }

/-- A text without separators and quotation marks may be a token, unless it is empty. -/
theorem isToken_of_word (some : l ≠ []) (joined : ∀ c ∈ l, isSeparator c = false)
    (unquoted : ∀ c ∈ l, isQuote c = false) : IsToken l where
  ne_nil := some
  joined := joined
  head := fun c first => unquoted c (List.mem_of_mem_head? first)
  last := fun c final => unquoted c (List.mem_of_mem_getLast? final)

/-- A text that may be a token is the token of itself between any quotation marks. -/
theorem IsToken.tokenChars_wrapped {front back : List Char} (token : IsToken l)
    (opening : ∀ c ∈ front, isQuote c = true) (closing : ∀ c ∈ back, isQuote c = true) :
    tokenChars (front ++ l ++ back) = [l] := by
  have edge : ∀ c, isQuote c = true → isTokenEdge c = true := fun c quote => by
    rw [isTokenEdge, quote, Bool.true_or]
  have head : ∀ c ∈ l.head?, isTokenEdge c = false := fun c first =>
    isTokenEdge_eq_false (token.joined c (List.mem_of_mem_head? first)) (token.head c first)
  have last : ∀ c ∈ l.getLast?, isTokenEdge c = false := fun c final =>
    isTokenEdge_eq_false (token.joined c (List.mem_of_mem_getLast? final)) (token.last c final)
  have before : front.dropWhile isTokenEdge = [] :=
    List.dropWhile_eq_nil_iff.2 fun c mem => edge c (opening c mem)
  have after : Text.dropTailWhile isTokenEdge back = [] := by
    have gone : back.reverse.dropWhile isTokenEdge = [] :=
      List.dropWhile_eq_nil_iff.2 fun c mem => edge c (closing c (List.mem_reverse.1 mem))
    rw [Text.dropTailWhile, gone, List.reverse_nil]
  have inside : Text.strip isTokenEdge (front ++ l ++ back) = l := by
    rw [Text.strip_append_append token.ne_nil head last, before, after, List.nil_append,
      List.append_nil]
  have joined : ∀ c ∈ front ++ l ++ back, isSeparator c = false := by
    intro c mem
    rcases List.mem_append.1 mem with mem | mem
    · rcases List.mem_append.1 mem with mem | mem
      · exact isSeparator_of_isQuote (opening c mem)
      · exact token.joined c mem
    · exact isSeparator_of_isQuote (closing c mem)
  rw [tokenChars_of_forall joined, inside, if_neg token.ne_nil]

/-- A text that may be a token is its own token. -/
theorem IsToken.tokenChars_eq (token : IsToken l) : tokenChars l = [l] := by
  have whole := token.tokenChars_wrapped (List.forall_mem_nil _) (List.forall_mem_nil _)
  rwa [List.nil_append, List.append_nil] at whole

/-- A text without separators and quotation marks is its own token, unless it is empty. -/
theorem tokenChars_of_word (joined : ∀ c ∈ l, isSeparator c = false)
    (unquoted : ∀ c ∈ l, isQuote c = false) : tokenChars l = if l = [] then [] else [l] := by
  by_cases none : l = []
  · rw [none]
    rfl
  · rw [if_neg none, (isToken_of_word none joined unquoted).tokenChars_eq]

/-- Quotation marks around a text without separators and quotation marks do not change its
token. -/
theorem tokenChars_quoted (joined : ∀ c ∈ l, isSeparator c = false)
    (unquoted : ∀ c ∈ l, isQuote c = false) :
    tokenChars ('"' :: (l ++ ['"'])) = if l = [] then [] else [l] := by
  have quote : ∀ c ∈ ['"'], isQuote c = true := List.forall_mem_singleton.2 (by decide)
  by_cases none : l = []
  · rw [none]
    rfl
  · rw [if_neg none]
    exact (isToken_of_word none joined unquoted).tokenChars_wrapped quote quote

/-- A character that no end of a token loses stands in every token of a text that has it and no
separator. -/
theorem mem_of_mem_tokenChars {c : Char} (stays : isTokenEdge c = false) (mem : c ∈ l)
    (joined : ∀ d ∈ l, isSeparator d = false) {token : List Char} (held : token ∈ tokenChars l) :
    c ∈ token := by
  rw [tokenChars_of_forall joined] at held
  split at held
  · contradiction
  · rw [List.mem_singleton.1 held]
    exact Text.mem_strip_of_not stays mem

/-! ## Separators around a text -/

/-- White space is a separator. -/
theorem isSeparator_of_isBlank {c : Char} (blank : Text.isBlank c = true) :
    isSeparator c = true := by
  rw [isSeparator, blank, Bool.or_true]

/-- Separators before a text do not change its tokens. -/
theorem tokenChars_append_left {before : List Char}
    (separators : ∀ c ∈ before, isSeparator c = true) (l : List Char) :
    tokenChars (before ++ l) = tokenChars l := by
  induction before with
  | nil => rfl
  | cons c rest ih =>
    obtain ⟨first, others⟩ := List.forall_mem_cons.1 separators
    have parted := tokenChars_append first [] (rest ++ l)
    rw [List.cons_append, ← List.nil_append (c :: (rest ++ l)), parted, ih others]
    rfl

/-- Separators after a text do not change its tokens. -/
theorem tokenChars_append_right {after : List Char}
    (separators : ∀ c ∈ after, isSeparator c = true) (l : List Char) :
    tokenChars (l ++ after) = tokenChars l := by
  cases after with
  | nil => rw [List.append_nil]
  | cons c rest =>
    obtain ⟨first, others⟩ := List.forall_mem_cons.1 separators
    have none := tokenChars_append_left others []
    rw [List.append_nil] at none
    rw [tokenChars_append first, none]
    exact List.append_nil _

/-! ## Tokens in a row -/

/-- Any separators, at least one: commas, white space or both. -/
structure IsGap (gap : List Char) : Prop where
  /-- There is a separator. -/
  ne_nil : gap ≠ []
  /-- There is nothing else. -/
  separators : ∀ c ∈ gap, isSeparator c = true

/-- A gap parts the tokens of what stands before it from the tokens of what stands after it. -/
theorem IsGap.tokenChars_append {gap : List Char} (parts : IsGap gap) (before after : List Char) :
    tokenChars (before ++ (gap ++ after)) = tokenChars before ++ tokenChars after := by
  obtain ⟨c, rest, rfl⟩ := List.exists_cons_of_ne_nil parts.ne_nil
  obtain ⟨first, others⟩ := List.forall_mem_cons.1 parts.separators
  rw [List.cons_append, Access.tokenChars_append first, tokenChars_append_left others]

/-- Texts that may be tokens are the tokens of all of them joined with a gap. -/
theorem IsGap.tokenChars_intercalate {glue : List Char} (parts : IsGap glue)
    {tokens : List (List Char)} (all : ∀ token ∈ tokens, IsToken token) :
    tokenChars (glue.intercalate tokens) = tokens := by
  induction tokens with
  | nil => rfl
  | cons token rest ih =>
    obtain ⟨first, others⟩ := List.forall_mem_cons.1 all
    cases rest with
    | nil => rw [List.intercalate_singleton, first.tokenChars_eq]
    | cons next more =>
      rw [List.intercalate_cons_cons, List.append_assoc, parts.tokenChars_append,
        first.tokenChars_eq, ih others]
      rfl

/-- Cutting a claim into tokens turns a comma or white space between two texts into nothing but a
break between their tokens; every token is such that it may be one; and such texts joined with
commas have just themselves as tokens. So the tokens of a text, joined with commas, have the same
tokens again. -/
theorem claimTokens_homomorphism :
    (∀ (before after : String) (c : Char), c = ',' ∨ Text.isBlank c = true →
      claimTokens (before ++ String.singleton c ++ after) =
        claimTokens before ++ claimTokens after) ∧
      (∀ raw, ∀ token ∈ claimTokens raw, IsToken token.toList) ∧
      (∀ tokens : List String, (∀ token ∈ tokens, IsToken token.toList) →
        claimTokens (",".intercalate tokens) = tokens) ∧
      ∀ raw, claimTokens (",".intercalate (claimTokens raw)) = claimTokens raw := by
  have shape : ∀ raw, ∀ token ∈ claimTokens raw, IsToken token.toList := by
    intro raw token held
    obtain ⟨chars, there, rfl⟩ := List.mem_map.1 held
    rw [String.toList_ofList]
    exact isToken_of_mem_tokenChars there
  have joined : ∀ tokens : List String, (∀ token ∈ tokens, IsToken token.toList) →
      claimTokens (",".intercalate tokens) = tokens := by
    intro tokens all
    have comma : IsGap [','] := ⟨List.cons_ne_nil _ _, List.forall_mem_singleton.2 (by decide)⟩
    have own := comma.tokenChars_intercalate (List.forall_mem_map.2 all)
    have glue : ",".toList = [','] := rfl
    rw [claimTokens, String.toList_intercalate, glue, own, List.map_map]
    exact List.map_id'' (fun _ => String.ofList_toList) tokens
  refine ⟨?_, shape, joined, fun raw => joined _ (shape raw)⟩
  rintro before after c (rfl | blank)
  · have comma : isSeparator ',' = true := by decide
    simp [claimTokens, tokenChars_append comma]
  · simp [claimTokens, tokenChars_append (isSeparator_of_isBlank blank)]

/-- Quotation marks beside a wide blank fall away, and a comma inside quotation marks still parts
tokens. -/
theorem claimTokens_homomorphism_wide : Text.isBlank '\u3000' = true ∧
    claimTokens ("\"it's\"'" ++ String.singleton '\u3000' ++ "''\"a,b\"") =
      ["it's", "a", "b"] := by
  have blank : Text.isBlank '\u3000' = true := by decide
  refine ⟨blank, ?_⟩
  rw [claimTokens_homomorphism.1 _ _ _ (.inr blank)]
  decide +kernel

/-! ## Roles -/

/-- Whether roles are read off a text as off an array: whether its first character that is no white
space is an opening bracket. -/
def isArrayText (raw : List Char) : Bool := (raw.dropWhile Text.isBlank).head? == some '['

/-- The roles of a text are its tokens, without the marks of an array if it is read as one. -/
theorem roleTokenChars_eq (raw : List Char) :
    roleTokenChars raw =
      tokenChars (if isArrayText raw then raw.filter (!isArrayMark ·) else raw) := by
  obtain ⟨front, back, whole, blankFront, blankBack⟩ :=
    Text.exists_eq_append_strip Text.isBlank raw
  have before : ∀ c ∈ front, isSeparator c = true := fun c mem =>
    isSeparator_of_isBlank (blankFront c mem)
  have after : ∀ c ∈ back, isSeparator c = true := fun c mem =>
    isSeparator_of_isBlank (blankBack c mem)
  have head : isArrayText raw = ((Text.strip Text.isBlank raw).head? == some '[') := by
    rw [isArrayText, Text.head?_strip]
  unfold roleTokenChars
  rw [head]
  generalize Text.strip Text.isBlank raw = trimmed at whole
  subst whole
  dsimp only
  split
  -- The separators cut off at the ends are no marks, so they stand at the ends without them too.
  · have kept : ∀ l : List Char, (∀ c ∈ l, isSeparator c = true) →
        ∀ c ∈ l.filter (!isArrayMark ·), isSeparator c = true :=
      fun l all c mem => all c (List.mem_of_mem_filter mem)
    rw [List.filter_append, List.filter_append, tokenChars_append_right (kept back after),
      tokenChars_append_left (kept front before)]
  · rw [tokenChars_append_right after, tokenChars_append_left before]

section

variable {c : Char} (separator : isSeparator c = true) (raw rest : List Char)

include separator

/-- A separator with any text after it leaves a text its tokens. -/
theorem tokenChars_isPrefix : tokenChars raw <+: tokenChars (raw ++ c :: rest) := by
  rw [tokenChars_append separator]
  exact List.prefix_append _ _

/-- A separator with any text after it leaves a text its roles. -/
theorem roleTokenChars_isPrefix : roleTokenChars raw <+: roleTokenChars (raw ++ c :: rest) := by
  rw [roleTokenChars_eq, roleTokenChars_eq]
  cases start : raw.dropWhile Text.isBlank with
  -- White space alone has no tokens, however the text after it is read.
  | nil =>
    have blank : ∀ d ∈ raw, isSeparator d = true := fun d mem =>
      isSeparator_of_isBlank (List.dropWhile_eq_nil_iff.1 start d mem)
    have none : tokenChars raw = [] := by
      rw [← List.append_nil raw, tokenChars_append_left blank]
      rfl
    have bare : isArrayText raw = false := by
      rw [isArrayText, start]
      rfl
    rw [bare, if_neg Bool.false_ne_true, none]
    exact List.nil_prefix
  -- The first other character settles how both texts are read.
  | cons d tail =>
    have same : isArrayText (raw ++ c :: rest) = isArrayText raw := by
      unfold isArrayText
      rw [List.dropWhile_append, start]
      rfl
    rw [same]
    split
    · have unmarked := isArrayMark_of_isSeparator separator
      rw [List.filter_append, List.filter_cons_of_pos (by rw [unmarked]; rfl)]
      exact tokenChars_isPrefix separator _ _
    · exact tokenChars_isPrefix separator raw rest

end

end HttpGateway.Access
