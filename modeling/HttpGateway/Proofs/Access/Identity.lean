import HttpGateway.Access.Identity
import HttpGateway.Proofs.Json.RoundTrip
import HttpGateway.Proofs.Message.Field

/-!
# The claims of a caller

A caller has the claims of the token if there are any, and else those of the context; he has none
exactly when both give none (`Identity.claims_eq_empty_iff`). Token claims that a header field
carries as the text of a JSON object come out as they went in, if the text is ASCII. A field with
any other text is passed over like one that is missing (`Identity.ofHeaders_text_ofTexts`).
-/

namespace HttpGateway

/-- A value of a context stands for no claim exactly when it is nothing. -/
theorem ContextValue.claim?_eq_none_iff {value : ContextValue} :
    value.claim? = none ↔ value = .null := by
  cases value with
  | bool b => cases b <;> simp [claim?]
  | _ => simp [claim?]

namespace Identity

/-- Token claims are the claims of a caller as soon as there is one. -/
theorem claims_of_tokenClaims {identity : Identity} {claims : Dict String}
    (token : identity.tokenClaims = some claims) (filled : claims ≠ ∅) :
    identity.claims = claims := by
  have kept : claims.isEmpty = false := by
    rw [← Bool.not_eq_true, Dict.isEmpty_iff]
    exact filled
  have passed : (some claims).filter (!·.isEmpty) = some claims := by
    rw [Option.filter_some, kept]
    rfl
  rw [Identity.claims, token, passed]

/-- Without a token claim the claims of a caller are those of the context. -/
theorem claims_of_no_tokenClaims {identity : Identity}
    (unheld : identity.tokenClaims = none ∨ identity.tokenClaims = some ∅) :
    identity.claims = (identity.context.map contextClaims).getD ∅ := by
  rcases unheld with unheld | unheld <;> rw [Identity.claims, unheld] <;> rfl

/-- The claims of a context are empty exactly when it holds nothing but null values. -/
theorem contextClaims_eq_empty_iff {context : Dict ContextValue} :
    contextClaims context = ∅ ↔ ∀ name value, context.get? name = some value → value = .null := by
  rw [Dict.eq_empty_iff]
  simp only [contextClaims, Dict.get?_filterMap, Option.bind_eq_none_iff,
    ContextValue.claim?_eq_none_iff]

/-- A caller has no claims exactly when there are no token claims, or none of them, and no context,
or none but null values in it. -/
theorem claims_eq_empty_iff {identity : Identity} :
    identity.claims = ∅ ↔
      (identity.tokenClaims = none ∨ identity.tokenClaims = some ∅) ∧
        (identity.context = none ∨ ∃ context, identity.context = some context ∧
          ∀ name value, context.get? name = some value → value = .null) := by
  by_cases token : identity.tokenClaims = none ∨ identity.tokenClaims = some ∅
  · rw [claims_of_no_tokenClaims token]
    simp only [token, true_and]
    cases identity.context with
    | none => simp
    | some context => simpa using contextClaims_eq_empty_iff
  · obtain ⟨claims, held⟩ := Option.ne_none_iff_exists'.1 fun unheld => token (.inl unheld)
    have filled : claims ≠ ∅ := fun empty => token (.inr (empty ▸ held))
    rw [claims_of_tokenClaims held filled]
    simp [token, filled]

/-! ## Claims in a header field -/

/-- The object in a field that carries the text of a dictionary of texts is that dictionary if the
text is ASCII, and is not found otherwise. -/
theorem objectField?_text_ofTexts {headers : Headers} {written : String} {name : FieldName}
    {value : FieldValue} {claims : Dict String} (legal : FieldName.read? written = some name)
    (carried : headers.get? name = some value)
    (printed : value.octets = Text.Utf8.encode (Json.ofTexts claims).text) :
    objectField? headers written =
      if Text.IsAscii (Json.ofTexts claims).text then some (claims.map .string) else none := by
  have readable : headers.text? written =
      if Text.IsAscii (Json.ofTexts claims).text then some (Json.ofTexts claims).text
      else none := by
    rw [Headers.text?, legal, Option.bind_some, carried, Option.bind_some,
      FieldValue.text?_eq_ite printed]
  unfold objectField?
  rw [readable]
  by_cases ascii : Text.IsAscii (Json.ofTexts claims).text
  · rw [if_pos ascii, if_pos ascii, Option.bind_some, Json.ofText?_text_ofTexts]
    change some (Dict.ofList (claims.map Json.string).entries) = _
    rw [Dict.ofList_entries]
  · rw [if_neg ascii, if_neg ascii]
    rfl

/-- Texts stand for themselves as token claims. -/
theorem filterMap_tokenClaim?_map_string (claims : Dict String) :
    (claims.map Json.string).filterMap tokenClaim? = claims := by
  apply Dict.ext_get?
  intro key
  rw [Dict.get?_filterMap, Dict.map, Dict.get?_filterMap]
  cases claims.get? key <;> rfl

/-- For every dictionary of claims that is not empty and every request that carries its JSON text
in the field for claims, whatever its other fields are: if all keys and values are ASCII, then the
token claims are the dictionary and so are the claims of the caller; otherwise there are no token
claims, and the claims of the caller are those of the context. -/
theorem ofHeaders_text_ofTexts {names : IdentityHeaders} {headers : Headers} {written : String}
    {name : FieldName} {value : FieldValue} {claims : Dict String}
    (configured : names.claims = some written) (legal : FieldName.read? written = some name)
    (carried : headers.get? name = some value)
    (printed : value.octets = Text.Utf8.encode (Json.ofTexts claims).text)
    (filled : claims ≠ ∅) :
    ((∀ key text, claims.get? key = some text → Text.IsAscii key ∧ Text.IsAscii text) →
      (ofHeaders names headers).tokenClaims = some claims ∧
        (ofHeaders names headers).claims = claims) ∧
    ((∃ key text, claims.get? key = some text ∧ ¬ (Text.IsAscii key ∧ Text.IsAscii text)) →
      (ofHeaders names headers).tokenClaims = none ∧
        (ofHeaders names headers).claims =
          ((ofHeaders names headers).context.map contextClaims).getD ∅) := by
  have field := objectField?_text_ofTexts legal carried printed
  have token : (ofHeaders names headers).tokenClaims =
      (objectField? headers written).map (·.filterMap tokenClaim?) := by
    rw [ofHeaders, configured, Option.bind_some]
  constructor
  · intro ascii
    rw [if_pos (Json.isAscii_text_ofTexts_iff.2 ascii)] at field
    have held : (ofHeaders names headers).tokenClaims = some claims := by
      rw [token, field, Option.map_some, filterMap_tokenClaim?_map_string]
    exact ⟨held, claims_of_tokenClaims held filled⟩
  · rintro ⟨key, text, found, beyond⟩
    have unreadable : ¬ Text.IsAscii (Json.ofTexts claims).text := fun ascii =>
      beyond (Json.isAscii_text_ofTexts_iff.1 ascii key text found)
    rw [if_neg unreadable] at field
    have unheld : (ofHeaders names headers).tokenClaims = none := by
      rw [token, field, Option.map_none]
    exact ⟨unheld, claims_of_no_tokenClaims (.inl unheld)⟩

/-- Claims in ASCII, one with an escape in it, are read from their field, whatever stands in the
field for a context. -/
theorem ofHeaders_text_ofTexts_ascii :
    ∃ (claimsName contextName : FieldName) (value : FieldValue),
      FieldName.read? "X-Claims" = some claimsName ∧
      FieldName.read? "x-context" = some contextName ∧
      value.octets = Text.Utf8.encode (Json.ofTexts (.ofList [("sub", "u\"1")])).text ∧
      ∀ other : FieldValue, (ofHeaders ⟨some "X-Claims", some "x-context"⟩
        ⟨[(contextName, other), (claimsName, value)]⟩).claims = .ofList [("sub", "u\"1")] := by
  have ascii : Text.IsAscii (Json.ofTexts (.ofList [("sub", "u\"1")])).text := by decide +kernel
  have visible : (Text.Utf8.encode (Json.ofTexts (.ofList [("sub", "u\"1")])).text).all
      FieldValue.isLegalOctet = true := by decide +kernel
  have filled : Dict.ofList [("sub", "u\"1")] ≠ ∅ := by decide +kernel
  have legal : FieldName.read? "X-Claims" = some ⟨"x-claims", by decide +kernel⟩ := by
    decide +kernel
  have second : FieldName.read? "x-context" = some ⟨"x-context", by decide +kernel⟩ := by
    decide +kernel
  refine ⟨_, _, ⟨_, visible⟩, legal, second, rfl, fun other => ?_⟩
  have carried : Headers.get? ⟨[(⟨"x-context", by decide +kernel⟩, other),
      (⟨"x-claims", by decide +kernel⟩, ⟨_, visible⟩)]⟩ ⟨"x-claims", by decide +kernel⟩ =
        some ⟨_, visible⟩ := rfl
  exact ((ofHeaders_text_ofTexts rfl legal carried rfl filled).1
    (Json.isAscii_text_ofTexts_iff.1 ascii)).2

/-- Claims do not come out as they went in for every text that is a legal field value: an accent in
a name makes them disappear. -/
theorem not_forall_tokenClaims_ofHeaders :
    ¬ ∀ (names : IdentityHeaders) (headers : Headers) (written : String) (name : FieldName)
      (value : FieldValue) (claims : Dict String), names.claims = some written →
      FieldName.read? written = some name → headers.get? name = some value →
      value.octets = Text.Utf8.encode (Json.ofTexts claims).text → claims ≠ ∅ →
      (ofHeaders names headers).tokenClaims = some claims := by
  intro all
  have filled : Dict.ofList [("name", "José")] ≠ ∅ := by decide +kernel
  have beyond : ¬ Text.IsAscii (Json.ofTexts (.ofList [("name", "José")])).text := by
    decide +kernel
  have visible : (Text.Utf8.encode (Json.ofTexts (.ofList [("name", "José")])).text).all
      FieldValue.isLegalOctet = true := by decide +kernel
  have legal : FieldName.read? "x-authorizer-claims" =
      some ⟨"x-authorizer-claims", by decide +kernel⟩ := by decide +kernel
  have carried : Headers.get? ⟨[(⟨"x-authorizer-claims", by decide +kernel⟩, ⟨_, visible⟩)]⟩
      ⟨"x-authorizer-claims", by decide +kernel⟩ = some ⟨_, visible⟩ := rfl
  have held := all ⟨some "x-authorizer-claims", none⟩ _ _ _ _ _ rfl legal carried rfl filled
  have field := objectField?_text_ofTexts legal carried rfl
  rw [if_neg beyond] at field
  rw [ofHeaders, Option.bind_some, field] at held
  cases held

end Identity

end HttpGateway
