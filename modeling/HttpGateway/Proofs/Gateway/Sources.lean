import HttpGateway.Proofs.Access.Identity
import HttpGateway.Proofs.Gateway.Noninterference
import HttpGateway.Proofs.Json.Scalar

/-!
# The two sources of an identity

A JSON object gives claims whether it comes in the header field for token claims or in that for a
context, and the two are read each in its own way. For an object without floating-point values they
give the same claims, except that a truth value is written in small letters or with a capital. No
check can tell this difference, so a decision without predicates does not depend on the source
(`Identity.sources_agree`).
-/

namespace HttpGateway

/-- The text of an integer is its decimal digits. -/
theorem Json.text_integer (n : Int) : (Json.number (.integer n)).text = toString n := by
  cases n with
  | ofNat n => rfl
  | negSucc n =>
    have sign : String.ofList (['-'] ++ Nat.toDigits 10 (n + 1)) =
        "-" ++ String.ofList (Nat.toDigits 10 (n + 1)) := String.ofList_append
    exact sign

namespace Identity

variable {names : IdentityHeaders} {headers first second : Headers} {held bare : Option String}
  {object : Dict Json} {value : Json} {name : String}

/-! ## Values -/

/-- The claim that a truth value stands for in a context. -/
theorem claim?_ofJson_bool (b : Bool) :
    (ContextValue.ofJson (.bool b)).claim? = some (if b then "True" else "False") := by
  cases b <;> rfl

/-- The token claim that a truth value stands for. -/
theorem tokenClaim?_bool (b : Bool) :
    tokenClaim? (.bool b) = some (if b then "true" else "false") := by
  cases b <;> decide +kernel

/-- The token claim that an integer stands for is its decimal digits. -/
theorem tokenClaim?_integer (n : Int) :
    tokenClaim? (.number (.integer n)) = some (toString n) :=
  congrArg some (Json.text_integer n)

/-- The claim that an integer stands for in a context is its decimal digits, whichever word it is
kept in. -/
theorem claim?_ofJson_integer (n : Int) :
    (ContextValue.ofJson (.number (.integer n))).claim? = some (toString n) := by
  change (if n ≤ 9223372036854775807 then ContextValue.integer n
    else .natural n.toNat).claim? = some (toString n)
  split
  · rfl
  · next beyond =>
    obtain ⟨m, rfl⟩ := Int.eq_ofNat_of_zero_le (a := n) (by omega)
    rfl

/-- A value that is neither a truth value nor a floating-point number stands for the same claim in a
context and in a token. -/
theorem claim?_ofJson (exact : ∀ x, value ≠ .number (.real x)) (other : ∀ b, value ≠ .bool b) :
    (ContextValue.ofJson value).claim? = tokenClaim? value := by
  cases value with
  | bool b => exact absurd rfl (other b)
  | number n =>
    cases n with
    | real x => exact absurd rfl (exact x)
    | integer n => rw [claim?_ofJson_integer, tokenClaim?_integer]
  | _ => rfl

/-- A value stands for no token claim exactly when it is null. -/
theorem tokenClaim?_eq_none_iff : tokenClaim? value = none ↔ value = .null := by
  cases value <;> simp [tokenClaim?]

/-- The two ways of writing a truth value have the same tokens, letter case apart. -/
theorem sameTokens_bool (b : Bool) :
    Access.SameTokens (if b then "true" else "false") (if b then "True" else "False") := by
  cases b <;> exact ⟨by decide +kernel, by decide +kernel⟩

/-- What a value stands for in a token and in a context has the same tokens, letter case apart. -/
theorem rel_claims (exact : ∀ x, value ≠ .number (.real x)) :
    Option.Rel Access.SameTokens (tokenClaim? value) (ContextValue.ofJson value).claim? := by
  by_cases truth : ∃ b, value = .bool b
  · obtain ⟨b, rfl⟩ := truth
    rw [tokenClaim?_bool, claim?_ofJson_bool]
    exact .some (sameTokens_bool b)
  · rw [claim?_ofJson exact fun b same => truth ⟨b, same⟩]
    exact Access.SameTokens.refl _

/-! ## Header fields -/

/-- Of two header fields that may be configured, the first holds the text of a JSON object, and the
second is not configured, is missing or holds no such text. -/
structure HoldsOnly (headers : Headers) (held bare : Option String) (object : Dict Json) :
    Prop where
  /-- The first field holds the text of the object. -/
  held : ∃ name text members, held = some name ∧ headers.text? name = some text ∧
    Json.ofText? text = some (.object members) ∧ object = .ofList members
  /-- The second field holds no text of an object. -/
  bare : ∀ name text members, bare = some name → headers.text? name = some text →
    Json.ofText? text ≠ some (.object members)

/-- The object is read from the field that holds it. -/
theorem HoldsOnly.bind_held (only : HoldsOnly headers held bare object) :
    held.bind (objectField? headers) = some object := by
  obtain ⟨name, text, members, configured, carried, read, rfl⟩ := only.held
  rw [configured, Option.bind_some]
  unfold objectField?
  rw [carried, Option.bind_some, read]

/-- Nothing is read from the other field. -/
theorem HoldsOnly.bind_bare (only : HoldsOnly headers held bare object) :
    bare.bind (objectField? headers) = none := by
  cases configured : bare with
  | none => rfl
  | some name =>
    rw [Option.bind_some]
    unfold objectField?
    split
    · next members read =>
      obtain ⟨text, carried, read⟩ := Option.bind_eq_some_iff.1 read
      exact absurd read (only.bare name text members configured carried)
    · rfl

/-- A claim of an object that comes in the field for token claims alone. -/
theorem HoldsOnly.get?_token (only : HoldsOnly headers names.claims names.context object)
    (name : String) :
    (ofHeaders names headers).claims.get? name = (object.get? name).bind tokenClaim? := by
  have token : (ofHeaders names headers).tokenClaims = some (object.filterMap tokenClaim?) := by
    rw [ofHeaders, only.bind_held]
    rfl
  have context : (ofHeaders names headers).context = none := by
    rw [ofHeaders, only.bind_bare]
    rfl
  have claims : (ofHeaders names headers).claims = object.filterMap tokenClaim? := by
    -- Token claims that are empty give way to the context, but here there is none.
    by_cases none : object.filterMap tokenClaim? = ∅
    · rw [none] at token ⊢
      rw [claims_of_no_tokenClaims (.inr token), context]
      rfl
    · exact claims_of_tokenClaims token none
  rw [claims, Dict.get?_filterMap]

/-- A claim of an object that comes in the field for a context alone. -/
theorem HoldsOnly.get?_context (only : HoldsOnly headers names.context names.claims object)
    (name : String) : (ofHeaders names headers).claims.get? name =
      (object.get? name).bind fun value => (ContextValue.ofJson value).claim? := by
  have token : (ofHeaders names headers).tokenClaims = none := by
    rw [ofHeaders, only.bind_bare]
    rfl
  have claims : (ofHeaders names headers).claims =
      contextClaims (object.map ContextValue.ofJson) := by
    rw [claims_of_no_tokenClaims (.inl token), ofHeaders, only.bind_held]
    rfl
  rw [claims, contextClaims, Dict.get?_filterMap, Dict.map, Dict.get?_filterMap]
  cases object.get? name <;> rfl

/-! ## Agreement -/

/-- Two dictionaries of claims are those of an object, which is read as token claims for the one and
as a context for the other. -/
structure Correspond (object : Dict Json) (claims others : Dict String) : Prop where
  /-- There are claims for the values that are not null. -/
  types : ∀ name, claims.get? name ≠ none ↔ ∃ value, object.get? name = some value ∧ value ≠ .null
  /-- The others are of the same types. -/
  otherTypes : ∀ name, others.get? name ≠ none ↔ claims.get? name ≠ none
  /-- A truth value is written in small letters, and among the others with a capital. -/
  truth : ∀ name b, object.get? name = some (.bool b) →
    claims.get? name = some (if b then "true" else "false") ∧
      others.get? name = some (if b then "True" else "False")
  /-- Every other claim is the same. -/
  same : ∀ name, (∀ b, object.get? name ≠ some (.bool b)) → claims.get? name = others.get? name
  /-- An integer has its decimal digits. -/
  integer : ∀ name n, object.get? name = some (.number (.integer n)) →
    claims.get? name = some (toString n)

section

variable (token : HoldsOnly first names.claims names.context object)
  (context : HoldsOnly second names.context names.claims object)
  (exact : ∀ name x, object.get? name ≠ some (.number (.real x)))

include token context exact

/-- The claims of one object agree, whichever field it comes in. -/
theorem HoldsOnly.agree :
    Access.Agree (ofHeaders names first).claims (ofHeaders names second).claims := by
  intro type
  rw [token.get?_token, context.get?_context]
  cases found : object.get? type with
  | none => exact .none
  | some value =>
    refine rel_claims fun x same => exact type x ?_
    rw [found, same]

/-- The claims of one object correspond, whichever field it comes in. -/
theorem HoldsOnly.correspond :
    Correspond object (ofHeaders names first).claims (ofHeaders names second).claims := by
  have values := token.get?_token
  have others := context.get?_context
  constructor
  case types =>
    intro name
    rw [values]
    cases object.get? name with
    | none => simp
    | some value => simp [tokenClaim?_eq_none_iff]
  case otherTypes =>
    intro name
    exact not_congr ((token.agree context exact).get?_eq_none_iff name).symm
  case truth =>
    intro name b found
    rw [values, others, found]
    exact ⟨tokenClaim?_bool b, claim?_ofJson_bool b⟩
  case same =>
    intro name other
    rw [values, others]
    cases found : object.get? name with
    | none => rfl
    | some value =>
      rw [found] at other
      refine (claim?_ofJson (fun x same => exact name x ?_) fun b same => other b ?_).symm
      · rw [found, same]
      · rw [same]
  case integer =>
    intro name n found
    rw [values, found]
    exact tokenClaim?_integer n

end

/-- Take a JSON object none of whose values is a floating-point number, a request that carries it in
the field for token claims alone, and one that carries it in the field for a context alone. Their
claims correspond: they are of the types for which the object has a value that is not null, and are
the same but for truth values, which are written in small letters or with a capital; an integer has
its decimal digits. Where policies have no predicates, the same is decided about both for every
requirement, with the same reason if they are denied. Both have no claims or neither has. At a
gateway with such policies both requests are denied and answered with the same reply, or neither is
denied. The text of an object of scalars, of integers in the range among them, is read as this
object. -/
theorem sources_agree (token : HoldsOnly first names.claims names.context object)
    (context : HoldsOnly second names.context names.claims object)
    (exact : ∀ name x, object.get? name ≠ some (.number (.real x))) :
    Correspond object (ofHeaders names first).claims (ofHeaders names second).claims ∧
    (∀ registry : Registry, registry.Plain → ∀ requirement (one other : Context),
      one.claims = (ofHeaders names first).claims →
      other.claims = (ofHeaders names second).claims →
        Access.authorize registry one requirement = Access.authorize registry other requirement) ∧
    ((ofHeaders names first).claims = ∅ ↔ (ofHeaders names second).claims = ∅) ∧
    (∀ {κ : Type} (gateway : Gateway κ), gateway.registry.Plain → ∀ one other : Request,
      one.method = other.method → one.path = other.path →
      one.identity = ofHeaders names first → other.identity = ofHeaders names second →
        ∀ denial, (gateway.Denies one denial ↔ gateway.Denies other denial) ∧
          (gateway.Denies one denial → ∃ reply : Reply, gateway.Answers one (fun _ => reply) ∧
            gateway.Answers other fun _ => reply)) ∧
    ∀ d : Dict Json, (∀ name value, d.get? name = some value → value.Scalar) →
      Json.ofText? (Json.ofDict d).text = some (.ofDict d) := by
  have agree := token.agree context exact
  refine ⟨token.correspond context exact, ?_, ?_, ?_, ?_⟩
  · intro registry plain requirement one other claims others
    refine Access.authorize_eq_of_agree (plain.unpredicated requirement) ?_
    rw [claims, others]
    exact agree
  · rw [← Dict.isEmpty_iff, ← Dict.isEmpty_iff, agree.isEmpty_eq]
  · intro κ gateway plain one other method path identity others denial
    rw [← identity, ← others] at agree
    refine ⟨⟨fun denied => ?_, fun denied => ?_⟩, fun denied => ?_⟩
    · exact (denied.of_agree plain method path agree).1
    · exact (denied.of_agree plain method.symm path.symm agree.symm).1
    · exact (denied.of_agree plain method path agree).2
  · exact fun d scalars => Json.ofText?_text_of_scalars scalars

/-- An object with a truth value, a null value, the greatest integer and a text gives the same
claims from both fields, but for the writing of the truth value. -/
theorem sources_agree_mixed :
    ∃ (names : IdentityHeaders) (first second : Headers) (object : Dict Json),
      HoldsOnly first names.claims names.context object ∧
      HoldsOnly second names.context names.claims object ∧
      (∀ name x, object.get? name ≠ some (.number (.real x))) ∧
      (ofHeaders names first).claims.get? "active" = some "true" ∧
      (ofHeaders names second).claims.get? "active" = some "True" ∧
      (ofHeaders names first).claims.get? "id" = some "18446744073709551615" ∧
      (ofHeaders names second).claims.get? "id" = some "18446744073709551615" ∧
      (ofHeaders names second).claims.get? "gone" = none := by
  let object : Dict Json := ⟨[("active", .bool true), ("gone", .null),
    ("id", .number (.integer 18446744073709551615)), ("sub", .string "ann")], by decide +kernel⟩
  have scalars : ∀ name value, object.get? name = some value → value.Scalar := by
    intro name value found
    have mem := Dict.get?_eq_some_iff.1 found
    simp only [object, List.mem_cons, Prod.mk.injEq, List.not_mem_nil, or_false] at mem
    rcases mem with ⟨-, rfl⟩ | ⟨-, rfl⟩ | ⟨-, rfl⟩ | ⟨-, rfl⟩
    · exact .bool true
    · exact .null
    · exact .integer (by decide)
    · exact .string "ann"
  have exact : ∀ name x, object.get? name ≠ some (.number (.real x)) := by
    intro name x found
    cases scalars name _ found
  let text : String := (Json.ofDict object).text
  have read : Json.ofText? text = some (.object object.entries) :=
    Json.ofText?_text_of_scalars scalars
  let value : FieldValue := ⟨Text.Utf8.encode text, by decide +kernel⟩
  let names : IdentityHeaders := ⟨some "x-claims", some "x-context"⟩
  let first : Headers := ⟨[(⟨"x-claims", by decide +kernel⟩, value)]⟩
  let second : Headers := ⟨[(⟨"x-context", by decide +kernel⟩, value)]⟩
  have missing : first.text? "x-context" = none := by decide +kernel
  have missingOther : second.text? "x-claims" = none := by decide +kernel
  have token : HoldsOnly first names.claims names.context object := by
    refine ⟨⟨"x-claims", text, object.entries, rfl, by decide +kernel, read,
      (Dict.ofList_entries object).symm⟩, fun name other members configured carried => ?_⟩
    obtain rfl : "x-context" = name := Option.some.inj configured
    rw [missing] at carried
    cases carried
  have context : HoldsOnly second names.context names.claims object := by
    refine ⟨⟨"x-context", text, object.entries, rfl, by decide +kernel, read,
      (Dict.ofList_entries object).symm⟩, fun name other members configured carried => ?_⟩
    obtain rfl : "x-claims" = name := Option.some.inj configured
    rw [missingOther] at carried
    cases carried
  obtain ⟨⟨types, otherTypes, truth, same, integer⟩, -⟩ := sources_agree token context exact
  have active := truth "active" true rfl
  have digits : (ofHeaders names first).claims.get? "id" = some "18446744073709551615" :=
    integer "id" 18446744073709551615 rfl
  have numeral : ∀ b, object.get? "id" ≠ some (.bool b) := fun b found => by cases found
  have dropped : (ofHeaders names second).claims.get? "gone" = none := by
    refine Decidable.byContradiction fun there => ?_
    obtain ⟨value, found, filled⟩ := (types "gone").1 ((otherTypes "gone").1 there)
    exact filled (Option.some.inj found).symm
  exact ⟨names, first, second, object, token, context, exact, active.1, active.2, digits,
    (same "id" numeral).symm.trans digits, dropped⟩

end Identity

end HttpGateway
