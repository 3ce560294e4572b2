import HttpGateway.Gateway.Reply
import HttpGateway.Proofs.Json.Extent

/-!
# Bodies and media types

A body is the compact text of its value, or, if the value is a string and the media type does not
name JSON, that string as it is. Letter case does not count in a media type, and so `NamesJson` asks
for `json` in any of them. A reply looks for `json` in small letters alone
(`Reply.body_response_iff`): under a media type that names JSON in capitals a string is written
without its quotation marks, and the body is no JSON text (`Reply.not_forall_body_response`).
-/

namespace HttpGateway

/-- A media type names JSON: it holds `json` in some letter case. -/
def NamesJson (mediaType : String) : Prop :=
  "json".toList <:+: (asciiLowercase mediaType).toList

instance (mediaType : String) : Decidable (NamesJson mediaType) :=
  inferInstanceAs (Decidable (_ <:+: _))

namespace Reply

variable {reply : Reply} {value : Json} {mediaType : String}

/-- A text holds another exactly when that is a part of it. -/
theorem holds_iff {part l : List Char} : holds part l = true ↔ part <:+: l := by
  induction l with
  | nil => simp [holds]
  | cons c rest ih =>
    rw [holds, Bool.or_eq_true, ih, List.isPrefixOf_iff_prefix, List.infix_cons_iff]

/-- A media type that holds `json` in small letters names JSON. -/
theorem namesJson_of_holds (named : "json".toList <:+: mediaType.toList) : NamesJson mediaType := by
  have lowered : (asciiLowercase mediaType).toList = mediaType.toList.map Char.toLower :=
    String.toList_ofList
  unfold NamesJson
  rw [lowered]
  exact named.map Char.toLower

/-- Under a media type that can be read, the body is taken for JSON exactly when it holds `json` in
small letters. -/
theorem isJson_iff (typed : reply.contentType? = some mediaType) :
    reply.isJson = true ↔ "json".toList <:+: mediaType.toList := by
  rw [isJson, typed, Option.map_some, Option.getD_some, namesJson, holds_iff]

/-- The body of a reply with a value. -/
theorem body_response (filled : reply.body = some value) :
    reply.response.body = reply.bodyText value := by
  unfold response
  rw [filled]

/-- A string is written as it is or with its quotation marks, by the media type. -/
theorem bodyText_string (reply : Reply) (s : String) :
    reply.bodyText (.string s) = if reply.isJson then (Json.string s).text else s := rfl

end Reply

/-- Escapes make no text shorter. -/
theorem Json.length_le_escapeChars (l : List Char) : l.length ≤ (l.flatMap escapeChar).length := by
  induction l with
  | nil => exact Nat.le_refl 0
  | cons c rest ih =>
    have written : 0 < (escapeChar c).length := by
      rcases escapeChar_cases c with ⟨same, -⟩ | ⟨mark, more, same, -⟩ <;> simp [same]
    rw [List.flatMap_cons, List.length_append, List.length_cons]
    omega

/-- The compact text of a string is not the string, because of its quotation marks. -/
theorem Json.text_string_ne (s : String) : (Json.string s).text ≠ s := by
  intro same
  have chars : stringChars s = s.toList := by
    rw [← String.toList_ofList (l := stringChars s)]
    exact congrArg String.toList same
  have length := congrArg List.length chars
  have escaped := length_le_escapeChars s.toList
  simp only [stringChars, List.length_cons, List.length_append] at length
  omega

namespace Reply

variable {reply : Reply} {value : Json}

/-- A value is written as its compact text exactly when it is no string or the body is taken for
JSON. -/
theorem bodyText_eq_text_iff : reply.bodyText value = value.text ↔
    (∀ s, value ≠ .string s) ∨ reply.isJson = true := by
  cases value with
  | string s =>
    rw [bodyText_string]
    cases reply.isJson with
    | true => simp
    | false => simp [(Json.text_string_ne s).symm]
  | _ => exact iff_of_true rfl (.inl nofun)

/-- Take a reply with a value. If its media type is not set or cannot be read, its body is the
compact text of the value. Under any other media type the body is the compact text exactly when the
value is no string or the media type holds `json` in small letters, and a string is written as it is
exactly when it does not. So what a media type that names JSON does to a string depends on the case
of its letters. -/
theorem body_response_iff {reply : Reply} {value : Json} (filled : reply.body = some value) :
    (reply.contentType? = none → reply.response.body = value.text) ∧
    ∀ mediaType, reply.contentType? = some mediaType →
      (reply.response.body = value.text ↔
        (∀ s, value ≠ .string s) ∨ "json".toList <:+: mediaType.toList) ∧
      (∀ s, value = .string s →
        (reply.response.body = s ↔ ¬ "json".toList <:+: mediaType.toList)) ∧
      ("json".toList <:+: mediaType.toList → NamesJson mediaType) := by
  rw [body_response filled]
  refine ⟨fun untyped => ?_, fun mediaType typed => ⟨?_, ?_, namesJson_of_holds⟩⟩
  · have json : reply.isJson = true := by
      rw [isJson, untyped]
      rfl
    rw [bodyText_eq_text_iff, json]
    exact .inr rfl
  · rw [bodyText_eq_text_iff, isJson_iff typed]
  · rintro s rfl
    rw [bodyText_string, ← isJson_iff typed]
    cases reply.isJson with
    | true => simp [Json.text_string_ne]
    | false => simp

/-- Under `application/vnd.api+json` a string is written with its quotation marks, and under
`application/JSON`, which names JSON too, without them. -/
theorem body_response_iff_capitals :
    ∃ small capital : Reply, small.body = some (.string "hello") ∧
      capital.body = some (.string "hello") ∧
      small.contentType? = some "application/vnd.api+json" ∧
      capital.contentType? = some "application/JSON" ∧ NamesJson "application/JSON" ∧
      small.response.body = "\"hello\"" ∧ capital.response.body = "hello" := by
  let typed : String → Reply := (Reply.json .ok (.string "hello")).withHeader "content-type"
  have small : (typed "application/vnd.api+json").contentType? =
      some "application/vnd.api+json" := by decide +kernel
  have capital : (typed "application/JSON").contentType? = some "application/JSON" := by
    decide +kernel
  have filled (mediaType : String) : (typed mediaType).body = some (.string "hello") := rfl
  obtain ⟨-, quoted⟩ := body_response_iff (filled "application/vnd.api+json")
  obtain ⟨-, bare⟩ := body_response_iff (filled "application/JSON")
  refine ⟨_, _, rfl, rfl, small, capital, by decide +kernel, ?_, ?_⟩
  · exact (quoted _ small).1.2 (.inr (by decide +kernel))
  · exact ((bare _ capital).2.1 _ rfl).2 (by decide +kernel)

/-- Not every body under a media type that names JSON is the compact text of its value: a string
under `application/JSON` loses its quotation marks. -/
theorem not_forall_body_response :
    ¬ ∀ (reply : Reply) (value : Json) (mediaType : String), reply.body = some value →
      reply.contentType? = some mediaType → NamesJson mediaType →
      reply.response.body = value.text := by
  intro always
  let reply : Reply := (Reply.json .ok (.string "hello")).withHeader "content-type"
    "application/JSON"
  have bare : reply.response.body = "hello" := by decide +kernel
  have quoted := always reply (.string "hello") "application/JSON" rfl (by decide +kernel)
    (by decide +kernel)
  rw [bare] at quoted
  exact Json.text_string_ne "hello" quoted.symm

end Reply

end HttpGateway
