import HttpGateway.Proofs.Gateway.Failing
import HttpGateway.Proofs.Gateway.MediaType

/-!
# Values on their way back

A backend gives a value as JSON or, if it is a string, as the bare text, and a gateway takes the
body of a success for the one or the other by what it holds (`Attempt.StandsFor`). A route for JSON
writes the value as its compact text again, and a route with another media type a string as it is.
Both guesses together are exact: a string comes through such a route unchanged in either form
(`Gateway.respond_verbatim`).
-/

namespace HttpGateway

/-- The compact text of a string is read as the string. -/
theorem Json.read?_text_string (s : String) :
    Json.read? (Text.Utf8.encode (Json.string s).text) = some (.string s) := by
  have whole : Json.readValue Json.depthLimit _ = _ := Json.readValue_string s 127 []
  have octets : Text.Utf8.encode (Json.string s).text =
      Text.Utf8.encodeChars (Json.string s).chars := by
    rw [Text.Utf8.encode, Json.text, String.toList_ofList]
  rw [List.append_nil] at whole
  unfold Json.read? Json.read
  rw [octets, whole]
  rfl

/-! ## What a body stands for -/

namespace Attempt

variable {body : List UInt8} {value : Json} {s : String}

/-- The body of a success stands for a value: that of its JSON text, null if there is nothing, and
else its text. -/
inductive StandsFor (body : List UInt8) : Json → Prop
  /-- It is a JSON text. -/
  | parsed {value : Json} (reads : Json.read? body = some value) : StandsFor body value
  /-- There is nothing. -/
  | nothing (empty : body = []) : StandsFor body .null
  /-- It is some other text. -/
  | bare (unread : Json.read? body = none) (filled : body ≠ []) :
      StandsFor body (.string (Text.Utf8.decodeLossy body))

/-- A body stands for its value and for nothing else. -/
theorem standsFor_iff : StandsFor body value ↔ value = Attempt.value body := by
  unfold Attempt.value
  constructor
  · rintro (reads | rfl | ⟨unread, filled⟩)
    · rw [reads]
    · rfl
    · rw [unread]
      simp [filled]
  · rintro rfl
    cases read : Json.read? body with
    | some value => exact .parsed read
    | none =>
      cases body with
      | nil => exact .nothing rfl
      | cons b rest => exact .bare read (List.cons_ne_nil b rest)

/-- A string stands in a body: as its compact text, or as it is if it is not empty and no JSON
text. -/
inductive Holds (body : List UInt8) (s : String) : Prop
  /-- The body is the compact text of the string. -/
  | quoted (octets : body = Text.Utf8.encode (Json.string s).text)
  /-- The body is the string. -/
  | bare (octets : body = Text.Utf8.encode s) (filled : s ≠ "") (unread : Json.read? body = none)

/-- A body that holds a string stands for it. -/
theorem Holds.standsFor (holds : Holds body s) : StandsFor body (.string s) := by
  cases holds with
  | quoted octets =>
    rw [octets]
    exact .parsed (Json.read?_text_string s)
  | bare octets filled unread =>
    have decoded : Text.Utf8.decodeLossy body = s := by rw [octets, Text.Utf8.decodeLossy_encode]
    have some : body ≠ [] := by
      rintro rfl
      exact filled decoded.symm
    rw [← decoded]
    exact .bare unread some

end Attempt

/-! ## The answer to a success -/

namespace RouteConfig

variable {configured : RouteConfig} {route : Route Command} {value : Json}

/-- The media type that a configured route sets: the one that it declares as a header field, if that
is legal, and else the one that it has itself, if that is legal. -/
def media? (configured : RouteConfig) : Option FieldValue :=
  ((configured.declared? .contentType).bind FieldValue.read?).or
    (configured.contentType.bind FieldValue.read?)

/-- The answer to a success has the media type that its route sets. -/
theorem get?_contentType_success (made : configured.registration.route? = .ok route) :
    (route.success value).headers.get? .contentType = configured.media? :=
  get?_success made value .contentType

/-- The body of the answer to a success. -/
theorem body_response_success (made : configured.registration.route? = .ok route) :
    (route.success value).response.body =
      if configured.response = .noContent then "" else (route.success value).bodyText value := by
  obtain ⟨-, shape, -, -⟩ := parts_of_registration made
  have body : (route.success value).body = _ := Route.body_success
  rw [shape] at body
  split
  · next bare =>
    rw [if_pos bare] at body
    unfold Reply.response
    rw [body]
  · next filled =>
    rw [if_neg filled] at body
    exact Reply.body_response body

end RouteConfig

namespace Gateway

variable {config : Config} {gateway : Gateway Command} {courier : Courier} {visit : Visit}
  {found : Match Command} {context : Context} {command : Command} {status : Status}
  {body : List UInt8}

/-- Take a gateway with the table of a configuration, and a visit whose command is sent and ends
with a success of the backend. Without a body in the shape of its route the response has none.
With one, the response has the media type that the route sets; if that is readable and does not name
JSON, the body of the response is exactly the string that the backend's body holds, in whichever of
its two forms. Without a media type the response is the compact text of what the backend's body
stands for, as JSON. -/
theorem respond_verbatim (built : config.table = .ok gateway.table)
    (routed : gateway.Routed visit.request found context)
    (allowed : Access.authorize gateway.registry context found.route.requirement = .ok ())
    (made : found.route.build context = .ok command)
    (last : courier.EndsWith visit.script (.answered status body))
    (succeeded : 200 ≤ status.code ∧ status.code < 300) :
    ∃ configured, config.routes[found.index]? = some configured ∧
      (configured.response = .noContent → (gateway.respond courier visit).body = "") ∧
      (configured.response ≠ .noContent →
        (∀ media, configured.media? = some media →
          (gateway.respond courier visit).headers.get? .contentType = some media ∧
          ∀ mediaType, media.text? = some mediaType → ¬ NamesJson mediaType →
            ∀ s, Attempt.Holds body s → (gateway.respond courier visit).body = s) ∧
        (configured.media? = none →
          (gateway.respond courier visit).headers.get? .contentType = some Reply.jsonType ∧
          ∃ value, Attempt.StandsFor body value ∧
            (gateway.respond courier visit).body = value.text)) := by
  obtain ⟨configured, there, registered⟩ := Config.exists_configured built routed.matched
  let value := Attempt.value body
  let reply := found.route.success value
  have response : gateway.respond courier visit = reply.response := by
    rw [routed.respond allowed made last, Attempt.result_of_success succeeded]
    rfl
  have written : reply.response.body =
      if configured.response = .noContent then "" else reply.bodyText value :=
    RouteConfig.body_response_success registered
  have typed : reply.headers.get? .contentType = configured.media? :=
    RouteConfig.get?_contentType_success registered
  rw [response]
  refine ⟨configured, there, fun bare => ?_,
    fun filled => ⟨fun media set => ⟨?_, ?_⟩, fun unset => ⟨?_, ?_⟩⟩⟩
  · rw [written, if_pos bare]
  · rw [Reply.get?_response, typed, set, Option.some_or]
  · intro mediaType readable other s holds
    have named : reply.contentType? = some mediaType := by
      rw [Reply.contentType?, typed, set, Option.bind_some, readable]
    -- The reply looks for the name in small letters alone, which is all that is needed here.
    have plain : reply.isJson = false := by
      rw [Bool.eq_false_iff]
      exact fun json => other (Reply.namesJson_of_holds ((Reply.isJson_iff named).1 json))
    have stands : value = .string s := (Attempt.standsFor_iff.1 holds.standsFor).symm
    rw [written, if_neg filled, stands, Reply.bodyText_string, plain]
    rfl
  · have carried : reply.body = some value := by
      obtain ⟨-, shape, -, -⟩ := RouteConfig.parts_of_registration registered
      rw [Route.body_success, shape, if_neg filled]
    rw [Reply.get?_response, typed, unset, carried]
    simp
  · have json : reply.isJson = true := by
      rw [Reply.isJson, Reply.contentType?, typed, unset]
      rfl
    refine ⟨value, Attempt.standsFor_iff.2 rfl, ?_⟩
    rw [written, if_neg filled]
    exact Reply.bodyText_eq_text_iff.2 (.inr json)

/-- A route for a table in text answers with the table, whether the backend gives it as JSON or
bare. -/
theorem respond_verbatim_table :
    ∃ (config : Config) (gateway : Gateway Command) (courier : Courier) (quoted bare : Visit)
      (media : FieldValue), config.table = .ok gateway.table ∧
      (config.routes.map RouteConfig.media?) = [some media] ∧ media.text? = some "text/csv" ∧
      gateway.Ends courier quoted (.answered .ok (Text.Utf8.encode "\"name\\n\\\"José\\\"\"")) ∧
      gateway.Ends courier bare (.answered .ok (Text.Utf8.encode "name\n\"José\"")) ∧
      (gateway.respond courier quoted).body = "name\n\"José\"" ∧
      (gateway.respond courier bare).body = "name\n\"José\"" := by
  let configured : RouteConfig :=
    ⟨"POST", "/items", "items.create", .ok, true, [], [], ∅, some "text/csv", ∅⟩
  let config : Config := { routes := [configured] }
  let media : FieldValue := ⟨Text.Utf8.encode "text/csv", by decide +kernel⟩
  let table : String := "name\n\"José\""
  have forAll : configured.allowAnonymous = true := rfl
  obtain ⟨gateway, request, found, context, command, built, routed, first, allowed, made⟩ :=
    exists_dispatched rfl rfl forAll
  let courier : Courier := ⟨⟨some (Uri.ascii "http"), Uri.ascii "backend", [], none⟩,
    ⟨true, 3, 100, 1000⟩⟩
  let visit : List UInt8 → Visit := fun body =>
    ⟨request, ⟨2026, 1, 1, 0, 0, 0, 0⟩, fun _ => 0, fun _ => .answered .ok body⟩
  have acted (body : List UInt8) : ¬ (Attempt.answered .ok body).Spared := by
    simp [Attempt.Spared, Status.ok]
  have last (body : List UInt8) : courier.EndsWith (visit body).script (.answered .ok body) :=
    courier.endsWith_first (acted body)
  have set : configured.media? = some media := by decide +kernel
  have readable : media.text? = some "text/csv" := by decide +kernel
  have plain (body : List UInt8) (holds : Attempt.Holds body table) :
      (gateway.respond courier (visit body)).body = table := by
    have here : gateway.Routed (visit body).request found context := routed
    obtain ⟨other, there, -, filled⟩ :=
      respond_verbatim built here allowed made (last body) (by decide)
    have same : config.routes[found.index]? = some configured := by rw [first]; rfl
    obtain rfl : configured = other := Option.some.inj (same.symm.trans there)
    obtain ⟨verbatim, -⟩ := filled (by decide)
    obtain ⟨-, exactly⟩ := verbatim media set
    exact exactly "text/csv" readable (by decide +kernel) table holds
  have ends (body : List UInt8) : gateway.Ends courier (visit body) (.answered .ok body) :=
    ⟨found, context, command, routed, allowed, made, last body⟩
  refine ⟨config, gateway, courier, visit _, visit _, media, built, by rw [← set]; rfl, readable,
    ends _, ends _, plain _ (.quoted (by decide +kernel)), plain _ (.bare rfl (by decide) ?_)⟩
  rfl

end Gateway

end HttpGateway
