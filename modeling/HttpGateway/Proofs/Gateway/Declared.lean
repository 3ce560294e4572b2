import HttpGateway.Proofs.Config.Findings
import HttpGateway.Proofs.Config.Routes
import HttpGateway.Proofs.Gateway.Mediation
import HttpGateway.Proofs.Message.Headers
import HttpGateway.Proofs.Text.Recasing

/-!
# Declared header fields

A configured route declares header fields and a media type for the answer to a success. The fields
are set under their names in lower case, the last of those with one name counts, and a check refuses
every field that is not legal; so the answer carries each of them (`Gateway.sends_declared`). No
check looks at the media type. One that is no legal field value is left out, and the answer has the
media type of JSON or none (`Gateway.not_forall_sends_media`).
-/

namespace HttpGateway

/-! ## What a route declares -/

/-- The value that a configured route declares for a header field: that of the last of its entries,
in the order of their keys, whose key is the name of the field in any letter case. -/
def RouteConfig.declared? (configured : RouteConfig) (name : FieldName) : Option String :=
  (configured.headers.entries.filter fun field => asciiLowercase field.1 == name.text).getLast?.map
    Prod.snd

/-- Header fields of an answer hold what a configured route declares for a success. -/
structure RouteConfig.Declares (configured : RouteConfig) (headers : Headers) : Prop where
  /-- The declared fields are there with their values. -/
  fields : ∀ name text, configured.declared? name = some text →
    ∃ value, FieldValue.read? text = some value ∧ headers.get? name = some value
  /-- The configured media type is there if it is a legal value, unless the media type is declared
  as a field. -/
  media : ∀ text value, configured.contentType = some text → FieldValue.read? text = some value →
    configured.declared? .contentType = none → headers.get? .contentType = some value
  /-- Without a legal media type the answer has that of JSON if it has a body, and else none. -/
  plain : configured.contentType.bind FieldValue.read? = none →
    configured.declared? .contentType = none → headers.get? .contentType =
      if configured.response = .noContent then none else some Reply.jsonType

namespace RouteConfig.Declares

variable {configured : RouteConfig} {response : Response}

/-- A default for a field other than the media type keeps what is declared. -/
theorem withDefault {name : FieldName} {value : FieldValue} (other : name ≠ .contentType)
    (declares : configured.Declares response.headers) :
    configured.Declares (response.withDefault name value).headers := by
  have kept : ∀ asked, asked = .contentType ∨ response.headers.get? asked ≠ none →
      (response.withDefault name value).headers.get? asked = response.headers.get? asked := by
    intro asked there
    unfold Response.withDefault
    split
    · rfl
    · next absent =>
      have differ : asked ≠ name := by
        rintro rfl
        rcases there with same | there
        · exact other same
        · exact absent (Option.isSome_iff_ne_none.2 there)
      rw [Headers.get?_insert, if_neg differ]
  obtain ⟨fields, media, plain⟩ := declares
  constructor
  case fields =>
    intro asked text declared
    obtain ⟨value, legal, there⟩ := fields asked text declared
    exact ⟨value, legal, by rw [kept asked (.inr (by simp [there])), there]⟩
  case media =>
    intro text value given legal undeclared
    rw [kept _ (.inl rfl)]
    exact media text value given legal undeclared
  case plain =>
    intro none undeclared
    rw [kept _ (.inl rfl)]
    exact plain none undeclared

/-- An answer as it is sent keeps what is declared. -/
theorem finish (method : String) (declares : configured.Declares response.headers) :
    configured.Declares (response.finish method).headers := by
  have measured : configured.Declares (response.withDefault .contentLength
      (Response.lengthValue response.body)).headers := declares.withDefault (by decide +kernel)
  unfold Response.finish
  dsimp only
  split
  · exact declares
  split
  · exact measured
  · exact measured

end RouteConfig.Declares

/-! ## Answers to a success -/

namespace Route

variable {κ : Type} {route : Route κ} {value : Json}

/-- Setting header fields of a reply changes its header fields alone. -/
theorem foldl_withHeader (fields : List (String × String)) (reply : Reply) :
    fields.foldl (fun reply field => reply.withHeader field.1 field.2) reply =
      { reply with
        headers := fields.foldl (fun headers field => headers.insertText field.1 field.2)
          reply.headers } := by
  induction fields generalizing reply with
  | nil => rfl
  | cons field rest ih => exact ih (reply.withHeader field.1 field.2)

/-- The answer to a success has a body unless its shape has none. -/
theorem body_success :
    (route.success value).body = if route.shape = .noContent then none else some value := by
  unfold success
  dsimp only
  rw [foldl_withHeader]
  cases route.contentType <;> cases route.shape <;> rfl

/-- The header fields of the answer to a success are set after its media type. -/
theorem headers_success : (route.success value).headers =
    route.headers.foldl (fun headers field => headers.insertText field.1 field.2)
      ((route.contentType.map ((∅ : Headers).insertText "content-type")).getD ∅) := by
  unfold success
  dsimp only
  rw [foldl_withHeader]
  cases route.contentType <;> cases route.shape <;> rfl

/-- The value that a route declares for a header field: that of the last of its legal fields with
the name. -/
def field? (route : Route κ) (name : FieldName) : Option FieldValue :=
  (route.headers.filterMap (Headers.textValue? name)).getLast?

/-- The answer to a success has one value at most for each header field: the declared one, and else,
under the name of the media type, that of the route if it is legal. -/
theorem values_success (name : FieldName) : (route.success value).headers.values name =
    ((route.field? name).or
      (if name = .contentType then route.contentType.bind FieldValue.read? else none)).toList := by
  have typed : ((route.contentType.map ((∅ : Headers).insertText "content-type")).getD
      ∅).values name =
        (if name = .contentType then route.contentType.bind FieldValue.read? else none).toList := by
    cases route.contentType with
    | none => exact (congrArg Option.toList (ite_self none)).symm
    | some text =>
      have named : FieldName.read? "content-type" = some .contentType :=
        FieldName.contentType.read?_text
      have bare : (∅ : Headers).values name = [] := rfl
      change ((∅ : Headers).insertText "content-type" text).values name = _
      rw [Headers.values_insertText ("content-type", text), Headers.textValue?, named, bare]
      by_cases same : name = .contentType
      · subst same
        cases read : FieldValue.read? text <;> simp [read]
      · simp [same, Ne.symm same]
  rw [headers_success, Headers.values_foldl_insertText, typed, field?]
  cases (route.headers.filterMap (Headers.textValue? name)).getLast? <;> rfl

end Route

/-- Writing a reply gives it the media type of JSON if it has a body and no media type, and keeps
its other header fields. -/
theorem Reply.get?_response (reply : Reply) (name : FieldName) :
    reply.response.headers.get? name = (reply.headers.get? name).or
      (if name = .contentType ∧ reply.body ≠ none then some jsonType else none) := by
  unfold response
  cases reply.body with
  | none => simp
  | some value =>
    by_cases typed : reply.headers.contains .contentType = true
    · obtain ⟨media, there⟩ := Option.isSome_iff_exists.1 typed
      by_cases same : name = .contentType
      · subst same
        simp [typed, there]
      · simp [typed, same]
    · have absent : reply.headers.get? .contentType = none :=
        Option.not_isSome_iff_eq_none.1 typed
      by_cases same : name = .contentType
      · subst same
        simp [typed, absent, Headers.get?_insert]
      · simp [typed, same, Headers.get?_insert]

namespace RouteConfig

variable {configured : RouteConfig} {route : Route Command}

/-- The route of a configured one declares the declared values that are legal. -/
theorem field?_of_registration (made : configured.registration.route? = .ok route)
    (name : FieldName) :
    route.field? name = (configured.declared? name).bind FieldValue.read? := by
  obtain ⟨-, -, -, fields⟩ := parts_of_registration made
  have distinct : (route.headers.map Prod.fst).Nodup := by
    rw [fields]
    exact Route.nodup_setFields .nil
  have stored : ∀ field ∈ route.headers, asciiLowercase field.1 = field.1 := by
    intro field mem
    rw [fields] at mem
    rcases Route.mem_setFields mem with there | ⟨given, -, rfl⟩
    · cases there
    · exact Text.recased_asciiLowercase given.1
  have declared : (route.headers.lookup name.text).bind FieldValue.read? =
      (configured.declared? name).bind FieldValue.read? := by
    rw [fields, Route.lookup_setFields]
    exact congrArg (Option.bind · _) Option.or_none
  rw [Route.field?, Headers.filterMap_textValue? distinct stored, declared]
  cases (configured.declared? name).bind FieldValue.read? <;> rfl

/-- Under a name the answer to a success has the declared value if it is legal, and else, under that
of the media type, the configured one if it is legal. -/
theorem get?_success (made : configured.registration.route? = .ok route) (value : Json)
    (name : FieldName) : (route.success value).headers.get? name =
      ((configured.declared? name).bind FieldValue.read?).or
        (if name = .contentType then configured.contentType.bind FieldValue.read? else none) := by
  obtain ⟨-, -, type, -⟩ := parts_of_registration made
  rw [Headers.get?_eq_head?_values, Route.values_success, Option.head?_toList,
    field?_of_registration made, type]

/-- The answer to a success, as it is written, holds what is declared. -/
theorem declares_success (made : configured.registration.route? = .ok route)
    (legal : ∀ field ∈ configured.headers.entries,
      (∃ name, FieldName.read? field.1 = some name) ∧
        ∃ value, FieldValue.read? field.2 = some value) (value : Json) :
    configured.Declares (route.success value).response.headers := by
  obtain ⟨-, shape, -, -⟩ := parts_of_registration made
  have set := get?_success made value
  have body : (route.success value).body =
      if configured.response = .noContent then none else some value := by
    rw [Route.body_success, shape]
  constructor
  case fields =>
    intro name text declared
    have mem : ∃ field ∈ configured.headers.entries, field.2 = text := by
      obtain ⟨field, last, same⟩ := Option.map_eq_some_iff.1 declared
      exact ⟨field, (List.mem_filter.1 (List.mem_of_getLast? last)).1, same⟩
    obtain ⟨field, mem, rfl⟩ := mem
    obtain ⟨-, value, valued⟩ := legal field mem
    refine ⟨value, valued, ?_⟩
    rw [Reply.get?_response, body, set, declared]
    simp [valued]
  case media =>
    intro text value given valued undeclared
    rw [Reply.get?_response, body, set, undeclared, given]
    simp [valued]
  case plain =>
    intro illegal undeclared
    rw [Reply.get?_response, body, set, undeclared, illegal]
    by_cases bare : configured.response = .noContent <;> simp [bare]

end RouteConfig

/-! ## Answers of a gateway -/

namespace Gateway

variable {config : Config} {gateway : Gateway Command} {request : Request}
  {found : Match Command} {context : Context} {command : Command}

/-- Take a gateway with the table of a configuration without findings, and a request for which a
command is sent. The answer is made of what the sender delivers, whatever the sender does. For every
success it holds what is declared for the configured route at the place of the one that was found,
and so does the answer as the server sends it. -/
theorem sends_declared (clean : config.findings = []) (built : config.table = .ok gateway.table)
    (routed : gateway.Routed request found context)
    (allowed : Access.authorize gateway.registry context found.route.requirement = .ok ())
    (made : found.route.build context = .ok command) :
    ∃ configured, config.routes[found.index]? = some configured ∧
      ∃ answer : Except Failure Json → Response,
        (∀ {m : Type → Type} [Monad m] [LawfulMonad m] (send : Command → m Delivery)
          (now : Timestamp), (fun outcome => outcome.reply.response) <$>
            gateway.handle send now request =
              (fun delivery => answer delivery.result) <$> send command) ∧
        ∀ value, configured.Declares (answer (.ok value)).headers ∧
          ∀ method identifier, configured.Declares
            (((answer (.ok value)).finish method).withDefault .requestId identifier).headers := by
  obtain ⟨configured, there, registered⟩ := Config.exists_configured built routed.matched
  have legal := (Config.findings_eq_nil_iff.1 clean).headers configured
    (List.mem_of_getElem? there)
  have verdict := routed.verdict_send allowed made
  refine ⟨configured, there, fun result => (gateway.resultReply found.route result).response,
    ?_, fun value => ?_⟩
  · intro m _ _ send now
    simp [handle, verdict, outcome]
  · have declares : configured.Declares
        (gateway.resultReply found.route (.ok value)).response.headers :=
      RouteConfig.declares_success registered legal value
    exact ⟨declares, fun method identifier =>
      (declares.finish method).withDefault (by decide +kernel)⟩

/-- A request for a configured route for all is dispatched. -/
theorem exists_dispatched {configured : RouteConfig} (method : configured.method = "POST")
    (path : configured.path = "/items") (forAll : configured.allowAnonymous = true) :
    ∃ (gateway : Gateway Command) (request : Request) (found : Match Command) (context : Context)
      (command : Command), Config.table { routes := [configured] } = .ok gateway.table ∧
      gateway.Routed request found context ∧ found.index = 0 ∧
      Access.authorize gateway.registry context found.route.requirement = .ok () ∧
      found.route.build context = .ok command := by
  obtain ⟨gateway, found, built, first, -, made, routed⟩ := exists_routed method path
  obtain ⟨build, -⟩ := RouteConfig.parts_of_registration made
  obtain ⟨context, routed⟩ := routed ∅ [] .anonymous
  refine ⟨gateway, _, found, context, ⟨configured.command, context.parameters, context.query, .null,
    context.claims⟩, built, routed, first,
    RouteConfig.authorize_of_allowAnonymous made forAll _ _, ?_⟩
  rw [build, Command.ofContext, Command.bodyOf, routed.body]
  rfl

/-- A route that declares a field in two letter cases and a media type is answered with the last
value of the field and the media type. -/
theorem sends_declared_cached :
    ∃ (config : Config) (gateway : Gateway Command) (request : Request) (command : Command)
      (media hit : FieldValue), config.findings = [] ∧ config.table = .ok gateway.table ∧
      FieldValue.read? "text/csv" = some media ∧ FieldValue.read? "hit" = some hit ∧
      ∃ answer : Except Failure Json → Response,
        (∀ {m : Type → Type} [Monad m] [LawfulMonad m] (send : Command → m Delivery)
          (now : Timestamp), (fun outcome => outcome.reply.response) <$>
            gateway.handle send now request =
              (fun delivery => answer delivery.result) <$> send command) ∧
        ∀ value, (answer (.ok value)).headers.get? .contentType = some media ∧
          ∀ name : FieldName, name.text = "x-cache" →
            (answer (.ok value)).headers.get? name = some hit := by
  let configured : RouteConfig := ⟨"POST", "/items", "items.create", .ok, true, [], [], ∅,
    some "text/csv", .ofList [("X-Cache", "miss"), ("x-cache", "hit")]⟩
  let config : Config := { routes := [configured] }
  have clean : config.findings = [] := by decide +kernel
  let media : FieldValue := ⟨Text.Utf8.encode "text/csv", by decide +kernel⟩
  let hit : FieldValue := ⟨Text.Utf8.encode "hit", by decide +kernel⟩
  have forAll : configured.allowAnonymous = true := rfl
  obtain ⟨gateway, request, found, context, command, built, routed, first, allowed, made⟩ :=
    exists_dispatched rfl rfl forAll
  obtain ⟨other, there, answer, runs, declares⟩ := sends_declared clean built routed allowed made
  have same : config.routes[found.index]? = some configured := by rw [first]; rfl
  obtain rfl : configured = other := Option.some.inj (same.symm.trans there)
  refine ⟨config, gateway, request, command, media, hit, clean, built, by decide +kernel,
    by decide +kernel, answer, @runs, fun value => ?_⟩
  obtain ⟨⟨fields, type, -⟩, -⟩ := declares value
  refine ⟨type "text/csv" media rfl (by decide +kernel) (by decide +kernel), ?_⟩
  intro name stored
  have declared : configured.declared? name = some "hit" := by
    unfold RouteConfig.declared?
    rw [stored]
    decide +kernel
  obtain ⟨value, legal, carried⟩ := fields name "hit" declared
  have known : FieldValue.read? "hit" = some hit := by decide +kernel
  rw [carried, ← legal, known]

/-- Not every configuration without findings has the configured media type in the answers to
successes: no check refuses one with a line feed, and the answer is then sent with that of JSON. -/
theorem not_forall_sends_media :
    ¬ ∀ (config : Config) (gateway : Gateway Command) (request : Request) (found : Match Command)
        (context : Context) (command : Command) (configured : RouteConfig) (text : String),
      config.findings = [] → config.table = .ok gateway.table →
      gateway.Routed request found context →
      Access.authorize gateway.registry context found.route.requirement = .ok () →
      found.route.build context = .ok command →
      config.routes[found.index]? = some configured → configured.contentType = some text →
      configured.declared? .contentType = none →
      ∀ value, ∃ media, FieldValue.read? text = some media ∧
        (gateway.resultReply found.route (.ok value)).response.headers.get? .contentType =
          some media := by
  intro always
  let configured : RouteConfig :=
    ⟨"POST", "/items", "items.create", .ok, true, [], [], ∅, some "text/csv\n", ∅⟩
  have forAll : configured.allowAnonymous = true := rfl
  obtain ⟨gateway, request, found, context, command, built, routed, first, allowed, made⟩ :=
    exists_dispatched rfl rfl forAll
  have there : [configured][found.index]? = some configured := by rw [first]; rfl
  obtain ⟨media, legal, -⟩ := always { routes := [configured] } gateway request found context
    command configured "text/csv\n" (by decide +kernel) built routed allowed made there rfl rfl
    .null
  have illegal : FieldValue.read? "text/csv\n" = none := by decide +kernel
  rw [illegal] at legal
  cases legal

end Gateway

end HttpGateway
