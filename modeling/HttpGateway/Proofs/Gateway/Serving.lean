import HttpGateway.Config.Wiring
import HttpGateway.Proofs.Gateway.Declared
import HttpGateway.Proofs.Message.Uri

/-!
# Requests at a server

A server answers every request, also one whose body is too long or breaks off and one whose body or
command does not end in time, and every answer carries the identifier of its request as the one
value of the identifier field; only a success may have a value of its own there. What the gateway
replies is sent as it is, save for the length of the body, and the gateway is given the request as
it came (`Server.serve_answers`).
-/

namespace HttpGateway

/-! ## Header fields that are added -/

namespace Response

variable {response : Response} {name other : FieldName} {value : FieldValue}

@[simp] theorem status_withDefault :
    (response.withDefault name value).status = response.status := by
  unfold withDefault
  split <;> rfl

@[simp] theorem body_withDefault : (response.withDefault name value).body = response.body := by
  unfold withDefault
  split <;> rfl

/-- A default is the one value of its field if there is none, and changes nothing else. -/
theorem values_withDefault : (response.withDefault name value).headers.values other =
    if other = name ∧ response.headers.values name = [] then [value]
    else response.headers.values other := by
  have there : response.headers.contains name = true ↔ response.headers.values name ≠ [] := by
    rw [Headers.contains, Headers.get?_eq_head?_values, List.isSome_head?]
  unfold withDefault
  split
  · next some => rw [if_neg fun none => there.1 some none.2]
  · next none =>
    have bare : response.headers.values name = [] := not_not.1 (mt there.2 none)
    rw [Headers.values_insert]
    simp [bare]

/-- Finishing a response changes no field but the length. -/
theorem values_finish (method : String) (differ : name ≠ .contentLength) :
    (response.finish method).headers.values name = response.headers.values name := by
  have measured : (response.withDefault .contentLength
      (lengthValue response.body)).headers.values name = response.headers.values name := by
    rw [values_withDefault, if_neg fun same => differ same.1]
  unfold finish
  dsimp only
  split
  · rfl
  split
  · exact measured
  · exact measured

/-- What is sent in answer to a method relays a response: it has the same status and, save for the
length and the identifier, the same header fields, and it has the same body unless the method asks
for none. -/
structure Relays (method : String) (given sent : Response) : Prop where
  /-- The status is the same. -/
  status : sent.status = given.status
  /-- The body is the same or left out. -/
  body : sent.body = given.body ∨ sent.body = "" ∧ (method = "HEAD" ∨ method = "CONNECT")
  /-- The other fields are the same. -/
  fields : ∀ name, name ≠ .contentLength → name ≠ .requestId →
    sent.headers.values name = given.headers.values name

/-- A finished response relays it. -/
theorem relays_finish (method : String) : response.Relays method (response.finish method) := by
  constructor
  case status =>
    unfold finish
    dsimp only
    split
    · rfl
    split
    · exact status_withDefault
    · exact status_withDefault
  case body =>
    unfold finish
    dsimp only
    split
    · next connect => exact .inr ⟨rfl, .inr (by simp_all)⟩
    split
    · next head => exact .inr ⟨rfl, .inl head⟩
    · exact .inl body_withDefault
  case fields => exact fun name differ _ => values_finish method differ

/-- A response is traced to an identifier: it is the one value of the identifier field. -/
def Traced (response : Response) (identifier : FieldValue) : Prop :=
  response.headers.values .requestId = [identifier]

end Response

/-- Writing a reply changes no header field but the media type. -/
theorem Reply.values_response (reply : Reply) {name : FieldName} (other : name ≠ .contentType) :
    reply.response.headers.values name = reply.headers.values name := by
  unfold response
  cases reply.body with
  | none => rfl
  | some value =>
    dsimp only
    split
    · rfl
    · rw [Headers.values_insert, if_neg other]

/-! ## What is sent -/

namespace Server

variable {κ : Type} {server : Server κ} {incoming : Incoming} {fresh : FieldValue}
  {response : Response}

/-- A response as it is sent for a request. -/
def sent (incoming : Incoming) (fresh : FieldValue) (response : Response) : Response :=
  (response.finish incoming.method).withDefault .requestId (requestId incoming fresh)

/-- What is sent for a request relays the response. -/
theorem relays_sent : response.Relays incoming.method (sent incoming fresh response) := by
  obtain ⟨status, body, fields⟩ := response.relays_finish incoming.method
  constructor
  case status => rw [sent, Response.status_withDefault, status]
  case body => rw [sent, Response.body_withDefault]; exact body
  case fields =>
    intro name length identifier
    rw [sent, Response.values_withDefault, if_neg fun same => identifier same.1]
    exact fields name length identifier

/-- What is sent for a request has the identifier of the response if that has one, and else that of
the request. -/
theorem values_requestId_sent : (sent incoming fresh response).headers.values .requestId =
    if response.headers.values .requestId = [] then [requestId incoming fresh]
    else response.headers.values .requestId := by
  have kept : (response.finish incoming.method).headers.values .requestId =
      response.headers.values .requestId :=
    Response.values_finish incoming.method (by decide +kernel)
  rw [sent, Response.values_withDefault, kept]
  simp

/-- What is sent for a request is traced to it if the response has no identifier, and to the
identifier of the response if it has one. -/
theorem traced_sent (identifier : Option FieldValue)
    (held : response.headers.values .requestId = identifier.toList) :
    (sent incoming fresh response).Traced (identifier.getD (requestId incoming fresh)) := by
  rw [Response.Traced, values_requestId_sent, held]
  cases identifier <;> rfl

/-- What is sent for a request is traced to it if the reply has no header fields. -/
theorem traced_sent_of_bare {reply : Reply} (bare : reply.headers = ∅) :
    (sent incoming fresh reply.response).Traced (requestId incoming fresh) := by
  refine traced_sent none ?_
  rw [reply.values_response (by decide +kernel), bare]
  rfl

end Server

/-! ## Runs of a server -/

namespace Server

variable {κ : Type} {server : Server κ} {incoming : Incoming} {request : Request}
  {fresh : FieldValue} {m : Type → Type} [Monad m] [LawfulMonad m]
  (send : κ → m (Except (List Event) Delivery)) (now : Timestamp)

/-- An identifier does not change what is read of the body. -/
theorem receive_identified (incoming : Incoming) (fresh : FieldValue) (limit : Nat) :
    (identified incoming fresh).receive limit = incoming.receive limit := by
  unfold identified
  split <;> rfl

/-- A request whose body is refused is answered at once. -/
theorem serve_of_refused {reply : Reply}
    (refused : incoming.receive server.bodyLimit = some (.error reply)) :
    server.serve send now fresh incoming = pure (sent incoming fresh reply.response, []) := by
  have read : (identified incoming fresh).decode server.identityHeaders server.bodyLimit =
      some (.error reply) := by
    rw [Incoming.decode, receive_identified, refused]
    rfl
  unfold serve answer
  rw [read]
  simp [sent]

/-- A request whose body does not end in time is answered when the time is up. -/
theorem serve_of_late (late : incoming.receive server.bodyLimit = none) :
    server.serve send now fresh incoming = pure (sent incoming fresh timeout, []) := by
  have read : (identified incoming fresh).decode server.identityHeaders server.bodyLimit = none := by
    rw [Incoming.decode, receive_identified, late]
    rfl
  unfold serve answer
  rw [read]
  simp [sent]

/-- A request that is read is answered by the gateway, or after the time is up. -/
theorem serve_of_decode
    (read : (identified incoming fresh).decode server.identityHeaders server.bodyLimit =
      some (.ok request)) :
    server.serve send now fresh incoming =
      (fun outcome : Except (List Event) Outcome => match outcome with
        | .ok outcome => (sent incoming fresh outcome.reply.response, outcome.events)
        | .error events => (sent incoming fresh timeout, events)) <$>
          (server.gateway.handle (m := ExceptT (List Event) m) send now request).run := by
  unfold serve answer
  rw [read]
  -- A command that does not end in time ends the run of the gateway, whatever is left of it.
  simp only [bind_assoc, map_eq_pure_bind]
  refine bind_congr fun outcome => ?_
  cases outcome <;> simp [sent]

/-- A request whose body arrives is read as one with the same method, path, query and body. It has
an identifier, and its other header fields are the same. -/
structure Forwards (incoming : Incoming) (identifier : FieldValue) (request : Request) : Prop where
  /-- The method is the same. -/
  method : request.method = incoming.method
  /-- The path is that of the target, and nothing in it is decoded. -/
  path : request.path = Text.Utf8.decodeLossy incoming.uri.path
  /-- The path of a target that is text has the same octets. -/
  octets : ∀ target, Uri.ofText target = .ok incoming.uri →
    Text.Utf8.encode request.path = incoming.uri.path
  /-- The query is read from that of the target. -/
  query : request.query = (incoming.uri.query.map Query.read).getD ∅
  /-- The body has the same octets. -/
  body : request.body = incoming.body
  /-- The identifier is set, and the other header fields are the same. -/
  headers : ∀ name, request.headers.get? name =
    if name = .requestId then some identifier else incoming.headers.get? name

/-- A request is handed to the gateway if its body arrives whole and is not too long. -/
theorem exists_forwards (short : incoming.body.length ≤ server.bodyLimit)
    (whole : incoming.ending = .whole) :
    ∃ request, (identified incoming fresh).decode server.identityHeaders server.bodyLimit =
      some (.ok request) ∧ Forwards incoming (requestId incoming fresh) request := by
  have received : (identified incoming fresh).receive server.bodyLimit =
      some (.ok incoming.body) := by
    rw [receive_identified, Incoming.receive_of_short short, whole]
  obtain ⟨method, uri, headers⟩ : (identified incoming fresh).method = incoming.method ∧
      (identified incoming fresh).uri = incoming.uri ∧
      ∀ name, (identified incoming fresh).headers.get? name =
        if name = .requestId then some (requestId incoming fresh)
        else incoming.headers.get? name := by
    unfold identified requestId
    split
    · next there =>
      obtain ⟨identifier, first⟩ := Option.isSome_iff_exists.1 there
      refine ⟨rfl, rfl, fun name => ?_⟩
      split
      · next same => rw [same, first, Option.getD_some]
      · rfl
    · next absent =>
      have none : incoming.headers.get? .requestId = none := Option.not_isSome_iff_eq_none.1 absent
      refine ⟨rfl, rfl, fun name => ?_⟩
      rw [Headers.get?_insert, none, Option.getD_none]
  refine ⟨_, by rw [Incoming.decode, received]; rfl, ?_⟩
  constructor
  case method => exact method
  case path => exact congrArg (fun uri => Text.Utf8.decodeLossy uri.path) uri
  case octets =>
    intro target read
    change Text.Utf8.encode (Text.Utf8.decodeLossy (identified incoming fresh).uri.path) = _
    rw [uri, Uri.encode_decodeLossy_path read]
  case query => exact congrArg (fun uri : Uri => (uri.query.map Query.read).getD ∅) uri
  case body => rfl
  case headers => exact headers

/-- Whatever the sender does, it is given nothing for a request, which is answered by a response, and
some events are counted. -/
def AnswersAtOnce (server : Server κ) (now : Timestamp) (fresh : FieldValue) (incoming : Incoming)
    (response : Response) (events : List Event) : Prop :=
  ∀ {m : Type → Type} [Monad m] [LawfulMonad m] (send : κ → m (Except (List Event) Delivery)),
    server.serve send now fresh incoming = pure (response, events)

/-- A request is turned away under a status: it is answered by a response that is traced to it, and
nothing is sent or counted. -/
def TurnsAway (server : Server κ) (now : Timestamp) (fresh : FieldValue) (incoming : Incoming)
    (code : Nat) : Prop :=
  ∃ response : Response, response.status.code = code ∧
    response.Traced (requestId incoming fresh) ∧
    server.AnswersAtOnce now fresh incoming response []

/-- Whatever the sender does, it is given a command for a request, and the request is answered by
what it delivers, or by what it has counted when the time is up. -/
def AnswersBy (server : Server κ) (now : Timestamp) (fresh : FieldValue) (incoming : Incoming)
    (command : κ) (answer : Except (List Event) Delivery → Response × List Event) : Prop :=
  ∀ {m : Type → Type} [Monad m] [LawfulMonad m] (send : κ → m (Except (List Event) Delivery)),
    server.serve send now fresh incoming = answer <$> send command

/-- A request whose body is refused is turned away with 413. -/
theorem turnsAway_of_refused {cause : String}
    (refused : incoming.receive server.bodyLimit = some (.error (Incoming.unread cause))) :
    server.TurnsAway now fresh incoming 413 :=
  ⟨_, congrArg Status.code relays_sent.status, traced_sent_of_bare rfl,
    fun send => serve_of_refused send now refused⟩

/-- A request whose body does not end in time is turned away with 408. -/
theorem turnsAway_of_late (late : incoming.receive server.bodyLimit = none) :
    server.TurnsAway now fresh incoming 408 :=
  ⟨_, congrArg Status.code relays_sent.status, traced_sent none rfl,
    fun send => serve_of_late send now late⟩

section

variable (read : (identified incoming fresh).decode server.identityHeaders server.bodyLimit =
  some (.ok request))
include read

/-- A request for which nothing is sent is answered by what the gateway replies. -/
theorem exists_answersAtOnce (silent : server.gateway.Sends request []) (now : Timestamp) :
    ∃ outcome : Outcome, outcome.reply.headers = ∅ ∧
      server.AnswersAtOnce now fresh incoming
        (sent incoming fresh outcome.reply.response) outcome.events ∧
      ∀ {m : Type → Type} [Monad m] (send : κ → m Delivery),
        server.gateway.handle send now request = pure outcome := by
  obtain ⟨outcome, bare, handled⟩ := silent.handle_eq_pure now
  refine ⟨outcome, bare, fun send => ?_, handled⟩
  rw [serve_of_decode send now read, handled]
  simp

/-- A request for which a command is sent is answered by what the gateway replies to the delivery,
or after the time is up, when no more is counted than the sender has counted till then. -/
theorem answersBy_of_verdict_send {route : Route κ} {command : κ}
    (verdict : server.gateway.verdict request = .send route command) (now : Timestamp) :
    server.AnswersBy now fresh incoming command fun
      | .ok delivery =>
        (sent incoming fresh (server.gateway.resultReply route delivery.result).response,
          delivery.events ++ [.request (normalizeMethod request.method) route.template.raw
            (server.gateway.resultReply route delivery.result).status])
      | .error events => (sent incoming fresh timeout, events) := by
  intro m _ _ send
  rw [serve_of_decode send now read,
    Gateway.handle_of_verdict_send verdict (m := ExceptT (List Event) m) send now, ExceptT.run_map,
    Functor.map_map]
  refine congrArg (· <$> _) ?_
  funext delivery
  cases delivery <;> rfl

/-- A request is answered by what the gateway replies if every command ends in time. -/
theorem serve_of_prompt (send : κ → m Delivery) (now : Timestamp) :
    server.serve (fun command => .ok <$> send command) now fresh incoming =
      (fun outcome => (sent incoming fresh outcome.reply.response, outcome.events)) <$>
        server.gateway.handle send now request := by
  cases verdict : server.gateway.verdict request with
  | send route command =>
    rw [answersBy_of_verdict_send read verdict now, Gateway.handle_of_verdict_send verdict]
    simp [Functor.map_map, Gateway.outcome]
  | _ =>
    have silent : server.gateway.Sends request [] := Gateway.sends_iff.2 (by rw [verdict]; rfl)
    obtain ⟨outcome, -, answers, handled⟩ := exists_answersAtOnce read silent now
    rw [answers, handled, map_pure]

end

/-- Take the server of a configuration and a gateway, and a request with an identifier, the one that
it brings or else a new one. If the body is longer than configured, the request is turned away with
413, with an answer that is traced to the identifier and nothing sent or counted, whatever the
sender does; so it is with a body that breaks off, and with 408 if the body does not end in time. If
the body arrives, the gateway is given the request with its method, its path and its body as they
are. In time, the answer relays what the gateway replies. Either nothing is sent for the request,
and it is answered by a response that is traced to the identifier; or a command is sent, and it is
answered by what the sender delivers: with a 408 if the time is up before, when all that is counted
is what the sender has counted till then, and always by a response that is traced to the identifier,
save for a success of a route that declares an identifier of its own, which keeps that. -/
theorem serve_answers (config : Config) (gateway : Gateway κ) (now : Timestamp)
    (fresh : FieldValue) (incoming : Incoming) :
    (config.listener.maxBodyBytes < incoming.body.length →
      (config.server gateway).TurnsAway now fresh incoming 413) ∧
    (incoming.body.length ≤ config.listener.maxBodyBytes →
      (∀ cause, incoming.ending = .cut cause →
        (config.server gateway).TurnsAway now fresh incoming 413) ∧
      (incoming.ending = .late → (config.server gateway).TurnsAway now fresh incoming 408) ∧
      (incoming.ending = .whole →
        ∃ request, Forwards incoming (requestId incoming fresh) request ∧
          (∃ relay : Response → Response,
            (∀ response : Response, response.Relays incoming.method (relay response)) ∧
            ∀ {m : Type → Type} [Monad m] [LawfulMonad m] (send : κ → m Delivery),
              (config.server gateway).serve (fun command => .ok <$> send command) now fresh
                incoming = (fun outcome => (relay outcome.reply.response, outcome.events)) <$>
                  gateway.handle send now request) ∧
          ((gateway.Sends request [] ∧ ∃ (response : Response) (events : List Event),
              response.Traced (requestId incoming fresh) ∧
              (config.server gateway).AnswersAtOnce now fresh incoming response events) ∨
            ∃ found context command, gateway.Routed request found context ∧
              Access.authorize gateway.registry context found.route.requirement = .ok () ∧
              found.route.build context = .ok command ∧
              ∃ answer : Except (List Event) Delivery → Response × List Event,
                (config.server gateway).AnswersBy now fresh incoming command answer ∧
                (∀ events, (answer (.error events)).1.status.code = 408 ∧
                  (answer (.error events)).1.Traced (requestId incoming fresh) ∧
                  (answer (.error events)).2 = events) ∧
                (∀ failure events, (answer (.ok ⟨.error failure, events⟩)).1.Traced
                  (requestId incoming fresh)) ∧
                ∀ value events, (answer (.ok ⟨.ok value, events⟩)).1.Traced
                  ((found.route.field? .requestId).getD (requestId incoming fresh))))) := by
  let server := config.server gateway
  refine ⟨fun long => ?_, fun short => ?_⟩
  · have refused : incoming.receive server.bodyLimit = _ := Incoming.receive_of_long long
    exact turnsAway_of_refused now refused
  have received : incoming.receive server.bodyLimit = _ := Incoming.receive_of_short short
  refine ⟨fun cause cut => ?_, fun late => ?_, fun whole => ?_⟩
  · rw [cut] at received
    exact turnsAway_of_refused now received
  · rw [late] at received
    exact turnsAway_of_late now received
  · obtain ⟨request, read, forwards⟩ : ∃ request,
        (identified incoming fresh).decode server.identityHeaders server.bodyLimit =
          some (.ok request) ∧ Forwards incoming (requestId incoming fresh) request :=
      exists_forwards short whole
    refine ⟨request, forwards, ⟨sent incoming fresh, fun _ => relays_sent, fun send =>
      serve_of_prompt read send now⟩, ?_⟩
    by_cases silent : gateway.Sends request []
    · obtain ⟨outcome, bare, answers, -⟩ := exists_answersAtOnce read silent now
      exact .inl ⟨silent, _, _, traced_sent_of_bare bare, answers⟩
    · obtain ⟨command, found, context, routed, allowed, made⟩ :=
        Gateway.exists_routed_of_not_sends_nil silent
      -- Only the answer to a success may come with an identifier of its own.
      have verdict := routed.verdict_send allowed made
      have other : FieldName.requestId ≠ .contentType := by decide +kernel
      have declared (value : Json) :
          (found.route.success value).response.headers.values .requestId =
            (found.route.field? .requestId).toList := by
        rw [Reply.values_response _ other, Route.values_success, if_neg other, Option.or_none]
      exact .inr ⟨found, context, command, routed, allowed, made, _,
        answersBy_of_verdict_send read verdict now,
        fun events => ⟨congrArg Status.code relays_sent.status, traced_sent none rfl, rfl⟩,
        fun failure events => traced_sent_of_bare rfl,
        fun value events => traced_sent _ (declared value)⟩

end Server

end HttpGateway
