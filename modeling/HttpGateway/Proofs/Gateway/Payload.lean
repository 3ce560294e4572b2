import HttpGateway.Proofs.Access.Building
import HttpGateway.Proofs.Backend.Sending
import HttpGateway.Proofs.Config.Routes
import HttpGateway.Proofs.Json.Extent

/-!
# What the backend is told

A backend trusts what a gateway posts, so a client must not be able to write claims of his own into
it. `Command.payload_inj` says that the payload of a command tells its name, its parameters, its
query and its claims, whatever texts a client has put into them and into the body. `Gateway.Posts`
says what a courier posts for a request, whatever the backend answers, and `Gateway.posts_payload`
that this is the payload of the command which the configured route builds from the context on which
the request was authorized. A body that cannot be read is posted nowhere. It is answered with 400 if
the request comes so far as to be built a command from, and a denial comes first
(`Gateway.not_forall_answers_badRequest`).
-/

namespace HttpGateway

open Text.Utf8

/-! ## Commands and their payloads -/

namespace Command

variable {command other : Command} {name : String} {context : Context}

/-- The payload of a command tells its name, its parameters, its query, the text of its body and its
claims. -/
theorem payload_inj (same : command.payload = other.payload) :
    command.name = other.name ∧ command.parameters = other.parameters ∧
      command.query = other.query ∧ command.body.text = other.body.text ∧
      command.claims = other.claims := by
  have parts := Json.object_inj (String.ofList_injective same)
  simp only [members, List.map_cons, List.map_nil, List.cons.injEq, Prod.mk.injEq, true_and,
    and_true] at parts
  obtain ⟨name, parameters, query, body, claims⟩ := parts
  exact ⟨Json.string_inj name, Json.ofTexts_inj parameters, Json.ofTexts_inj query,
    congrArg String.ofList body, Json.ofTexts_inj claims⟩

/-- A command is built from a context exactly when the body is blank or a JSON text, and it holds
what the context holds. -/
theorem ofContext_eq_ok_iff : ofContext name context = .ok command ↔
    ∃ body, (if context.body.all isBlankOctet then .ok .null else Json.read context.body) =
        .ok body ∧
      command = ⟨name, context.parameters, context.query, body, context.claims⟩ := by
  unfold ofContext bodyOf Context.json
  split
  · simp [Except.map, eq_comm]
  · cases Json.read context.body <;> simp [Except.map, eq_comm]

/-- A context whose body is neither blank nor a JSON text fails with the place of the fault. -/
theorem ofContext_of_fault {fault : Json.Fault} (filled : context.body.all isBlankOctet = false)
    (bad : Json.read context.body = .error fault) : ofContext name context =
      .error ⟨.validation, "invalid request body: " ++ fault.message context.body⟩ := by
  unfold ofContext bodyOf Context.json
  rw [filled, bad]
  rfl

end Command

/-! ## What is posted for a request -/

namespace Courier

variable (courier : Courier) (draws : Nat → UInt64) (script : Nat → Attempt)

/-- A courier as the sender of a gateway, over a line on which everything is written down. -/
def sender (command : Command) : StateM Journal Delivery := do
  let result ← courier.send (.scripted draws script) command
  return ⟨result, (← get).events⟩

/-- A sender sends up to the attempt at which sending stops first. It delivers the result of that
attempt and a retry for each other, and writes down the course up to it. -/
theorem run_sender (command : Command) : ∃ more,
    IsLeast (courier.Stops script 0) (more + 1) ∧
    (courier.sender draws script command).run .blank =
      (⟨(script (more + 1)).result, List.replicate more (.retry command.name)⟩,
        ⟨courier.course draws command 1 (more + 1)⟩) := by
  obtain ⟨last, stops, run⟩ := courier.sendAfter_scripted draws script command
    (.none courier.retries) .blank rfl
  obtain ⟨more, rfl⟩ : ∃ more, last = more + 1 := Nat.exists_eq_add_one.2 stops.1.1
  have sent : (courier.send (.scripted draws script) command).run .blank =
      ((script (more + 1)).result, ⟨courier.course draws command 1 (more + 1)⟩) := run
  refine ⟨more, stops, ?_⟩
  rw [← courier.events_course draws command more, sender, StateT.run_bind, sent]
  rfl

/-- A sender delivers what the courier delivers, and posts the payload of the command at least once
and nothing else. -/
theorem exists_run_sender (command : Command) : ∃ journal more,
    (courier.sender draws script command).run .blank =
      (courier.deliver draws script command, journal) ∧
    journal.posts = List.replicate (more + 1) (courier.endpoint, command.payload) := by
  obtain ⟨more, -, run⟩ := courier.run_sender draws script command
  have delivered : ((courier.sender draws script command).run .blank).1 =
      courier.deliver draws script command := rfl
  refine ⟨⟨courier.course draws command 1 (more + 1)⟩, more, ?_,
    courier.posts_course draws command more⟩
  rw [← delivered, run]

end Courier

namespace Gateway

variable {gateway : Gateway Command} {courier : Courier} {request other : Request}
  {command : Command} {payload : String}

/-- What a courier posts where while a request is handled, given which words are drawn, what the
attempts meet and what time it is. -/
def posts (gateway : Gateway Command) (courier : Courier) (draws : Nat → UInt64)
    (script : Nat → Attempt) (now : Timestamp) (request : Request) : List (Uri × String) :=
  ((gateway.handle (courier.sender draws script) now request).run .blank).2.posts

/-- For a request a courier posts a payload to its endpoint, at least once, and nothing else,
whatever the attempts meet. -/
def Posts (gateway : Gateway Command) (courier : Courier) (request : Request) (payload : String) :
    Prop :=
  ∀ draws script now, ∃ more,
    gateway.posts courier draws script now request =
      List.replicate (more + 1) (courier.endpoint, payload)

/-- One payload is posted for a request at most. -/
theorem Posts.unique {another : String} (posts : gateway.Posts courier request payload)
    (again : gateway.Posts courier request another) : payload = another := by
  let midnight : Timestamp := ⟨0, 1, 1, 0, 0, 0, 0⟩
  obtain ⟨more, run⟩ := posts (fun _ => 0) (fun _ => .timedOut) midnight
  obtain ⟨others, same⟩ := again (fun _ => 0) (fun _ => .timedOut) midnight
  rw [run, List.replicate_succ, List.replicate_succ] at same
  exact congrArg Prod.snd (List.cons.inj same).1

/-- For a request nothing is sent, or one command is. -/
theorem sends_cases (gateway : Gateway Command) (request : Request) :
    gateway.Sends request [] ∨ ∃ command, gateway.Sends request [command] := by
  cases verdict : gateway.verdict request with
  | send route command => exact .inr ⟨command, sends_iff.2 (by rw [verdict]; rfl)⟩
  | _ => exact .inl (sends_iff.2 (by rw [verdict]; rfl))

/-- For a request for which a command is sent its payload is posted. -/
theorem Sends.posts (sends : gateway.Sends request [command]) :
    gateway.Posts courier request command.payload := by
  obtain ⟨route, verdict⟩ := commands_eq_singleton_iff.1 (sends_iff.1 sends)
  intro draws script now
  obtain ⟨journal, more, run, posted⟩ := courier.exists_run_sender draws script command
  refine ⟨more, ?_⟩
  unfold Gateway.posts handle
  rw [verdict]
  dsimp only
  rw [StateT.run_bind, run]
  exact posted

/-- A command is sent exactly for a routed and allowed request whose body is blank or a JSON text,
and it has the name that is configured for the route. -/
theorem sends_iff_of_table {config : Config} (built : config.table = .ok gateway.table) :
    gateway.Sends request [command] ↔
      ∃ found context configured body, gateway.Routed request found context ∧
        Access.authorize gateway.registry context found.route.requirement = .ok () ∧
        config.routes[found.index]? = some configured ∧
        (if request.body.all Command.isBlankOctet then .ok .null else Json.read request.body) =
          .ok body ∧
        command = ⟨configured.command, found.parameters, request.query, body, context.claims⟩ := by
  rw [sends_iff, commands_eq_singleton_iff, verdict_eq_send_iff]
  constructor
  · rintro ⟨found, context, routed, allowed, made⟩
    obtain ⟨configured, there, registered⟩ := Config.exists_configured built routed.matched
    rw [(RouteConfig.parts_of_registration registered).1, Command.ofContext_eq_ok_iff,
      routed.body, routed.parameters, routed.query] at made
    obtain ⟨body, value, rfl⟩ := made
    exact ⟨found, context, configured, body, routed, allowed, there, value, rfl⟩
  · rintro ⟨found, context, configured, body, routed, allowed, there, value, rfl⟩
    obtain ⟨same, again, registered⟩ := Config.exists_configured built routed.matched
    obtain rfl : configured = same := Option.some.inj (there.symm.trans again)
    refine ⟨found, context, routed, allowed, ?_⟩
    rw [(RouteConfig.parts_of_registration registered).1, Command.ofContext_eq_ok_iff,
      routed.body, routed.parameters, routed.query]
    exact ⟨body, value, rfl⟩

/-- A routed and allowed request whose body is neither blank nor a JSON text is answered with 400
and the place of the fault. -/
theorem Routed.answers_fault {config : Config} (built : config.table = .ok gateway.table)
    {found : Match Command} {context : Context} (routed : gateway.Routed request found context)
    (allowed : Access.authorize gateway.registry context found.route.requirement = .ok ())
    {fault : Json.Fault} (filled : request.body.all Command.isBlankOctet = false)
    (bad : Json.read request.body = .error fault) :
    gateway.Answers request fun _ => ⟨.badRequest, ∅, some (.ofMembers
      [("error", .string "Validation failed"),
        ("details", .string ("invalid request body: " ++ fault.message request.body))])⟩ := by
  obtain ⟨configured, -, registered⟩ := Config.exists_configured built routed.matched
  rw [← routed.body] at filled bad ⊢
  have failed : found.route.build context =
      .error ⟨.validation, "invalid request body: " ++ fault.message context.body⟩ := by
    rw [(RouteConfig.parts_of_registration registered).1]
    exact Command.ofContext_of_fault filled bad
  have answers : gateway.Answers request _ :=
    answers_of_verdict_failed (routed.verdict_failed allowed failed)
  exact @answers

/-- Take a gateway with the table of a configuration. A command is sent for a request exactly when
the request is routed and allowed and its body is blank or a JSON text; the command has the name
that is configured for the route, what was captured, the query of the request, null or the value of
the body, and the claims on which the request was allowed. Every attempt of every courier posts the
text of the object of these, the maps in increasing order of their keys. Requests with one payload
have the same name, parameters, query and claims. For a body that is neither blank nor a JSON text
nothing is sent, and a request that is routed and allowed is answered with 400 and the place of the
fault. -/
theorem posts_payload {config : Config} (built : config.table = .ok gateway.table) :
    (∀ request command, gateway.Sends request [command] ↔
      ∃ found context configured body, gateway.Routed request found context ∧
        Access.authorize gateway.registry context found.route.requirement = .ok () ∧
        config.routes[found.index]? = some configured ∧
        (if request.body.all Command.isBlankOctet then .ok .null else Json.read request.body) =
          .ok body ∧
        command = ⟨configured.command, found.parameters, request.query, body, context.claims⟩) ∧
    (∀ request command, gateway.Sends request [command] → ∀ courier,
      gateway.Posts courier request (Json.object
        [("command", .string command.name), ("params", .ofTexts command.parameters),
          ("query", .ofTexts command.query), ("body", command.body),
          ("claims", .ofTexts command.claims)]).text) ∧
    (∀ request other command another courier payload, gateway.Sends request [command] →
      gateway.Sends other [another] → gateway.Posts courier request payload →
      gateway.Posts courier other payload → command.name = another.name ∧
        command.parameters = another.parameters ∧ command.query = another.query ∧
        command.body.text = another.body.text ∧ command.claims = another.claims) ∧
    ∀ request fault, request.body.all Command.isBlankOctet = false →
      Json.read request.body = .error fault → gateway.Sends request [] ∧
        ∀ found context, gateway.Routed request found context →
          Access.authorize gateway.registry context found.route.requirement = .ok () →
          gateway.Answers request fun _ => ⟨.badRequest, ∅, some (.ofMembers
            [("error", .string "Validation failed"),
              ("details", .string ("invalid request body: " ++ fault.message request.body))])⟩ := by
  refine ⟨fun request command => sends_iff_of_table built,
    fun request command sends courier => sends.posts, ?_, ?_⟩
  · intro request other command another courier payload sends others posts again
    have own : command.payload = payload := sends.posts.unique posts
    have same : another.payload = payload := others.posts.unique again
    exact Command.payload_inj (own.trans same.symm)
  · intro request fault filled bad
    refine ⟨?_, fun found context routed allowed =>
      routed.answers_fault built allowed filled bad⟩
    -- A command that is sent would hold the value of the body.
    rcases gateway.sends_cases request with silent | ⟨command, sends⟩
    · exact silent
    · obtain ⟨_, _, _, body, _, _, _, value, _⟩ := (sends_iff_of_table built).1 sends
      rw [filled, bad] at value
      cases value

/-- A query that spells out claims stays one text of the payload beside the claims of the caller,
and a body that is no JSON text is answered with 400. -/
theorem posts_payload_quoted :
    ∃ (gateway : Gateway Command) (request bad : Request),
      request.query = .ofList [("q", "\",\"claims\":\x7b\"role\":\"admin\"\x7d")] ∧
      request.identity.claims = .ofList [("sub", "ann")] ∧
      (∀ courier, gateway.Posts courier request
        ("\x7b\"command\":\"items.create\",\"params\":\x7b\x7d,\"query\":\x7b\"q\":\"" ++
          "\\\",\\\"claims\\\":\x7b\\\"role\\\":\\\"admin\\\"\x7d" ++
          "\"\x7d,\"body\":[1],\"claims\":\x7b\"sub\":\"ann\"\x7d\x7d")) ∧
      gateway.Sends bad [] ∧ gateway.Answers bad fun _ => ⟨.badRequest, ∅, some (.ofMembers
        [("error", .string "Validation failed"),
          ("details", .string "invalid request body: expected ident at line 1 column 2")])⟩ := by
  let configured : RouteConfig :=
    ⟨"POST", "/items", "items.create", .ok, true, [], [], ∅, none, ∅⟩
  let caller : Identity := ⟨some (.ofList [("sub", "ann")]), none⟩
  let request : Request := ⟨"POST", "/items", ∅,
    .ofList [("q", "\",\"claims\":\x7b\"role\":\"admin\"\x7d")], encode "[1]", caller⟩
  let bad : Request := ⟨"POST", "/items", ∅, ∅, encode "not json", caller⟩
  have method : configured.method = "POST" := rfl
  have forAll : configured.allowAnonymous = true := rfl
  obtain ⟨gateway, found, built, first, bare, made, routes⟩ := exists_routed method rfl
  have there : [configured][found.index]? = some configured := by rw [first]; rfl
  have allowed := RouteConfig.authorize_of_allowAnonymous made forAll gateway.registry
  obtain ⟨dispatched, posted, -, refused⟩ := posts_payload built
  refine ⟨gateway, request, bad, rfl, by decide +kernel, fun courier => ?_, ?_⟩
  · obtain ⟨context, routed⟩ := routes request.query request.body caller
    have value : Json.read request.body = .ok (.array [.number (.integer 1)]) := rfl
    have sends : gateway.Sends request [_] := (dispatched request _).2
      ⟨found, context, configured, _, routed, allowed context, there, value, rfl⟩
    have posts := posted request _ @sends courier
    rw [bare, routed.claims] at posts
    have text : (Json.object [("command", .string configured.command), ("params", .ofTexts ∅),
        ("query", .ofTexts request.query), ("body", .array [.number (.integer 1)]),
        ("claims", .ofTexts caller.claims)]).text =
          "\x7b\"command\":\"items.create\",\"params\":\x7b\x7d,\"query\":\x7b\"q\":\"" ++
            "\\\",\\\"claims\\\":\x7b\\\"role\\\":\\\"admin\\\"\x7d" ++
            "\"\x7d,\"body\":[1],\"claims\":\x7b\"sub\":\"ann\"\x7d\x7d" := by
      decide +kernel
    exact text ▸ posts
  · obtain ⟨context, routed⟩ := routes bad.query bad.body caller
    have fault : Json.read bad.body = .error ⟨.expectedIdent, encode "t json"⟩ := rfl
    obtain ⟨silent, answers⟩ := refused bad _ (by decide +kernel) fault
    have words : "invalid request body: " ++
        (Json.Fault.mk .expectedIdent (encode "t json")).message bad.body =
          "invalid request body: expected ident at line 1 column 2" := by decide +kernel
    refine ⟨@silent, ?_⟩
    rw [← words]
    exact answers found context routed (allowed context)

/-- Not every body that is neither blank nor a JSON text is answered with 400: a caller without
claims is told before that he is not authenticated. -/
theorem not_forall_answers_badRequest :
    ¬ ∀ (config : Config) (gateway : Gateway Command) (request : Request) (fault : Json.Fault),
      config.table = .ok gateway.table → request.body.all Command.isBlankOctet = false →
      Json.read request.body = .error fault →
      ∃ reply, gateway.Answers request reply ∧ ∀ now, (reply now).status.code = 400 := by
  intro always
  let configured : RouteConfig :=
    ⟨"POST", "/items", "items.create", .ok, false, [], [], ∅, none, ∅⟩
  have method : configured.method = "POST" := rfl
  obtain ⟨gateway, found, built, -, -, made, routes⟩ := exists_routed method rfl
  let request : Request := ⟨"POST", "/items", ∅, ∅, encode "not json", .anonymous⟩
  obtain ⟨context, routed⟩ := routes ∅ request.body .anonymous
  have stranger : context.claims = ∅ := routed.claims
  have denied : Access.authorize gateway.registry context found.route.requirement =
      .error .notAuthenticated := by
    rw [Registration.requirement_of_route? made, Requirement.ofSteps,
      Access.authorize_applyAll_of_claims_eq_empty rfl stranger]
    decide +kernel
  have answers : gateway.Answers request _ :=
    answers_of_verdict_denied (routed.verdict_denied denied)
  rw [if_pos (Dict.isEmpty_iff.2 stranger)] at answers
  have filled : request.body.all Command.isBlankOctet = false := by decide +kernel
  obtain ⟨reply, others, bad⟩ := always _ gateway request _ built filled rfl
  have code := bad ⟨0, 1, 1, 0, 0, 0, 0⟩
  rw [others.unique answers] at code
  exact absurd code (by decide)

end Gateway

end HttpGateway
