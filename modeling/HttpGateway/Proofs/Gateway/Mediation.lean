import HttpGateway.Gateway.Handler
import HttpGateway.Proofs.Dict

/-!
# What reaches the sender of commands

A request is handled with a sender that may do anything at all, in any monad. A recording sender
writes down each command before it passes it on, so the record of a run lists what was sent, in
order. `Gateway.Sends` says that the record of a request is a certain list whatever the sender
does, and `Gateway.Answers` that its reply does not depend on the sender. `Gateway.handle_mediates`
says for which requests a command is sent: for those that passed every stage, and it is the
command that the route found for the request builds from the context on which the request was
authorized. Every other request is answered at once.
-/

namespace HttpGateway

variable {κ : Type}

/-! ## Records of what is sent -/

/-- A sender that writes down each command before it passes it on. -/
def recording {m : Type → Type} [Monad m] (send : κ → m Delivery) (command : κ) :
    StateT (List κ) m Delivery := do
  modify (· ++ [command])
  StateT.lift (send command)

/-- The commands that a verdict sends. -/
def Verdict.commands : Verdict κ → List κ
  | .send _ command => [command]
  | _ => []

namespace Gateway

/-- Handle a request, and tell the commands that the sender was given, in order. -/
def handleRecorded {m : Type → Type} [Monad m] (gateway : Gateway κ) (send : κ → m Delivery)
    (now : Timestamp) (request : Request) : m (Outcome × List κ) :=
  (gateway.handle (recording send) now request).run []

/-- Whatever the sender does, the commands that it is given for a request are these, in order. -/
def Sends (gateway : Gateway κ) (request : Request) (commands : List κ) : Prop :=
  ∀ {m : Type → Type} [Monad m] [LawfulMonad m] (send : κ → m Delivery) (now : Timestamp),
    gateway.handleRecorded send now request =
      (fun outcome => (outcome, commands)) <$> gateway.handle send now request

/-- Whatever the sender does, the reply to a request is the one made at its time. -/
def Answers (gateway : Gateway κ) (request : Request) (reply : Timestamp → Reply) : Prop :=
  ∀ {m : Type → Type} [Monad m] [LawfulMonad m] (send : κ → m Delivery) (now : Timestamp),
    Outcome.reply <$> gateway.handle send now request = pure (reply now)

/-- A request is no health check, a route was found for it, and the context tells what the route
captured, what the request carries and who the caller is. -/
structure Routed (gateway : Gateway κ) (request : Request) (found : Match κ) (context : Context) :
    Prop where
  /-- The path without the stage is not that of a health check. -/
  live : isHealthPath (gateway.path request) = false
  /-- The route is the one that the table gives for the method and the path. -/
  matched : gateway.table.match? (normalizeMethod request.method) (gateway.path request) =
    some found
  /-- The method in normal form. -/
  method : context.method = normalizeMethod request.method
  /-- The path without the stage. -/
  path : context.path = gateway.path request
  /-- The captured parameters. -/
  parameters : context.parameters = found.parameters
  /-- The query of the request. -/
  query : context.query = request.query
  /-- The header fields of the request. -/
  headers : context.headers = request.headers
  /-- The body of the request. -/
  body : context.body = request.body
  /-- The claims of the caller. -/
  claims : context.claims = request.identity.claims

/-! ## Runs by their verdicts -/

variable {gateway : Gateway κ} {request : Request}

/-- The record of a run holds the command of its verdict, if it has one. -/
theorem sends_commands (gateway : Gateway κ) (request : Request) :
    gateway.Sends request (gateway.verdict request).commands := by
  intro m _ _ send now
  unfold handleRecorded handle
  cases gateway.verdict request with
  | send route command => simp [recording, Verdict.commands]
  | _ => simp [Verdict.commands]

/-- A request has one record. -/
theorem Sends.unique {commands others : List κ} (sends : gateway.Sends request commands)
    (again : gateway.Sends request others) : commands = others := by
  let silent : κ → Id Delivery := fun _ => ⟨.ok .null, []⟩
  let midnight : Timestamp := ⟨0, 1, 1, 0, 0, 0, 0⟩
  exact congrArg Prod.snd ((sends silent midnight).symm.trans (again silent midnight))

/-- A request has one reply at each time. -/
theorem Answers.unique {reply other : Timestamp → Reply} (answers : gateway.Answers request reply)
    (again : gateway.Answers request other) : reply = other := by
  let silent : κ → Id Delivery := fun _ => ⟨.ok .null, []⟩
  funext now
  exact (answers silent now).symm.trans (again silent now)

/-- The record of a request is that of its verdict. -/
theorem sends_iff {commands : List κ} :
    gateway.Sends request commands ↔ (gateway.verdict request).commands = commands := by
  refine ⟨Sends.unique (gateway.sends_commands request), ?_⟩
  rintro rfl
  exact gateway.sends_commands request

/-- A verdict sends a single command exactly when it is the verdict to send it. -/
theorem commands_eq_singleton_iff {verdict : Verdict κ} {command : κ} :
    verdict.commands = [command] ↔ ∃ route, verdict = .send route command := by
  cases verdict <;> simp [Verdict.commands, eq_comm]

/-- A verdict sends at most one command. -/
theorem length_commands_le (verdict : Verdict κ) : verdict.commands.length ≤ 1 := by
  cases verdict <;> simp [Verdict.commands]

/-- A health check is answered with the health reply. -/
theorem answers_of_verdict_health (verdict : gateway.verdict request = .health) :
    gateway.Answers request
      (.health gateway.settings.function gateway.settings.environment) := by
  intro m _ _ send now
  simp [handle, verdict, outcome]

/-- A request without a route is answered with its path and its method. -/
theorem answers_of_verdict_unrouted (verdict : gateway.verdict request = .unrouted) :
    gateway.Answers request fun _ =>
      .routeNotFound (gateway.path request) (normalizeMethod request.method) := by
  intro m _ _ send now
  simp [handle, verdict, outcome]

/-- A denied request is answered with the reply to its denial. -/
theorem answers_of_verdict_denied {route : Route κ} {denied : DenialOutcome} {denial : Denial}
    (verdict : gateway.verdict request = .denied route denied denial) :
    gateway.Answers request fun _ => denialReply denied denial := by
  intro m _ _ send now
  simp [handle, verdict, outcome]

/-- A request from which no command can be built is answered with the failure. -/
theorem answers_of_verdict_failed {route : Route κ} {failure : Failure}
    (verdict : gateway.verdict request = .failed route failure) :
    gateway.Answers request fun _ => .ofFailure failure gateway.settings.redact := by
  intro m _ _ send now
  simp [handle, verdict, outcome, resultReply]

/-! ## Verdicts by the stages that a request passes -/

/-- A request with a route is routed with the context that the gateway makes. -/
theorem routed_context {found : Match κ} (live : isHealthPath (gateway.path request) = false)
    (matched : gateway.table.match? (normalizeMethod request.method) (gateway.path request) =
      some found) : gateway.Routed request found (gateway.context request found) :=
  ⟨live, matched, rfl, rfl, rfl, rfl, rfl, rfl, rfl⟩

/-- The context of a routed request is the one that the gateway makes. -/
theorem Routed.context_eq {found : Match κ} {context : Context}
    (routed : gateway.Routed request found context) : context = gateway.context request found := by
  obtain ⟨-, -, method, path, parameters, query, headers, body, claims⟩ := routed
  cases context
  simp only at method path parameters query headers body claims
  subst method path parameters query headers body claims
  rfl

/-- The verdict on a routed request is that of its route. -/
theorem Routed.verdict_eq {found : Match κ} {context : Context}
    (routed : gateway.Routed request found context) :
    gateway.verdict request = gateway.verdictAt request found := by
  unfold verdict
  rw [routed.live, routed.matched]
  rfl

/-- A routed request that is denied has the verdict of its denial. -/
theorem Routed.verdict_denied {found : Match κ} {context : Context} {denial : Denial}
    (routed : gateway.Routed request found context)
    (denied : Access.authorize gateway.registry context found.route.requirement =
      .error denial) :
    gateway.verdict request = .denied found.route
      (if context.claims.isEmpty then .unauthenticated else .forbidden) denial := by
  rw [routed.verdict_eq]
  rw [routed.context_eq] at denied ⊢
  simp only [verdictAt, denied]

/-- A routed request that is allowed and from which no command can be built has the verdict of the
failure. -/
theorem Routed.verdict_failed {found : Match κ} {context : Context} {failure : Failure}
    (routed : gateway.Routed request found context)
    (allowed : Access.authorize gateway.registry context found.route.requirement = .ok ())
    (failed : found.route.build context = .error failure) :
    gateway.verdict request = .failed found.route failure := by
  rw [routed.verdict_eq]
  rw [routed.context_eq] at allowed failed
  simp only [verdictAt, allowed, failed]

/-- A routed request that is allowed and from which a command can be built has the verdict to send
it. -/
theorem Routed.verdict_send {found : Match κ} {context : Context} {command : κ}
    (routed : gateway.Routed request found context)
    (allowed : Access.authorize gateway.registry context found.route.requirement = .ok ())
    (built : found.route.build context = .ok command) :
    gateway.verdict request = .send found.route command := by
  rw [routed.verdict_eq]
  rw [routed.context_eq] at allowed built
  simp only [verdictAt, allowed, built]

/-- How a verdict on a request comes about. -/
inductive Judged (gateway : Gateway κ) (request : Request) : Verdict κ → Prop
  /-- The path is that of a health check. -/
  | health (health : isHealthPath (gateway.path request) = true) : Judged gateway request .health
  /-- The path is not that of a health check, and no route fits. -/
  | unrouted (live : isHealthPath (gateway.path request) = false)
      (unmatched : gateway.table.match? (normalizeMethod request.method) (gateway.path request) =
        none) : Judged gateway request .unrouted
  /-- The requirement of the route denies the context. -/
  | denied {found : Match κ} {context : Context} {denial : Denial}
      (routed : gateway.Routed request found context)
      (denied : Access.authorize gateway.registry context found.route.requirement =
        .error denial) :
      Judged gateway request (.denied found.route
        (if context.claims.isEmpty then .unauthenticated else .forbidden) denial)
  /-- The context is allowed, and the route builds no command from it. -/
  | failed {found : Match κ} {context : Context} {failure : Failure}
      (routed : gateway.Routed request found context)
      (allowed : Access.authorize gateway.registry context found.route.requirement = .ok ())
      (failed : found.route.build context = .error failure) :
      Judged gateway request (.failed found.route failure)
  /-- The context is allowed, and the route builds the command from it. -/
  | send {found : Match κ} {context : Context} {command : κ}
      (routed : gateway.Routed request found context)
      (allowed : Access.authorize gateway.registry context found.route.requirement = .ok ())
      (built : found.route.build context = .ok command) :
      Judged gateway request (.send found.route command)

/-- Every verdict comes about in one of these ways. -/
theorem judged_verdict (gateway : Gateway κ) (request : Request) :
    gateway.Judged request (gateway.verdict request) := by
  cases live : isHealthPath (gateway.path request) with
  | true =>
    rw [verdict, if_pos live]
    exact .health live
  | false =>
    cases matched : gateway.table.match? (normalizeMethod request.method)
        (gateway.path request) with
    | none =>
      rw [verdict, live, matched]
      exact .unrouted live matched
    | some found =>
      have routed := routed_context live matched
      cases decision : Access.authorize gateway.registry (gateway.context request found)
          found.route.requirement with
      | error denial =>
        rw [routed.verdict_denied decision]
        exact .denied routed decision
      | ok _ =>
        cases built : found.route.build (gateway.context request found) with
        | error failure =>
          rw [routed.verdict_failed decision built]
          exact .failed routed decision built
        | ok command =>
          rw [routed.verdict_send decision built]
          exact .send routed decision built

/-- A verdict of a denial comes from a routed request whose route denies the context. -/
theorem exists_routed_of_verdict_denied {route : Route κ} {outcome : DenialOutcome}
    {denial : Denial} (verdict : gateway.verdict request = .denied route outcome denial) :
    ∃ found context, gateway.Routed request found context ∧
      Access.authorize gateway.registry context found.route.requirement = .error denial := by
  have judged := gateway.judged_verdict request
  rw [verdict] at judged
  cases judged with
  | denied routed denied => exact ⟨_, _, routed, denied⟩

/-- A command is to be sent exactly for a routed request that is allowed and from which its route
builds the command. -/
theorem verdict_eq_send_iff {command : κ} :
    (∃ route, gateway.verdict request = .send route command) ↔
      ∃ found context, gateway.Routed request found context ∧
        Access.authorize gateway.registry context found.route.requirement = .ok () ∧
        found.route.build context = .ok command := by
  constructor
  · rintro ⟨route, verdict⟩
    have judged := gateway.judged_verdict request
    rw [verdict] at judged
    cases judged with
    | send routed allowed built => exact ⟨_, _, routed, allowed, built⟩
  · rintro ⟨found, context, routed, allowed, built⟩
    exact ⟨found.route, routed.verdict_send allowed built⟩

/-- A request for which nothing is sent is answered at once, with a reply that has no header
fields. -/
theorem Sends.handle_eq_pure (silent : gateway.Sends request []) (now : Timestamp) :
    ∃ outcome, outcome.reply.headers = ∅ ∧ ∀ {m : Type → Type} [Monad m] (send : κ → m Delivery),
      gateway.handle send now request = pure outcome := by
  have nothing := sends_iff.1 silent
  unfold handle
  cases verdict : gateway.verdict request with
  | send route command =>
    rw [verdict] at nothing
    cases nothing
  | health => exact ⟨_, rfl, fun send => rfl⟩
  | unrouted => exact ⟨_, rfl, fun send => rfl⟩
  | denied route outcome denial => cases outcome <;> exact ⟨_, rfl, fun send => rfl⟩
  | failed route failure => exact ⟨_, rfl, fun send => rfl⟩

/-- A request for which something is sent was routed and allowed, and a command was built for it. -/
theorem exists_routed_of_not_sends_nil (sends : ¬ gateway.Sends request []) :
    ∃ command found context, gateway.Routed request found context ∧
      Access.authorize gateway.registry context found.route.requirement = .ok () ∧
      found.route.build context = .ok command := by
  have some : (gateway.verdict request).commands ≠ [] := mt sends_iff.2 sends
  cases verdict : gateway.verdict request with
  | send route command => exact ⟨command, verdict_eq_send_iff.1 ⟨route, verdict⟩⟩
  | _ =>
    rw [verdict] at some
    exact absurd rfl some

/-- A request for which a command is sent is answered by what the sender delivers. -/
theorem handle_of_verdict_send {route : Route κ} {command : κ} {m : Type → Type} [Monad m]
    [LawfulMonad m] (verdict : gateway.verdict request = .send route command)
    (send : κ → m Delivery) (now : Timestamp) : gateway.handle send now request =
      (fun delivery => outcome request route.template.raw delivery.events
        (gateway.resultReply route delivery.result)) <$> send command := by
  simp [handle, verdict]

/-- For every gateway and every request at most one command is sent. One is sent exactly when the
path is no health check, the table has a route for the request, the requirement of that route
allows the context of the request, and that route builds a command from the same context; the
command sent is that one. A health check is answered with the health reply, a request without a
route with 404, a denial with 401 or 403 by whether the caller has claims, and a failure to build
the command with the status of its kind, and nothing is sent for any of them. -/
theorem handle_mediates (gateway : Gateway κ) (request : Request) :
    (∃ commands : List κ, commands.length ≤ 1 ∧ gateway.Sends request commands) ∧
    (∀ command, gateway.Sends request [command] ↔
      ∃ found context, gateway.Routed request found context ∧
        Access.authorize gateway.registry context found.route.requirement = .ok () ∧
        found.route.build context = .ok command) ∧
    (isHealthPath (gateway.path request) = true → gateway.Sends request [] ∧
      gateway.Answers request fun now => ⟨.ok, ∅, some (.ofMembers
        [("status", .string "healthy"), ("function", .string gateway.settings.function),
          ("timestamp", .string now.text),
          ("environment", .string gateway.settings.environment)])⟩) ∧
    (isHealthPath (gateway.path request) = false →
      gateway.table.match? (normalizeMethod request.method) (gateway.path request) = none →
        gateway.Sends request [] ∧
        gateway.Answers request fun _ => ⟨.notFound, ∅, some (.ofMembers
          [("error", .string "Route not found"), ("path", .string (gateway.path request)),
            ("method", .string (normalizeMethod request.method))])⟩) ∧
    ∀ found context, gateway.Routed request found context →
      (∀ denial, Access.authorize gateway.registry context found.route.requirement =
        .error denial → gateway.Sends request [] ∧
        (context.claims = ∅ → gateway.Answers request fun _ => ⟨.unauthorized, ∅, some (.ofMembers
          [("error", .string "Unauthorized"), ("details", .string denial.message)])⟩) ∧
        (context.claims ≠ ∅ → gateway.Answers request fun _ => ⟨.forbidden, ∅, some (.ofMembers
          [("error", .string "Forbidden"), ("details", .string denial.message)])⟩)) ∧
      (Access.authorize gateway.registry context found.route.requirement = .ok () →
        ∀ failure, found.route.build context = .error failure → gateway.Sends request [] ∧
        ∃ reply : Reply, gateway.Answers request (fun _ => reply) ∧
          reply.status.code = match failure.kind with
            | .validation => 400
            | .notFound => 404
            | .unauthorized => 401
            | .forbidden => 403
            | .conflict => 409
            | .other => 500) := by
  refine ⟨⟨_, length_commands_le _, gateway.sends_commands request⟩, fun command => ?_, ?_, ?_, ?_⟩
  · rw [sends_iff, commands_eq_singleton_iff, verdict_eq_send_iff]
  · intro health
    have verdict : gateway.verdict request = .health := by
      rw [Gateway.verdict, if_pos health]
    exact ⟨sends_iff.2 (by rw [verdict]; rfl), answers_of_verdict_health verdict⟩
  · intro live unmatched
    have verdict : gateway.verdict request = .unrouted := by
      rw [Gateway.verdict, live, unmatched]
      rfl
    exact ⟨sends_iff.2 (by rw [verdict]; rfl), answers_of_verdict_unrouted verdict⟩
  · intro found context routed
    refine ⟨fun denial denied => ?_, fun allowed failure failed => ?_⟩
    · have verdict := routed.verdict_denied denied
      have answers : gateway.Answers request _ := answers_of_verdict_denied verdict
      refine ⟨sends_iff.2 (by rw [verdict]; rfl), fun stranger => ?_, fun known => ?_⟩
      · rwa [if_pos (Dict.isEmpty_iff.2 stranger)] at answers
      · rwa [if_neg (mt Dict.isEmpty_iff.1 known)] at answers
    · have verdict := routed.verdict_failed allowed failed
      refine ⟨sends_iff.2 (by rw [verdict]; rfl), _, answers_of_verdict_failed verdict, ?_⟩
      unfold Reply.ofFailure Reply.error Reply.json
      cases failure.kind <;> rfl

end Gateway

end HttpGateway
