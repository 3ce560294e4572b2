import HttpGateway.Backend.Courier
import HttpGateway.Gateway.Request
import HttpGateway.Routing.Table

/-!
# Handling requests

A gateway decides what becomes of a request in one pass: a health check is answered before all
else; a request that no route fits, that the route's requirement denies, or from which no command
can be built is answered at once; any other is a command to be sent. `Gateway.verdict` is that
decision, and `Gateway.handle` carries it out with a given sender, in any monad. Nothing is sent
but by the one call of the sender for the verdict that holds a command.
-/

namespace HttpGateway

/-- What a gateway reports of itself and how it treats paths and failures. -/
structure Settings where
  /-- The name of the function that the health reply gives. -/
  function : String
  /-- The environment that the health reply gives. -/
  environment : String
  /-- The stage that is removed from the front of paths. -/
  stage : Option String
  /-- Whether messages of failures of no particular kind are withheld. -/
  redact : Bool
deriving DecidableEq, Repr

/-- A gateway to commands of type `κ`. -/
structure Gateway (κ : Type) where
  /-- The routes. -/
  table : Table κ
  /-- The policies. -/
  registry : Registry
  /-- The settings. -/
  settings : Settings

/-- The paths of health checks. -/
def healthPaths : List String := ["/health", "/health/", "/healthz", "/healthz/"]

/-- Whether a path is that of a health check; ASCII letter case does not count. -/
def isHealthPath (path : String) : Bool := healthPaths.contains (asciiLowercase path)

/-- What becomes of a request. -/
inductive Verdict (κ : Type)
  /-- It is a health check. -/
  | health
  /-- No route fits. -/
  | unrouted
  /-- The requirement of the route denies it. -/
  | denied (route : Route κ) (outcome : DenialOutcome) (denial : Denial)
  /-- No command can be built. -/
  | failed (route : Route κ) (failure : Failure)
  /-- The command is to be sent. -/
  | send (route : Route κ) (command : κ)

/-- The reply to a request, and what is counted. -/
structure Outcome where
  /-- The reply. -/
  reply : Reply
  /-- What is counted. -/
  events : List Event

/-- The reply to a command that succeeded. -/
def Route.success {κ : Type} (route : Route κ) (value : Json) : Reply :=
  let plain : Reply :=
    match route.shape with
    | .noContent => .empty route.shape.status
    | shape => .json shape.status value
  let typed := (route.contentType.map (plain.withHeader "content-type")).getD plain
  route.headers.foldl (fun reply field => reply.withHeader field.1 field.2) typed

namespace Gateway

variable {κ : Type}

/-- The path of a request without the stage. -/
def path (gateway : Gateway κ) (request : Request) : String :=
  match gateway.settings.stage with
  | some stage => Path.stripStage stage request.path
  | none => request.path

/-- The context of a request for which a route was found. -/
def context (gateway : Gateway κ) (request : Request) (found : Match κ) : Context where
  method := normalizeMethod request.method
  path := gateway.path request
  parameters := found.parameters
  query := request.query
  headers := request.headers
  body := request.body
  claims := request.identity.claims

/-- What becomes of a request for which a route was found. -/
def verdictAt (gateway : Gateway κ) (request : Request) (found : Match κ) : Verdict κ :=
  let context := gateway.context request found
  match Access.authorize gateway.registry context found.route.requirement with
  | .error denial =>
    .denied found.route (if context.claims.isEmpty then .unauthenticated else .forbidden) denial
  | .ok () =>
    match found.route.build context with
    | .error failure => .failed found.route failure
    | .ok command => .send found.route command

/-- What becomes of a request. -/
def verdict (gateway : Gateway κ) (request : Request) : Verdict κ :=
  if isHealthPath (gateway.path request) then .health
  else
    match gateway.table.match? (normalizeMethod request.method) (gateway.path request) with
    | none => .unrouted
    | some found => gateway.verdictAt request found

/-- The reply to a request that was denied. -/
def denialReply (outcome : DenialOutcome) (denial : Denial) : Reply :=
  match outcome with
  | .unauthenticated => .unauthenticated denial.message
  | .forbidden => .forbidden denial.message

/-- The reply to the result of building and sending a command. -/
def resultReply (gateway : Gateway κ) (route : Route κ) : Except Failure Json → Reply
  | .ok value => route.success value
  | .error failure => .ofFailure failure gateway.settings.redact

/-- The outcome of a request with a reply: what was counted on the way, and the request itself
under its method and the label of its route. -/
def outcome (request : Request) (label : String) (events : List Event) (reply : Reply) :
    Outcome :=
  ⟨reply, events ++ [.request (normalizeMethod request.method) label reply.status]⟩

/-- Handle a request with a sender of commands. -/
def handle {m : Type → Type} [Monad m] (gateway : Gateway κ) (send : κ → m Delivery)
    (now : Timestamp) (request : Request) : m Outcome :=
  match gateway.verdict request with
  | .health =>
    pure (outcome request "health" []
      (.health gateway.settings.function gateway.settings.environment now))
  | .unrouted =>
    pure (outcome request "none" []
      (.routeNotFound (gateway.path request) (normalizeMethod request.method)))
  | .denied route denied denial =>
    pure (outcome request route.template.raw [.denied denied] (denialReply denied denial))
  | .failed route failure =>
    pure (outcome request route.template.raw [] (gateway.resultReply route (.error failure)))
  | .send route command => do
    let delivery ← send command
    pure (outcome request route.template.raw delivery.events
      (gateway.resultReply route delivery.result))

end Gateway

end HttpGateway
