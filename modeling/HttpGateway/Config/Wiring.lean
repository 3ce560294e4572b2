import HttpGateway.Config.Basic
import HttpGateway.Gateway.Server

/-!
# Building what a configuration describes

The policies and routes of a configuration are registered one after the other, and each route is
bound to the command of its name. The gateway, the server and the courier follow.
-/

namespace HttpGateway

/-- The steps that build a configured policy. -/
def PolicyConfig.steps (policy : PolicyConfig) : List Policy.Step :=
  .requireRole policy.roles ::
    policy.claims.entries.map fun claim => .requireClaim claim.1 claim.2

/-- The steps that configure a configured route. -/
def RouteConfig.steps (route : RouteConfig) : List Route.Step :=
  .requireRole route.roles ::
    (route.claims.entries.map fun claim => .requireClaim claim.1 claim.2) ++
    route.policies.map .requirePolicy ++
    route.contentType.toList.map .produce ++
    (route.headers.entries.map fun field => .respondHeader field.1 field.2) ++
    (if route.allowAnonymous then [.allowAnonymous] else [])

/-- The registration of a configured route. -/
def RouteConfig.registration (route : RouteConfig) : Registration Command where
  method := route.method
  path := route.path
  shape := route.response
  build := Command.ofContext route.command
  steps := route.steps

namespace Config

/-- The registry of the configured policies. -/
def registry (config : Config) : Except DuplicatePolicy Registry :=
  config.policies.foldlM (fun registry policy => registry.add policy.name policy.steps) ∅

/-- The table of the configured routes. -/
def table (config : Config) : Except DuplicateParameter (Table Command) :=
  config.routes.foldlM (fun table route => table.register route.registration) ∅

/-- The server that a configuration describes, given the gateway behind it. -/
def server {κ : Type} (config : Config) (gateway : Gateway κ) : Server κ where
  gateway
  identityHeaders := config.identity
  bodyLimit := config.listener.maxBodyBytes

/-- The courier that a configuration describes. -/
def courier (config : Config) : Except UriFault Courier :=
  Courier.ofUrl config.backend.url config.retries

end Config

end HttpGateway
