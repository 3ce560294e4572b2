import Mathlib.Data.List.Forall2
import HttpGateway.Config.Wiring
import HttpGateway.Proofs.Gateway.Mediation
import HttpGateway.Proofs.Routing.Capture
import HttpGateway.Proofs.Routing.Configuring

/-!
# The configured route behind a match

A table that is built from a configuration has its routes in their configured order, so the route
that is found for a request stands at its place in the configuration (`Config.exists_configured`).
How it builds commands and answers a success is what is configured there
(`RouteConfig.parts_of_registration`).
-/

namespace HttpGateway

namespace RouteConfig

variable {configured : RouteConfig}

/-- The steps of a configured route set no shape. -/
theorem filterMap_shape_steps : configured.steps.filterMap Route.Step.shape? = [] := by
  unfold steps
  cases configured.contentType <;> cases configured.allowAnonymous <;>
    simp [Route.Step.shape?, List.filterMap_cons]

/-- The steps of a configured route set the configured media type, if there is one. -/
theorem filterMap_type_steps :
    configured.steps.filterMap Route.Step.type? = configured.contentType.toList := by
  unfold steps
  cases configured.contentType <;> cases configured.allowAnonymous <;>
    simp [Route.Step.type?, List.filterMap_cons, Function.comp_def]

/-- The steps of a configured route set the configured header fields in the order of their keys. -/
theorem filterMap_field_steps :
    configured.steps.filterMap Route.Step.field? = configured.headers.entries := by
  unfold steps
  cases configured.contentType <;> cases configured.allowAnonymous <;>
    simp [Route.Step.field?, List.filterMap_cons, Function.comp_def]

/-- The route of a configured route builds the configured command, and has the configured shape,
media type and header fields. -/
theorem parts_of_registration {route : Route Command}
    (made : configured.registration.route? = .ok route) :
    route.build = Command.ofContext configured.command ∧ route.shape = configured.response ∧
      route.contentType = configured.contentType ∧
      route.headers = Route.setFields [] configured.headers.entries := by
  obtain ⟨build, shape, type, fields⟩ := Registration.parts_of_route? made
  change route.shape = (configured.steps.filterMap Route.Step.shape?).getLast?.getD _ at shape
  change _ = (configured.steps.filterMap Route.Step.type?).getLast? at type
  change _ = Route.setFields [] (configured.steps.filterMap Route.Step.field?) at fields
  rw [filterMap_shape_steps] at shape
  rw [filterMap_type_steps] at type
  rw [filterMap_field_steps] at fields
  refine ⟨build, shape, ?_, fields⟩
  rw [type]
  cases configured.contentType <;> rfl

/-- The route of a configured route for all lets every caller pass. -/
theorem authorize_of_allowAnonymous {route : Route Command}
    (made : configured.registration.route? = .ok route)
    (forAll : configured.allowAnonymous = true) (registry : Registry) (context : Context) :
    Access.authorize registry context route.requirement = .ok () := by
  have last : ∃ front, configured.steps = front ++ [.allowAnonymous] :=
    ⟨_, by rw [steps, if_pos forAll]⟩
  obtain ⟨front, last⟩ := last
  obtain ⟨template, -, rfl⟩ := Registration.route?_eq_ok_iff.1 made
  rw [Route.requirement_configure]
  change Access.authorize registry context
    (Requirement.authenticated.applyAll (configured.steps.flatMap Route.Step.access)) = _
  rw [last, List.flatMap_append, Requirement.applyAll, List.foldl_append]
  rfl

end RouteConfig

/-! ## Tables of configured routes -/

/-- Registering routes one after the other appends the route of each. -/
theorem Table.routes_of_foldlM_register {routes : List RouteConfig} {table next : Table Command}
    (built : routes.foldlM (fun table route => table.register route.registration) table =
      .ok next) :
    ∃ added, next.routes = table.routes ++ added ∧
      List.Forall₂ (fun configured route => configured.registration.route? = .ok route)
        routes added := by
  induction routes generalizing table with
  | nil =>
    obtain rfl := Except.ok.inj built
    exact ⟨[], (List.append_nil _).symm, .nil⟩
  | cons configured rest ih =>
    rw [List.foldlM_cons] at built
    cases registered : table.register configured.registration with
    | error fault =>
      rw [registered] at built
      cases built
    | ok middle =>
      rw [registered] at built
      obtain ⟨route, made, rfl⟩ := register_eq_ok_iff.1 registered
      obtain ⟨added, eq, all⟩ := ih built
      refine ⟨route :: added, ?_, .cons made all⟩
      rw [eq, List.append_assoc, List.singleton_append]

/-- The route that is found for a request in a table built from a configuration is that of the
configured route at its place. -/
theorem Config.exists_configured {config : Config} {table : Table Command}
    (built : config.table = .ok table) {method path : String} {found : Match Command}
    (matched : table.match? method path = some found) :
    ∃ configured, config.routes[found.index]? = some configured ∧
      configured.registration.route? = .ok found.route := by
  obtain ⟨added, eq, all⟩ := Table.routes_of_foldlM_register built
  obtain ⟨there, -⟩ := Table.match?_eq_some_iff.1 matched
  rw [eq] at there
  obtain ⟨inside, same⟩ := List.getElem?_eq_some_iff.1 there
  have below : found.index < config.routes.length := by
    rw [all.length_eq]
    exact inside
  refine ⟨config.routes[found.index], List.getElem?_eq_getElem below, ?_⟩
  rw [← same]
  exact all.get below inside

/-- The table of a configuration with one route has the route of its registration. -/
theorem Config.table_of_singleton {config : Config} {configured : RouteConfig}
    {route : Route Command} (single : config.routes = [configured])
    (made : configured.registration.route? = .ok route) : config.table = .ok ⟨[route]⟩ := by
  unfold table
  rw [single, List.foldlM_cons, Table.register_eq_ok_iff.2 ⟨route, made, rfl⟩]
  rfl

/-- A configured route to a place is found for every request to the place at a gateway with this
route alone. -/
theorem Gateway.exists_routed {configured : RouteConfig} (method : configured.method = "POST")
    (path : configured.path = "/items") :
    ∃ (gateway : Gateway Command) (found : Match Command),
      Config.table { routes := [configured] } = .ok gateway.table ∧ found.index = 0 ∧
      found.parameters = ∅ ∧ configured.registration.route? = .ok found.route ∧
      ∀ query body identity, ∃ context,
        gateway.Routed ⟨"POST", "/items", ∅, query, body, identity⟩ found context := by
  let template : Template := ⟨"/items", [.literal "items"], by decide +kernel, by decide +kernel⟩
  have compiled : Template.compile configured.path = .ok template :=
    Template.compile_eq_ok_iff.2 path.symm
  obtain ⟨route, made⟩ := Registration.exists_route? (r := configured.registration) compiled
  obtain ⟨own, same⟩ := Registration.method_template_of_route? made
  have items : route.template = template := Except.ok.inj (same.symm.trans compiled)
  have fits : route.fit? (normalizeMethod (normalizeMethod "POST")) (Path.normalize "/items") =
      some ∅ := by
    unfold Route.fit?
    rw [own, items]
    change (if normalizeMethod configured.method = _ then _ else _) = _
    rw [method]
    decide +kernel
  let gateway : Gateway Command := ⟨⟨[route]⟩, ∅, ⟨"gateway", "test", none, false⟩⟩
  have live : isHealthPath "/items" = false := by decide +kernel
  have matched : gateway.table.match? (normalizeMethod "POST") "/items" = some ⟨0, route, ∅⟩ :=
    Table.match?_eq_some_iff.2 ⟨rfl, fits, fun i before => absurd before (Nat.not_lt_zero i)⟩
  exact ⟨gateway, ⟨0, route, ∅⟩, Config.table_of_singleton rfl made, rfl, rfl, made,
    fun query body identity => ⟨_, routed_context live matched⟩⟩

end HttpGateway
