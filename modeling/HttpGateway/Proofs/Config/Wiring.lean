import HttpGateway.Config.Check
import HttpGateway.Config.Wiring
import HttpGateway.Proofs.Access.Building
import HttpGateway.Proofs.Access.Denial
import HttpGateway.Proofs.Gateway.Mediation
import HttpGateway.Proofs.Routing.Capture
import HttpGateway.Proofs.Routing.Registration
import Mathlib.Data.List.Forall2

/-!
# A checked configuration can be built

Checking a configuration and building what it describes are two passes over it. The first section
says what a configuration without findings is like, and the others what each of the builders makes
of such a one: the registry has exactly the configured policies, the table one route for each
configured route, and a route asks for registered policies alone. So no request is ever denied
because a policy is not there (`Config.wiring_of_checked`).
-/

namespace HttpGateway

/-! ## What a check finds -/

/-- The names of policies without findings are distinct, and none was seen before. -/
theorem nodup_of_policyFindings_eq_nil {seen : List String} {policies : List PolicyConfig}
    (clean : policyFindings seen policies = []) :
    (policies.map PolicyConfig.name).Nodup ∧ ∀ policy ∈ policies, policy.name ∉ seen := by
  induction policies generalizing seen with
  | nil => simp
  | cons policy rest ih =>
    unfold policyFindings at clean
    split at clean
    · cases clean
    split at clean
    · cases clean
    · next new =>
      obtain ⟨distinct, unseen⟩ := ih clean
      refine ⟨List.nodup_cons.2 ⟨fun mem => ?_, distinct⟩, fun other mem => ?_⟩
      · obtain ⟨other, mem, same⟩ := List.mem_map.1 mem
        exact unseen other mem (same ▸ List.mem_cons_self)
      · rcases List.mem_cons.1 mem with rfl | mem
        · simpa using new
        · exact fun seen => unseen other mem (List.mem_cons_of_mem _ seen)

namespace Config

variable {config : Config}

/-- If routes are without findings, then so is each of them, under some number. -/
theorem exists_routeFindings_eq_nil {index : Nat} {routes : List RouteConfig}
    (clean : config.routesFindings index routes = []) {route : RouteConfig}
    (mem : route ∈ routes) : ∃ number, config.routeFindings number route = [] := by
  induction routes generalizing index with
  | nil => cases mem
  | cons first rest ih =>
    obtain ⟨head, tail⟩ := List.append_eq_nil_iff.1 clean
    rcases List.mem_cons.1 mem with rfl | mem
    · exact ⟨index, head⟩
    · exact ih tail mem

/-- The template of a route without findings compiles, and the policies that it names are
defined. -/
theorem of_routeFindings_eq_nil {number : Nat} {route : RouteConfig}
    (clean : config.routeFindings number route = []) :
    (∃ template, Template.compile route.path = .ok template) ∧
      ∀ name ∈ route.policies, config.defines name = true := by
  simp only [routeFindings, List.append_eq_nil_iff, List.map_eq_nil_iff,
    List.filter_eq_nil_iff] at clean
  obtain ⟨⟨⟨-, compiles⟩, defined⟩, -⟩ := clean
  constructor
  · unfold templateFindings at compiles
    split at compiles
    · next template compiled => exact ⟨template, compiled⟩
    · cases compiles
  · intro name named
    simpa using defined name named

/-- The parts of a configuration without findings are without findings. -/
theorem parts_of_findings_eq_nil (clean : config.findings = []) :
    policyFindings [] config.policies = [] ∧ config.routesFindings 0 config.routes = [] := by
  simp only [findings, List.append_eq_nil_iff] at clean
  exact ⟨clean.1.1.1, clean.1.1.2⟩

end Config

/-! ## The registry -/

/-- The policy that a configuration describes. -/
def PolicyConfig.policy (configured : PolicyConfig) : Policy where
  name := configured.name
  roles := .ofList configured.roles
  claims := configured.claims.map Names.ofList
  predicates := []

/-- Asking for claims one after the other widens the claims of a policy alone. -/
theorem Policy.foldl_requireClaim (claims : List (String × List String)) (policy : Policy) :
    (claims.map fun claim => Step.requireClaim claim.1 claim.2).foldl apply policy =
      { policy with
        claims := claims.foldl (fun rules claim => rules.widen claim.1 claim.2) policy.claims } := by
  induction claims generalizing policy with
  | nil => rfl
  | cons claim rest ih =>
    rw [List.map_cons, List.foldl_cons, ih]
    rfl

/-- The steps of a configured policy build the policy that it describes. -/
theorem PolicyConfig.ofSteps_steps (configured : PolicyConfig) :
    Policy.ofSteps configured.name configured.steps = configured.policy := by
  unfold Policy.ofSteps steps
  rw [List.foldl_cons, Policy.foldl_requireClaim]
  change Policy.mk _ _ (configured.claims.entries.foldl _ (∅ : ClaimRules)) _ = _
  rw [ClaimRules.foldl_widen_entries]
  rfl

/-- Policies with distinct names that a registry does not have yet can be added one after the
other. -/
theorem Registry.foldlM_add {policies : List PolicyConfig}
    (distinct : (policies.map PolicyConfig.name).Nodup) {registry : Registry}
    (fresh : ∀ configured ∈ policies, registry.get? configured.name = none) :
    policies.foldlM (fun registry policy => registry.add policy.name policy.steps) registry =
      .ok ⟨(policies.map fun configured => (configured.name, configured.policy)).foldl
        (fun registered entry => registered.insert entry.1 entry.2) registry.policies⟩ := by
  induction policies generalizing registry with
  | nil => rfl
  | cons configured rest ih =>
    obtain ⟨new, others⟩ := List.nodup_cons.1 distinct
    have absent : registry.policies.get? configured.name = none :=
      fresh configured List.mem_cons_self
    have added : registry.add configured.name configured.steps =
        .ok ⟨registry.policies.insert configured.name configured.policy⟩ := by
      simp [add, contains, Dict.contains, absent, configured.ofSteps_steps]
    rw [List.foldlM_cons, added]
    apply ih others
    intro other mem
    have differ : other.name ≠ configured.name := by
      intro same
      exact new (same ▸ List.mem_map_of_mem mem)
    change (registry.policies.insert _ _).get? _ = none
    rw [Dict.get?_insert, if_neg differ]
    exact fresh other (List.mem_cons_of_mem _ mem)

/-! ## The table -/

/-- Routes whose registrations stand for routes can be registered one after the other. -/
theorem Table.foldlM_register {routes : List RouteConfig} (table : Table Command)
    (made : ∀ configured ∈ routes, ∃ route, configured.registration.route? = .ok route) :
    ∃ added, routes.foldlM (fun table route => table.register route.registration) table =
        .ok ⟨table.routes ++ added⟩ ∧
      List.Forall₂ (fun configured route => configured.registration.route? = .ok route)
        routes added := by
  induction routes generalizing table with
  | nil => exact ⟨[], by rw [List.append_nil]; rfl, .nil⟩
  | cons configured rest ih =>
    obtain ⟨route, first⟩ := made configured List.mem_cons_self
    have registered : table.register configured.registration = .ok ⟨table.routes ++ [route]⟩ :=
      register_eq_ok_iff.2 ⟨route, first, rfl⟩
    obtain ⟨added, done, all⟩ := ih ⟨table.routes ++ [route]⟩ fun other mem =>
      made other (List.mem_cons_of_mem _ mem)
    refine ⟨route :: added, ?_, .cons first all⟩
    rw [List.foldlM_cons, registered]
    rw [List.append_assoc] at done
    exact done

/-- In two lists that are related place by place, each member of the second has a member of the
first that is related to it. -/
theorem exists_rel_of_mem {α β : Type} {R : α → β → Prop} {l : List α} {m : List β}
    (all : List.Forall₂ R l m) {b : β} (mem : b ∈ m) : ∃ a ∈ l, R a b := by
  induction all with
  | nil => cases mem
  | cons first _ ih =>
    rcases List.mem_cons.1 mem with rfl | mem
    · exact ⟨_, List.mem_cons_self, first⟩
    · obtain ⟨a, there, related⟩ := ih mem
      exact ⟨a, List.mem_cons_of_mem _ there, related⟩

/-- The only step of a route that asks for a policy is the one that names it. -/
theorem Route.Step.requirePolicy_mem_access_iff {step : Step} {name : String} :
    .requirePolicy name ∈ step.access ↔ step = .requirePolicy name := by
  cases step <;> simp [access, eq_comm]

/-- The route of a configured route asks for the policies that are configured for it. -/
theorem RouteConfig.mem_policies_iff {configured : RouteConfig} {route : Route Command}
    (made : configured.registration.route? = .ok route) {name : String} :
    name ∈ route.requirement.policies ↔ name ∈ configured.policies := by
  have built := Registration.requirement_of_route? made
  have fromSteps : name ∈ route.requirement.policies ↔
      Route.Step.requirePolicy name ∈ configured.steps := by
    rw [built, Requirement.ofSteps, Requirement.mem_policies_applyAll_iff, List.mem_flatMap]
    simp [Route.Step.requirePolicy_mem_access_iff, Requirement.authenticated, registration]
  rw [fromSteps]
  simp [steps]

/-! ## The gateway -/

namespace Config

variable {config : Config}

/-- Policies with distinct names make up a registry that has each of them under its name and
nothing else. -/
theorem exists_registry (distinct : (config.policies.map PolicyConfig.name).Nodup) :
    ∃ registry, config.registry = .ok registry ∧ registry.size = config.policies.length ∧
      ∀ name policy, registry.get? name = some policy ↔
        ∃ configured ∈ config.policies, configured.name = name ∧ configured.policy = policy := by
  let named := config.policies.map fun configured => (configured.name, configured.policy)
  have keys : (named.map Prod.fst).Nodup := by
    simpa [named, Function.comp_def] using distinct
  refine ⟨⟨.ofList named⟩, Registry.foldlM_add distinct fun _ _ => rfl, ?_, ?_⟩
  · exact (Dict.size_ofList keys).trans (List.length_map _)
  · intro name policy
    change (Dict.ofList named).get? name = some policy ↔ _
    rw [Dict.get?_ofList_eq_some_iff keys]
    simp [named]

/-- A defined policy is a configured one. -/
theorem exists_of_defines {name : String} (defined : config.defines name = true) :
    ∃ configured ∈ config.policies, configured.name = name := by
  obtain ⟨-, there⟩ := Bool.and_eq_true_iff.1 defined
  simpa using there

/-- For every configuration without findings the registry and the table can be built. The registry
has as many policies as are configured, and under each name the configured policy with that name,
with its roles and its claims. The table has one route for each configured route, in order, which
the registration of that route makes. Every policy that a route asks for is registered, so the
gateway denies no request because a policy is not there. -/
theorem wiring_of_checked (clean : config.findings = []) :
    ∃ registry table, config.registry = .ok registry ∧ config.table = .ok table ∧
      registry.size = config.policies.length ∧
      (∀ name policy, registry.get? name = some policy ↔
        ∃ configured ∈ config.policies, configured.name = name ∧
          policy = ⟨name, .ofList configured.roles, configured.claims.map Names.ofList, []⟩) ∧
      List.Forall₂ (fun configured route => configured.registration.route? = .ok route ∧
        route.method = normalizeMethod configured.method ∧
        route.template.raw = configured.path ∧
        ∀ name, name ∈ route.requirement.policies ↔ name ∈ configured.policies)
        config.routes table.routes ∧
      (∀ route ∈ table.routes, ∀ name ∈ route.requirement.policies,
        ∃ policy, registry.get? name = some policy) ∧
      ∀ settings request route outcome denial,
        (⟨table, registry, settings⟩ : Gateway Command).verdict request =
          .denied route outcome denial →
        ∀ name, denial.message ≠ "policy '" ++ name ++ "' not found" := by
  obtain ⟨policies, routes⟩ := parts_of_findings_eq_nil clean
  have sound : ∀ configured ∈ config.routes,
      (∃ template, Template.compile configured.path = .ok template) ∧
        ∀ name ∈ configured.policies, config.defines name = true := by
    intro configured mem
    obtain ⟨number, alone⟩ := exists_routeFindings_eq_nil routes mem
    exact of_routeFindings_eq_nil alone
  obtain ⟨registry, registered, size, entries⟩ :=
    exists_registry (nodup_of_policyFindings_eq_nil policies).1
  obtain ⟨added, tabled, made⟩ := Table.foldlM_register ∅ fun configured mem =>
    have ⟨_, compiled⟩ := (sound configured mem).1
    Registration.exists_route? compiled
  -- Checking and registering compare names alike, so a defined name is a registered one.
  have there : ∀ configured ∈ config.routes, ∀ name ∈ configured.policies,
      ∃ policy, registry.get? name = some policy := by
    intro configured mem name named
    obtain ⟨policy, listed, same⟩ := exists_of_defines ((sound configured mem).2 name named)
    exact ⟨policy.policy, (entries name _).2 ⟨policy, listed, same, rfl⟩⟩
  have known : ∀ route ∈ added, ∀ name ∈ route.requirement.policies,
      ∃ policy, registry.get? name = some policy := by
    intro route mem name named
    obtain ⟨configured, listed, stands⟩ := exists_rel_of_mem made mem
    exact there configured listed name ((RouteConfig.mem_policies_iff stands).1 named)
  refine ⟨registry, ⟨added⟩, registered, tabled, size, ?_, ?_, known, ?_⟩
  · intro name policy
    rw [entries]
    constructor
    · rintro ⟨configured, mem, rfl, rfl⟩
      exact ⟨configured, mem, rfl, rfl⟩
    · rintro ⟨configured, mem, rfl, rfl⟩
      exact ⟨configured, mem, rfl, rfl⟩
  · refine made.imp fun configured route made => ?_
    obtain ⟨method, compiled⟩ := Registration.method_template_of_route? made
    exact ⟨made, method, Template.compile_eq_ok_iff.1 compiled, fun name =>
      RouteConfig.mem_policies_iff made⟩
  · intro settings request route outcome denial verdict name words
    obtain ⟨found, context, routed, denied⟩ := Gateway.exists_routed_of_verdict_denied verdict
    obtain rfl := Denial.message_eq_unknownPolicy_iff.1 words
    cases Access.arises_of_authorize denied with
    | unknownPolicy named missing =>
      obtain ⟨policy, held⟩ := known found.route (Table.mem_routes_of_match? routed.matched) name
        named
      simp [held] at missing

/-- A configuration with a policy and a route that asks for it, each name in its own letter case,
is wired soundly. -/
theorem wiring_of_checked_staff :
    let config : Config :=
      { policies := [⟨"Staff", ["admin"], .ofList [("tenant", ["a", "b"])]⟩,
          ⟨"staff", [], ∅⟩]
        routes := [⟨"get", "/items/\x7bid\x7d", "items.read", .ok, false, [], ["staff", "Staff"], ∅,
          none, ∅⟩] }
    config.findings = [] ∧ ∃ registry table,
      config.registry = .ok registry ∧ config.table = .ok table ∧
      registry.get? "Staff" = some ⟨"Staff", .ofList ["admin"],
        .ofList [("tenant", .ofList ["a", "b"])], []⟩ ∧
      table.routes.length = 1 := by
  intro config
  have clean : config.findings = [] := by decide +kernel
  obtain ⟨registry, table, registered, tabled, -, entries, routes, -⟩ := wiring_of_checked clean
  refine ⟨clean, registry, table, registered, tabled, ?_, routes.length_eq.symm⟩
  exact (entries "Staff" _).2 ⟨_, List.mem_cons_self, rfl, rfl⟩

end Config

end HttpGateway
