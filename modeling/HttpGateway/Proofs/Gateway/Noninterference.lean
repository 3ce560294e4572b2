import HttpGateway.Proofs.Access.Growth
import HttpGateway.Proofs.Config.Wiring

/-!
# What cannot sway a decision

A policy of a configuration has no predicates (`Config.plain_of_registry`), and without predicates
a decision is made on the claims alone. So for a gateway with configured policies the query, the
header fields and the body of a request cannot sway whether it is denied, nor can they be told from
the reply to a denial (`Gateway.denied_noninterference`).
-/

namespace HttpGateway

/-! ## Registries without predicates -/

/-- No policy of a registry has predicates. -/
def Registry.Plain (registry : Registry) : Prop :=
  ∀ name policy, registry.get? name = some policy → policy.predicates = []

namespace Registry

variable {registry result : Registry}

/-- A registry without policies is plain. -/
theorem plain_empty : Plain ∅ := by
  intro name policy found
  cases found

/-- A configured policy can be added to a plain registry, which stays plain. -/
theorem Plain.add {configured : PolicyConfig} (plain : registry.Plain)
    (added : registry.add configured.name configured.steps = .ok result) : result.Plain := by
  unfold Registry.add at added
  rw [configured.ofSteps_steps] at added
  split at added
  · contradiction
  · obtain rfl := Except.ok.inj added
    intro name policy found
    change (registry.policies.insert configured.name configured.policy).get? name = _ at found
    rw [Dict.get?_insert] at found
    by_cases same : name = configured.name
    · rw [if_pos same, Option.some.injEq] at found
      rw [← found]
      rfl
    · rw [if_neg same] at found
      exact plain name policy found

/-- A plain registry stays plain while configured policies are added. -/
theorem Plain.foldlM_add {policies : List PolicyConfig} (plain : registry.Plain)
    (built : policies.foldlM (fun registry policy => registry.add policy.name policy.steps)
      registry = .ok result) : result.Plain := by
  induction policies generalizing registry with
  | nil =>
    obtain rfl := Except.ok.inj built
    exact plain
  | cons configured rest ih =>
    rw [List.foldlM_cons] at built
    cases added : registry.add configured.name configured.steps with
    | error fault =>
      rw [added] at built
      contradiction
    | ok next =>
      rw [added] at built
      exact ih (plain.add added) built

end Registry

/-- The registry of a configuration is plain. -/
theorem Config.plain_of_registry {config : Config} {registry : Registry}
    (built : config.registry = .ok registry) : registry.Plain :=
  Registry.plain_empty.foldlM_add built

/-- In a plain registry no requirement finds predicates. -/
theorem Registry.Plain.unpredicated {registry : Registry} (plain : registry.Plain)
    (requirement : Requirement) : Access.Unpredicated registry requirement :=
  fun name _ policy found => plain name policy found

/-! ## Two requests -/

namespace Gateway

variable {κ : Type} {gateway : Gateway κ} {first second : Request}

/-- A route was found for a request, and its requirement denies the context of the request. -/
def Denies (gateway : Gateway κ) (request : Request) (denial : Denial) : Prop :=
  ∃ found context, gateway.Routed request found context ∧
    Access.authorize gateway.registry context found.route.requirement = .error denial

/-- Two requests have the same method, the same path and the same caller. -/
structure Alike (first second : Request) : Prop where
  /-- The method is the same. -/
  method : first.method = second.method
  /-- The path is the same. -/
  path : first.path = second.path
  /-- What is known of the caller is the same. -/
  identity : first.identity = second.identity

/-- Requests are alike both ways. -/
theorem Alike.symm (alike : Alike first second) : Alike second first :=
  ⟨alike.method.symm, alike.path.symm, alike.identity.symm⟩

/-- A request with the method and the path of a routed one is routed to the same route. -/
theorem Routed.again {found : Match κ} {context : Context}
    (routed : gateway.Routed first found context) (method : first.method = second.method)
    (path : first.path = second.path) :
    gateway.Routed second found (gateway.context second found) := by
  have same : gateway.path first = gateway.path second := by
    unfold Gateway.path
    rw [path]
  have live := routed.live
  have matched := routed.matched
  rw [same] at live
  rw [same, method] at matched
  exact routed_context live matched

/-- Where policies are plain, a request with the method and the path of a denied one, and claims
that agree with those of its caller, is denied for the same reason, and there is one reply to
both. -/
theorem Denies.of_agree {denial : Denial} (denied : gateway.Denies first denial)
    (plain : gateway.registry.Plain) (method : first.method = second.method)
    (path : first.path = second.path)
    (agree : Access.Agree first.identity.claims second.identity.claims) :
    gateway.Denies second denial ∧
      ∃ reply : Reply, gateway.Answers first (fun _ => reply) ∧
        gateway.Answers second fun _ => reply := by
  obtain ⟨found, context, routed, refused⟩ := denied
  have other := routed.again method path
  rw [← routed.claims, ← other.claims] at agree
  have again : Access.authorize gateway.registry (gateway.context second found)
      found.route.requirement = .error denial := by
    rw [← Access.authorize_eq_of_agree (plain.unpredicated _) agree]
    exact refused
  -- Whether the reply is 401 or 403 depends on the claims alone as well.
  let outcome : DenialOutcome := if context.claims.isEmpty then .unauthenticated else .forbidden
  have verdict : gateway.verdict first = .denied found.route outcome denial :=
    routed.verdict_denied refused
  have verdictOther : gateway.verdict second = .denied found.route outcome denial := by
    have verdict := other.verdict_denied again
    rwa [← agree.isEmpty_eq] at verdict
  exact ⟨⟨found, _, other, again⟩, denialReply outcome denial,
    answers_of_verdict_denied verdict, answers_of_verdict_denied verdictOther⟩

/-- Where policies are plain, a request that is like a denied one is denied for the same reason, and
there is one reply to both. -/
theorem Alike.denies (alike : Alike first second) (plain : gateway.registry.Plain)
    {denial : Denial} (denied : gateway.Denies first denial) :
    gateway.Denies second denial ∧
      ∃ reply : Reply, gateway.Answers first (fun _ => reply) ∧
        gateway.Answers second fun _ => reply :=
  Denies.of_agree denied plain alike.method alike.path (alike.identity ▸ .refl _)

/-- Take a gateway with the policies of a configuration, and two requests with the same method, the
same path and the same caller. Either both are denied for the same reason and answered with the same
reply, whatever the sender of commands does, or neither is denied. More generally, where no policy
has predicates a decision on a context is the decision on its claims. -/
theorem denied_noninterference {config : Config} (built : config.registry = .ok gateway.registry)
    (method : first.method = second.method) (path : first.path = second.path)
    (identity : first.identity = second.identity) :
    ((∃ (denial : Denial) (reply : Reply), gateway.Denies first denial ∧
        gateway.Denies second denial ∧ gateway.Answers first (fun _ => reply) ∧
        gateway.Answers second fun _ => reply) ∨
      ∀ denial, ¬ gateway.Denies first denial ∧ ¬ gateway.Denies second denial) ∧
    ∀ (registry : Registry), registry.Plain → ∀ (context : Context) (requirement : Requirement),
      Access.authorize registry context requirement =
        Access.authorizeClaims registry context.claims requirement := by
  have alike : Alike first second := ⟨method, path, identity⟩
  have plain := Config.plain_of_registry built
  constructor
  · by_cases some : ∃ denial, gateway.Denies first denial
    · left
      obtain ⟨denial, denied⟩ := some
      obtain ⟨deniedOther, reply, answers, answersOther⟩ := alike.denies plain denied
      exact ⟨denial, reply, denied, deniedOther, answers, answersOther⟩
    · right
      intro denial
      refine ⟨fun denied => some ⟨denial, denied⟩, fun denied => some ⟨denial, ?_⟩⟩
      exact (alike.symm.denies plain denied).1
  · intro registry plain context requirement
    exact Access.authorize_eq_of_claims (plain.unpredicated requirement) rfl

/-- A reader is denied a route for the staff with one reply, whatever he sends. -/
theorem denied_noninterference_staff :
    ∃ (config : Config) (gateway : Gateway Unit) (first second : Request),
      config.registry = .ok gateway.registry ∧ first.query ≠ second.query ∧
      first.body ≠ second.body ∧ ∃ (denial : Denial) (reply : Reply),
        gateway.Denies first denial ∧ gateway.Denies second denial ∧
        gateway.Answers first (fun _ => reply) ∧ gateway.Answers second fun _ => reply := by
  let config : Config := { policies := [⟨"staff", ["admin"], ∅⟩] }
  let registry : Registry := ⟨.ofList [("staff", ⟨"staff", .ofList ["admin"], ∅, []⟩)]⟩
  let template : Template := ⟨"/items", [.literal "items"], by decide +kernel, by decide +kernel⟩
  let route : Route Unit := Route.configure
    ⟨"GET", template, fun _ => .ok (), .ok, .authenticated, none, []⟩ [.requirePolicy "staff"]
  let gateway : Gateway Unit := ⟨⟨[route]⟩, registry, ⟨"gateway", "test", none, false⟩⟩
  let visit : Dict String → List UInt8 → Request := fun query body =>
    ⟨"get", "/items", ∅, query, body, ⟨some (.ofList [("role", "reader")]), none⟩⟩
  let plain : Request := visit ∅ []
  let loaded : Request := visit (.ofList [("role", "admin")]) [0x5B, 0x5D]
  have built : config.registry = .ok gateway.registry := rfl
  have method : plain.method = loaded.method := rfl
  have live : isHealthPath "/items" = false := by decide +kernel
  have fits : route.fit? (normalizeMethod (normalizeMethod "get")) (Path.normalize "/items") =
      some ∅ := by decide +kernel
  have matched : gateway.table.match? (normalizeMethod "get") "/items" = some ⟨0, route, ∅⟩ :=
    Table.match?_eq_some_iff.2 ⟨rfl, fits, fun i before => absurd before (Nat.not_lt_zero i)⟩
  have denied : gateway.Denies plain (.policy "staff" (.role (.ofList ["admin"]))) :=
    ⟨_, _, routed_context live matched, by decide +kernel⟩
  refine ⟨config, gateway, plain, loaded, built, by decide +kernel, by decide +kernel, ?_⟩
  rcases (denied_noninterference built method rfl rfl).1 with both | neither
  · exact both
  · exact absurd denied (neither _).1

end Gateway

end HttpGateway
