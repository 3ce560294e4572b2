import HttpGateway.Proofs.Access.Building
import HttpGateway.Proofs.Access.Denial
import HttpGateway.Proofs.Access.Identity
import HttpGateway.Proofs.Gateway.Mediation
import HttpGateway.Proofs.Routing.Capture
import HttpGateway.Proofs.Routing.Registration

/-!
# Who is told that he is not authenticated

The requirement of every route that was registered asks for a claim of any kind. A caller without
claims therefore either passes, because the route lets everyone pass, or is told that he is not
authenticated; a caller with claims is never told so. `Gateway.secure_by_default` follows this from
the steps that build a requirement to the reply.
-/

namespace HttpGateway

variable {κ : Type}

/-- The requirement of a route in a built table asks for a claim of any kind. -/
theorem Table.Built.requiresAuthentication {table : Table κ} (built : table.Built)
    {route : Route κ} (mem : route ∈ table.routes) :
    route.requirement.requiresAuthentication = true := by
  obtain ⟨r, made⟩ := built.exists_registration mem
  rw [Registration.requirement_of_route? made]
  exact Requirement.requiresAuthentication_applyAll _ rfl

namespace Gateway

variable {gateway : Gateway κ} {request : Request} {found : Match κ} {context : Context}
  {denial : Denial}

/-- The route of a routed request is one of the table. -/
theorem Routed.mem_routes (routed : gateway.Routed request found context) :
    found.route ∈ gateway.table.routes :=
  Table.mem_routes_of_match? routed.matched

/-- At a gateway with a built table, a routed request is denied for lack of authentication exactly
when its caller has no claims. -/
theorem Routed.notAuthenticated_iff (built : gateway.table.Built)
    (routed : gateway.Routed request found context)
    (denied : Access.authorize gateway.registry context found.route.requirement =
      .error denial) :
    denial = .notAuthenticated ↔ request.identity.claims = ∅ := by
  rw [← routed.claims]
  constructor
  · rintro rfl
    cases Access.arises_of_authorize denied with
    | notAuthenticated stranger => exact stranger
  · intro stranger
    have asked := built.requiresAuthentication routed.mem_routes
    rw [Access.authorize_of_claims_eq_empty asked stranger] at denied
    split at denied
    · cases denied
    · exact (Except.error.inj denied).symm

/-- A denial of a caller without claims is answered with 401, any other with 403. -/
theorem Routed.answers_denied (routed : gateway.Routed request found context)
    (denied : Access.authorize gateway.registry context found.route.requirement =
      .error denial) :
    (request.identity.claims = ∅ → gateway.Answers request fun _ =>
      .unauthenticated denial.message) ∧
    (request.identity.claims ≠ ∅ → gateway.Answers request fun _ =>
      .forbidden denial.message) := by
  have answers : gateway.Answers request _ :=
    answers_of_verdict_denied (routed.verdict_denied denied)
  rw [← routed.claims]
  refine ⟨fun stranger => ?_, fun known => ?_⟩
  · rwa [if_pos (Dict.isEmpty_iff.2 stranger)] at answers
  · rwa [if_neg (mt Dict.isEmpty_iff.1 known)] at answers

/-- A requirement that was built in steps from that for any claim, from that for no claim, or from
the default lets a caller without claims pass exactly when it was made anonymous, and tells him
otherwise that he is not authenticated, whatever policies are registered. At a gateway with a built
table, a denied request is answered with 401 and these words exactly when its caller has no claims,
and else with 403 and other words. A caller has no claims exactly when there are no token claims,
or none of them, and no context, or none but null values in it. -/
theorem secure_by_default (gateway : Gateway κ) :
    (∀ (start : Requirement) (steps : List Requirement.Step) (registry : Registry)
        (context : Context), start = default ∨ start = .authenticated ∨ start = .anonymous →
      context.claims = ∅ →
        Access.authorize registry context (start.applyAll steps) =
          if start = .anonymous ∨ .allowAnonymous ∈ steps then .ok ()
          else .error .notAuthenticated) ∧
    Denial.notAuthenticated.message = "not authenticated" ∧
    (gateway.table.Built → ∀ request found context denial,
      gateway.Routed request found context →
      Access.authorize gateway.registry context found.route.requirement = .error denial →
        (gateway.Answers request (fun _ => ⟨.unauthorized, ∅, some (.ofMembers
          [("error", .string "Unauthorized"), ("details", .string "not authenticated")])⟩) ↔
          request.identity.claims = ∅) ∧
        (request.identity.claims ≠ ∅ → denial.message ≠ "not authenticated" ∧
          gateway.Answers request fun _ => ⟨.forbidden, ∅, some (.ofMembers
            [("error", .string "Forbidden"), ("details", .string denial.message)])⟩)) ∧
    ∀ identity : Identity, identity.claims = ∅ ↔
      (identity.tokenClaims = none ∨ identity.tokenClaims = some ∅) ∧
        (identity.context = none ∨ ∃ context, identity.context = some context ∧
          ∀ name value, context.get? name = some value → value = .null) := by
  refine ⟨?_, rfl, ?_, fun identity => Identity.claims_eq_empty_iff⟩
  · intro start steps registry context origin stranger
    have asked : start.requiresAuthentication = true := by
      rcases origin with rfl | rfl | rfl <;> rfl
    have anonymous : start.allowsAnonymous = true ↔ start = .anonymous := by
      rcases origin with rfl | rfl | rfl <;> decide
    rw [Access.authorize_applyAll_of_claims_eq_empty asked stranger]
    simp only [anonymous]
  · intro built request found context denial routed denied
    obtain ⟨unknown, known⟩ := routed.answers_denied denied
    have reason := routed.notAuthenticated_iff built denied
    refine ⟨⟨fun answers => ?_, fun stranger => ?_⟩, fun claims => ⟨?_, known claims⟩⟩
    · refine Decidable.byContradiction fun claims => ?_
      have replies := Answers.unique answers (known claims)
      have statuses : Status.unauthorized = Status.forbidden :=
        congrArg (fun reply => (reply ⟨0, 1, 1, 0, 0, 0, 0⟩).status) replies
      exact absurd statuses (by decide)
    · have answers : gateway.Answers request _ := unknown stranger
      rwa [reason.2 stranger] at answers
    · exact fun words => claims (reason.1 (Denial.message_eq_notAuthenticated_iff.1 words))

/-- A route for a role answers a stranger with 401 and a reader with 403. -/
theorem secure_by_default_role :
    ∃ (gateway : Gateway Unit) (stranger reader : Request), gateway.table.Built ∧
      (gateway.Answers stranger fun _ => ⟨.unauthorized, ∅, some (.ofMembers
        [("error", .string "Unauthorized"), ("details", .string "not authenticated")])⟩) ∧
      gateway.Answers reader fun _ => ⟨.forbidden, ∅, some (.ofMembers
        [("error", .string "Forbidden"),
          ("details", .string "missing required role (one of: admin)")])⟩ := by
  let template : Template := ⟨"/items", [.literal "items"], by decide +kernel, by decide +kernel⟩
  let steps : List Route.Step := [.requireRole ["admin"]]
  let route : Route Unit := Route.configure
    ⟨normalizeMethod "get", template, fun _ => .ok (), .ok, .authenticated, none, []⟩ steps
  have compiled : Template.compile "/items" = .ok template := Template.compile_eq_ok_iff.2 rfl
  have made : (⟨"get", "/items", .ok, fun _ => .ok (), steps⟩ : Registration Unit).route? =
      .ok route := by
    unfold Registration.route? Registration.plainRoute?
    rw [compiled]
    rfl
  let gateway : Gateway Unit := ⟨⟨[route]⟩, ∅, ⟨"gateway", "test", none, false⟩⟩
  have built : gateway.table.Built :=
    Table.Built.empty.register _ (Table.register_eq_ok_iff.2 ⟨route, made, rfl⟩)
  let visit : Identity → Request := fun identity => ⟨"GET", "/items", ∅, ∅, [], identity⟩
  have live : isHealthPath "/items" = false := by decide +kernel
  have fits : route.fit? (normalizeMethod (normalizeMethod "GET")) (Path.normalize "/items") =
      some ∅ := by decide +kernel
  have routed : ∀ identity, gateway.Routed (visit identity) ⟨0, route, ∅⟩
      (gateway.context (visit identity) ⟨0, route, ∅⟩) := fun identity =>
    routed_context live (Table.match?_eq_some_iff.2
      ⟨rfl, fits, fun i before => absurd before (Nat.not_lt_zero i)⟩)
  let reader : Identity := ⟨some (.ofList [("role", "reader")]), none⟩
  obtain ⟨-, -, denials, -⟩ := secure_by_default gateway
  refine ⟨gateway, visit .anonymous, visit reader, built, ?_, ?_⟩
  · exact (denials built _ _ _ .notAuthenticated (routed .anonymous) (by decide +kernel)).1.2 rfl
  · have denied := denials built _ _ _ (.rule (.role (.ofList ["admin"]))) (routed reader)
      (by decide +kernel)
    have words : (Denial.rule (.role (.ofList ["admin"]))).message =
        "missing required role (one of: admin)" := by decide +kernel
    have answers : gateway.Answers (visit reader) _ := (denied.2 (by decide +kernel)).2
    rwa [words] at answers

end Gateway

end HttpGateway
