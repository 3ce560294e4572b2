import HttpGateway.Access.Authorization
import HttpGateway.Proofs.Dict

/-!
# What an authorization decides

The decision has two readings beside the function that makes it. `Permits` says with quantifiers
what a requirement asks of a context. `requirementChecks` lists the single checks in the order in
which they are made, each with the cause that its failure gives; `FirstFails` picks the first
that does not hold. `authorize_decides` ties the function to both: it allows exactly what is
permitted, and denies with exactly the cause of the first failing check.
-/

namespace HttpGateway.Access

/-! ## The declarative reading -/

/-- One of the tokens equals one of the accepted texts, letter case apart. -/
def Meets (tokens : List String) (accepted : Names) : Prop :=
  ∃ token ∈ tokens, ∃ name ∈ accepted.toList, Text.lowercase token = Text.lowercase name

/-- No role is asked for, or a claim that may hold roles has a token among the accepted ones. -/
def HoldsRole (claims : Dict String) (accepted : Names) : Prop :=
  accepted = ∅ ∨
    ∃ type ∈ ["role", "roles", "cognito:groups", "groups"], ∃ raw, claims.get? type = some raw ∧
      Meets (roleTokens raw) accepted

/-- The claim is there, and has a token among the accepted values if any are given. -/
def HoldsClaim (claims : Dict String) (type : String) (accepted : Names) : Prop :=
  ∃ raw, claims.get? type = some raw ∧ (accepted = ∅ ∨ Meets (claimTokens raw) accepted)

/-- Every claim that is asked for is held. -/
def HoldsClaims (claims : Dict String) (rules : ClaimRules) : Prop :=
  ∀ type accepted, rules.get? type = some accepted → HoldsClaim claims type accepted

/-- The context has what a policy asks for. -/
structure Satisfies (context : Context) (policy : Policy) : Prop where
  /-- One of the roles. -/
  role : HoldsRole context.claims policy.roles
  /-- Every claim. -/
  claims : HoldsClaims context.claims policy.claims
  /-- Every predicate. -/
  predicates : ∀ predicate ∈ policy.predicates, predicate context = true

/-- The context has what a requirement asks for of a caller who is not let pass as anonymous. -/
structure Permits (registry : Registry) (requirement : Requirement) (context : Context) :
    Prop where
  /-- Some claim, if the requirement asks for anything. -/
  identity : requirement.needsIdentity = true → context.claims ≠ ∅
  /-- One of the roles. -/
  role : HoldsRole context.claims requirement.roles
  /-- Every claim. -/
  claims : HoldsClaims context.claims requirement.claims
  /-- Every policy, each of which has to be registered. -/
  policies : ∀ name ∈ requirement.policies, ∃ policy, registry.get? name = some policy ∧
    Satisfies context policy

/-! ## The checks in their order -/

/-- A condition on a context, and the cause that is given when it does not hold. -/
structure Check (ε : Type) where
  /-- The cause. -/
  cause : ε
  /-- The condition. -/
  Holds : Context → Prop

/-- The check with its cause put into another type. -/
def Check.map {ε δ : Type} (f : ε → δ) (check : Check ε) : Check δ := ⟨f check.cause, check.Holds⟩

/-- A cause is that of the first check of a list that does not hold. -/
inductive FirstFails {ε : Type} (context : Context) : List (Check ε) → ε → Prop
  /-- The first check does not hold. -/
  | head {check : Check ε} {rest : List (Check ε)} (fails : ¬ check.Holds context) :
      FirstFails context (check :: rest) check.cause
  /-- The first check holds, and the cause is that of a later one. -/
  | tail {check : Check ε} {rest : List (Check ε)} {cause : ε} (holds : check.Holds context)
      (later : FirstFails context rest cause) : FirstFails context (check :: rest) cause

/-- The check of the roles. -/
def roleCheck (accepted : Names) : Check Shortfall :=
  ⟨.role accepted, fun context => HoldsRole context.claims accepted⟩

/-- The checks of a claim: that it is there, and that it has an accepted value. -/
def claimChecks (type : String) (accepted : Names) : List (Check Shortfall) :=
  [⟨.claim type, fun context => ∃ raw, context.claims.get? type = some raw⟩,
    ⟨.value type accepted, fun context => HoldsClaim context.claims type accepted⟩]

/-- The checks of rules: the roles, then the claims in the order of their types. -/
def ruleChecks (roles : Names) (rules : ClaimRules) : List (Check Shortfall) :=
  roleCheck roles :: rules.entries.flatMap fun rule => claimChecks rule.1 rule.2

/-- The checks of predicates, the first of which has the given number. -/
def predicateChecks (number : Nat) (predicates : List (Context → Bool)) : List (Check Shortfall) :=
  (predicates.zipIdx number).map fun numbered =>
    ⟨.predicate numbered.2, fun context => numbered.1 context = true⟩

/-- The checks of a policy named by a requirement: that it is registered, then its rules, then its
predicates, numbered from one. -/
def policyChecks (registry : Registry) (name : String) : List (Check Denial) :=
  ⟨.unknownPolicy name, fun _ => ∃ policy, registry.get? name = some policy⟩ ::
    (registry.get? name).elim [] fun policy =>
      (ruleChecks policy.roles policy.claims ++ predicateChecks 1 policy.predicates).map
        (Check.map (.policy name))

/-- The checks of a requirement: some claim, the rules, then the policies in the order in which
they were named. -/
def requirementChecks (registry : Registry) (requirement : Requirement) : List (Check Denial) :=
  ⟨.notAuthenticated, fun context => requirement.needsIdentity = true → context.claims ≠ ∅⟩ ::
    (ruleChecks requirement.roles requirement.claims).map (Check.map .rule) ++
    requirement.policies.flatMap (policyChecks registry)

/-! ## Results that follow a list of checks -/

section Results

variable {ε δ α : Type} {context : Context}

/-- A failure in a list is the first failure also when more checks follow. -/
theorem FirstFails.append_left {first second : List (Check ε)} {cause : ε}
    (fails : FirstFails context first cause) : FirstFails context (first ++ second) cause := by
  induction fails with
  | head fails => exact .head fails
  | tail holds _ ih => exact .tail holds ih

/-- A failure in a list is the first failure also after checks that hold. -/
theorem FirstFails.append_right {first second : List (Check ε)} {cause : ε}
    (all : ∀ check ∈ first, check.Holds context) (fails : FirstFails context second cause) :
    FirstFails context (first ++ second) cause := by
  induction first with
  | nil => exact fails
  | cons check rest ih =>
    obtain ⟨holds, others⟩ := List.forall_mem_cons.1 all
    exact .tail holds (ih others)

/-- Checks of which one fails do not all hold. -/
theorem FirstFails.not_forall {checks : List (Check ε)} {cause : ε}
    (fails : FirstFails context checks cause) : ¬ ∀ check ∈ checks, check.Holds context := by
  induction fails with
  | head fails => exact fun all => fails (all _ List.mem_cons_self)
  | tail _ _ ih => exact fun all => ih fun check mem => all check (List.mem_cons_of_mem _ mem)

/-- Only one check of a list is the first that fails. -/
theorem FirstFails.cause_eq {checks : List (Check ε)} {cause other : ε}
    (fails : FirstFails context checks cause) (again : FirstFails context checks other) :
    cause = other := by
  induction fails with
  | head fails =>
    cases again with
    | head _ => rfl
    | tail holds _ => exact absurd holds fails
  | tail holds _ ih =>
    cases again with
    | head fails => exact absurd holds fails
    | tail _ later => exact ih later

/-- A result accepts when all checks hold, and else gives the cause of the first that does not. -/
def Decides (context : Context) (checks : List (Check ε)) : Except ε Unit → Prop
  | .ok _ => ∀ check ∈ checks, check.Holds context
  | .error cause => FirstFails context checks cause

/-- A result that follows a list of checks accepts exactly when all of them hold. -/
theorem Decides.eq_ok_iff {checks : List (Check ε)} {result : Except ε Unit}
    (decides : Decides context checks result) :
    result = .ok () ↔ ∀ check ∈ checks, check.Holds context := by
  cases result with
  | ok _ => exact ⟨fun _ => decides, fun _ => rfl⟩
  | error cause =>
    exact ⟨fun accepted => by simp at accepted, fun all => absurd all decides.not_forall⟩

/-- A result that follows a list of checks gives exactly the cause of the first that fails. -/
theorem Decides.eq_error_iff {checks : List (Check ε)} {result : Except ε Unit}
    (decides : Decides context checks result) {cause : ε} :
    result = .error cause ↔ FirstFails context checks cause := by
  cases result with
  | ok _ =>
    exact ⟨fun refused => by simp at refused, fun fails => absurd decides fails.not_forall⟩
  | error found =>
    refine ⟨fun same => Except.error.inj same ▸ decides, fun fails => ?_⟩
    rw [FirstFails.cause_eq decides fails]

/-- A result that follows a single check. -/
theorem decides_single {check : Check ε} {result : Except ε Unit}
    (accepted : check.Holds context → result = .ok ())
    (refused : ¬ check.Holds context → result = .error check.cause) :
    Decides context [check] result := by
  by_cases holds : check.Holds context
  · rw [accepted holds]
    exact List.forall_mem_singleton.2 holds
  · rw [refused holds]
    exact .head holds

/-- Two results one after the other follow their checks one after the other. -/
theorem Decides.append {first second : List (Check ε)} {before after : Except ε Unit}
    (left : Decides context first before) (right : Decides context second after) :
    Decides context (first ++ second) (before >>= fun _ => after) := by
  cases before with
  | error cause => exact left.append_left
  | ok _ =>
    cases after with
    | error cause => exact right.append_right left
    | ok _ => exact List.forall_mem_append.2 ⟨left, right⟩

/-- A pass over a list follows the checks of its members one after the other. -/
theorem decides_forM (checks : α → List (Check ε)) {f : α → Except ε Unit}
    (each : ∀ a, Decides context (checks a) (f a)) (l : List α) :
    Decides context (l.flatMap checks) (l.forM f) := by
  induction l with
  | nil => exact List.forall_mem_nil _
  | cons a rest ih => exact (each a).append ih

/-- A first failure with all causes put into another type. -/
theorem FirstFails.map {checks : List (Check ε)} {cause : ε}
    (fails : FirstFails context checks cause) (f : ε → δ) :
    FirstFails context (checks.map (Check.map f)) (f cause) := by
  induction fails with
  | head fails => exact .head fails
  | tail holds _ ih => exact .tail holds ih

/-- A result whose cause is put into another type follows the checks with their causes put into
that type. -/
theorem Decides.mapError {checks : List (Check ε)} {result : Except ε Unit}
    (decides : Decides context checks result) (f : ε → δ) :
    Decides context (checks.map (Check.map f)) (result.mapError f) := by
  cases result with
  | ok _ => exact List.forall_mem_map.2 decides
  | error cause => exact decides.map f

end Results

/-! ## The functions follow their checks -/

variable (registry : Registry) (context : Context)

/-- The comparison of tokens with accepted texts finds an equal pair if there is one. -/
theorem meets_iff {tokens : List String} {accepted : Names} :
    meets tokens accepted = true ↔ Meets tokens accepted := by
  simp only [meets, Meets, List.any_eq_true, beq_iff_eq]
  constructor <;>
    exact fun ⟨token, held, name, mem, same⟩ => ⟨token, held, name, mem, same.symm⟩

/-- The check of roles follows its declarative reading. -/
theorem checkRoles_decides (accepted : Names) :
    Decides context [roleCheck accepted] (checkRoles context.claims accepted) := by
  have found : ((roleClaimTypes.filterMap context.claims.get?).any fun raw =>
      meets (roleTokens raw) accepted) = true ↔
        ∃ type ∈ ["role", "roles", "cognito:groups", "groups"], ∃ raw,
          context.claims.get? type = some raw ∧ Meets (roleTokens raw) accepted := by
    simp only [List.any_eq_true, List.mem_filterMap, meets_iff, roleClaimTypes]
    constructor
    · rintro ⟨raw, ⟨type, mem, look⟩, meets⟩
      exact ⟨type, mem, raw, look, meets⟩
    · rintro ⟨type, mem, raw, look, meets⟩
      exact ⟨raw, ⟨type, mem, look⟩, meets⟩
  unfold checkRoles
  by_cases unasked : accepted = ∅
  · rw [if_pos (Dict.isEmpty_iff.2 unasked)]
    exact decides_single (fun _ => rfl) fun fails => absurd (.inl unasked) fails
  · rw [if_neg (mt Dict.isEmpty_iff.1 unasked)]
    refine decides_single (fun holds => if_pos (found.2 (holds.resolve_left unasked))) ?_
    exact fun fails => if_neg fun held => fails (.inr (found.1 held))

/-- The check of a claim follows its declarative reading. -/
theorem checkClaim_decides (type : String) (accepted : Names) :
    Decides context (claimChecks type accepted) (checkClaim context.claims type accepted) := by
  cases found : context.claims.get? type with
  | none =>
    have result : checkClaim context.claims type accepted = .error (.claim type) := by
      simp only [checkClaim, found]
    rw [result]
    refine .head fun held => ?_
    simp [found] at held
  | some raw =>
    have there : Decides context [⟨.claim type, fun context => ∃ raw, context.claims.get? type =
        some raw⟩] (.ok () : Except Shortfall Unit) :=
      List.forall_mem_singleton.2 ⟨raw, found⟩
    have reduced : checkClaim context.claims type accepted =
        if !accepted.isEmpty && !meets (claimTokens raw) accepted then
          .error (.value type accepted) else .ok () := by
      simp only [checkClaim, found]
    have condition : (!accepted.isEmpty && !meets (claimTokens raw) accepted) = true ↔
        ¬ HoldsClaim context.claims type accepted := by
      simp only [HoldsClaim, found, Option.some.injEq, exists_eq_left', ← Dict.isEmpty_iff,
        ← meets_iff, Bool.and_eq_true, Bool.not_eq_true', not_or, Bool.not_eq_true]
    rw [reduced]
    refine there.append (decides_single ?_ fun fails => if_pos (condition.2 fails))
    exact fun holds => if_neg fun fails => condition.1 fails holds

/-- The checks of claims follow their declarative readings, in the order of the types. -/
theorem checkClaims_decides (rules : ClaimRules) :
    Decides context (rules.entries.flatMap fun rule => claimChecks rule.1 rule.2)
      (checkClaims context.claims rules) :=
  decides_forM (fun rule => claimChecks rule.1 rule.2)
    (fun rule => checkClaim_decides context rule.1 rule.2) rules.entries

/-- The checks of predicates follow their declarative readings. -/
theorem checkPredicates_decides (number : Nat) (predicates : List (Context → Bool)) :
    Decides context (predicateChecks number predicates)
      (checkPredicates context number predicates) := by
  induction predicates generalizing number with
  | nil => exact List.forall_mem_nil _
  | cons predicate rest ih =>
    by_cases holds : predicate context = true
    · have result : checkPredicates context number (predicate :: rest) =
          checkPredicates context (number + 1) rest := by
        rw [checkPredicates, if_pos holds]
      have single : Decides context [⟨.predicate number, fun context => predicate context = true⟩]
          (.ok () : Except Shortfall Unit) :=
        List.forall_mem_singleton.2 holds
      rw [result]
      exact single.append (ih (number + 1))
    · rw [checkPredicates, if_neg holds]
      exact .head holds

/-- The checks of a policy follow their declarative readings: roles, claims, predicates. -/
theorem checkPolicy_decides (policy : Policy) :
    Decides context
      (ruleChecks policy.roles policy.claims ++ predicateChecks 1 policy.predicates)
      (checkPolicy context policy) :=
  (checkRoles_decides context policy.roles).append
    ((checkClaims_decides context policy.claims).append
      (checkPredicates_decides context 1 policy.predicates))

/-- The check of a named policy follows its declarative reading. -/
theorem checkNamed_decides (name : String) :
    Decides context (policyChecks registry name) (checkNamed registry context name) := by
  cases found : registry.get? name with
  | none =>
    simp only [checkNamed, policyChecks, found]
    exact .head (by simp)
  | some policy =>
    have there : Decides context [⟨.unknownPolicy name, fun _ => ∃ policy, registry.get? name =
        some policy⟩] (.ok () : Except Denial Unit) :=
      List.forall_mem_singleton.2 ⟨policy, found⟩
    have result : checkNamed registry context name =
        (checkPolicy context policy).mapError (.policy name) := by
      simp only [checkNamed, found]
    have listed : policyChecks registry name =
        ⟨.unknownPolicy name, fun _ => ∃ policy, registry.get? name = some policy⟩ ::
          (ruleChecks policy.roles policy.claims ++ predicateChecks 1 policy.predicates).map
            (Check.map (.policy name)) := by
      simp only [policyChecks, found, Option.elim_some]
    rw [result, listed]
    exact there.append ((checkPolicy_decides context policy).mapError (Denial.policy name))

/-- Without leave for anonymous callers, a decision follows the checks of the requirement. -/
theorem authorize_decides {requirement : Requirement}
    (named : requirement.allowsAnonymous = false) :
    Decides context (requirementChecks registry requirement)
      (authorize registry context requirement) := by
  have rules := ((checkRoles_decides context requirement.roles).mapError Denial.rule).append
    (((checkClaims_decides context requirement.claims).mapError Denial.rule).append
      (decides_forM (policyChecks registry) (checkNamed_decides registry context)
        requirement.policies))
  by_cases stranger : requirement.needsIdentity = true ∧ context.claims = ∅
  · have refused : authorize registry context requirement = .error .notAuthenticated := by
      simp [authorize, named, stranger.1, Dict.isEmpty_iff.2 stranger.2]
    rw [refused]
    exact .head fun holds => holds stranger.1 stranger.2
  · have passed : ¬ (requirement.needsIdentity && context.claims.isEmpty) = true := by
      rw [Bool.and_eq_true, Dict.isEmpty_iff]
      exact stranger
    have known : Decides context [⟨.notAuthenticated, fun context =>
        requirement.needsIdentity = true → context.claims ≠ ∅⟩] (.ok () : Except Denial Unit) :=
      List.forall_mem_singleton.2 fun needed none => stranger ⟨needed, none⟩
    have result := known.append rules
    unfold authorize
    rw [if_neg (by simp [named]), if_neg passed]
    exact result

/-! ## The two readings agree -/

variable {registry context}

/-- Causes do not matter for whether checks hold. -/
theorem forall_map_iff {ε δ : Type} {checks : List (Check ε)} (f : ε → δ) :
    (∀ check ∈ checks.map (Check.map f), check.Holds context) ↔
      ∀ check ∈ checks, check.Holds context :=
  List.forall_mem_map

/-- The checks of a claim hold when the claim is held. -/
theorem forall_claimChecks_iff {type : String} {accepted : Names} :
    (∀ check ∈ claimChecks type accepted, check.Holds context) ↔
      HoldsClaim context.claims type accepted := by
  simp only [claimChecks, List.forall_mem_cons, List.not_mem_nil, false_implies, implies_true,
    and_true]
  exact ⟨fun both => both.2, fun held => ⟨⟨held.choose, held.choose_spec.1⟩, held⟩⟩

/-- The checks of rules hold when one of the roles and every claim is held. -/
theorem forall_ruleChecks_iff {roles : Names} {rules : ClaimRules} :
    (∀ check ∈ ruleChecks roles rules, check.Holds context) ↔
      HoldsRole context.claims roles ∧ HoldsClaims context.claims rules := by
  rw [ruleChecks, List.forall_mem_cons]
  refine and_congr Iff.rfl ?_
  constructor
  · intro all type accepted asked
    refine forall_claimChecks_iff.1 fun check mem => all check ?_
    exact List.mem_flatMap.2 ⟨(type, accepted), Dict.get?_eq_some_iff.1 asked, mem⟩
  · intro held check mem
    obtain ⟨⟨type, accepted⟩, asked, inClaim⟩ := List.mem_flatMap.1 mem
    have claim := held type accepted (Dict.get?_eq_some_iff.2 asked)
    exact forall_claimChecks_iff.2 claim check inClaim

/-- The checks of predicates hold when every predicate does, from whatever number they count. -/
theorem forall_predicateChecks_iff {number : Nat} {predicates : List (Context → Bool)} :
    (∀ check ∈ predicateChecks number predicates, check.Holds context) ↔
      ∀ predicate ∈ predicates, predicate context = true := by
  induction predicates generalizing number with
  | nil => simp [predicateChecks]
  | cons predicate rest ih =>
    have head : predicateChecks number (predicate :: rest) =
        ⟨.predicate number, fun context => predicate context = true⟩ ::
          predicateChecks (number + 1) rest := rfl
    rw [head, List.forall_mem_cons, List.forall_mem_cons, ih]

/-- The checks of a named policy hold when it is registered and the context has what it asks
for. -/
theorem forall_policyChecks_iff {name : String} :
    (∀ check ∈ policyChecks registry name, check.Holds context) ↔
      ∃ policy, registry.get? name = some policy ∧ Satisfies context policy := by
  rw [policyChecks, List.forall_mem_cons]
  cases found : registry.get? name with
  | none => simp
  | some policy =>
    have rules : (∀ check ∈ (ruleChecks policy.roles policy.claims ++
        predicateChecks 1 policy.predicates).map (Check.map (Denial.policy name)),
          check.Holds context) ↔ Satisfies context policy := by
      rw [forall_map_iff, List.forall_mem_append, forall_ruleChecks_iff,
        forall_predicateChecks_iff]
      exact ⟨fun ⟨⟨role, claims⟩, predicates⟩ => ⟨role, claims, predicates⟩,
        fun ⟨role, claims, predicates⟩ => ⟨⟨role, claims⟩, predicates⟩⟩
    simp only [Option.elim_some, rules, Option.some.injEq, exists_eq', exists_eq_left', true_and]

/-- The checks of a requirement hold when the context has what the requirement asks for. -/
theorem forall_requirementChecks_iff {requirement : Requirement} :
    (∀ check ∈ requirementChecks registry requirement, check.Holds context) ↔
      Permits registry requirement context := by
  have rules : (∀ check ∈ (ruleChecks requirement.roles requirement.claims).map
      (Check.map Denial.rule), check.Holds context) ↔
        HoldsRole context.claims requirement.roles ∧
          HoldsClaims context.claims requirement.claims :=
    (forall_map_iff Denial.rule).trans forall_ruleChecks_iff
  have policies : (∀ check ∈ requirement.policies.flatMap (policyChecks registry),
      check.Holds context) ↔ ∀ name ∈ requirement.policies,
        ∃ policy, registry.get? name = some policy ∧ Satisfies context policy := by
    constructor
    · intro all name mem
      refine forall_policyChecks_iff.1 fun check inPolicy => all check ?_
      exact List.mem_flatMap.2 ⟨name, mem, inPolicy⟩
    · intro satisfied check mem
      obtain ⟨name, named, inPolicy⟩ := List.mem_flatMap.1 mem
      exact forall_policyChecks_iff.2 (satisfied name named) check inPolicy
  rw [requirementChecks, List.cons_append, List.forall_mem_cons, List.forall_mem_append, rules,
    policies]
  exact ⟨fun ⟨identity, ⟨role, claims⟩, policies⟩ => ⟨identity, role, claims, policies⟩,
    fun ⟨identity, role, claims, policies⟩ => ⟨identity, ⟨role, claims⟩, policies⟩⟩

/-- A request may pass exactly when the requirement allows anonymous callers or the context has
what it asks for, and the cause of a denial is that of the first check that fails: any claim at
all, the roles, the claims in the order of their types, and the policies in the order in which
they were named, each with its roles, its claims and its predicates counted from one. -/
theorem authorize_eq_iff (registry : Registry) (context : Context) (requirement : Requirement) :
    (authorize registry context requirement = .ok () ↔
      requirement.allowsAnonymous = true ∨ Permits registry requirement context) ∧
    ∀ denial, authorize registry context requirement = .error denial ↔
      requirement.allowsAnonymous = false ∧
        FirstFails context (requirementChecks registry requirement) denial := by
  cases leave : requirement.allowsAnonymous with
  | true => simp [authorize, leave]
  | false =>
    have decides := authorize_decides registry context leave
    rw [decides.eq_ok_iff, forall_requirementChecks_iff]
    exact ⟨by simp, fun denial => by simpa using decides.eq_error_iff⟩

end HttpGateway.Access
