import HttpGateway.Proofs.Access.Decision
import HttpGateway.Proofs.Access.Token

/-!
# What a decision reads of a context

Without predicates a decision reads nothing of a context but its claims (`authorize_eq_of_claims`),
and of a claim nothing but its tokens, letter case apart (`authorize_eq_of_agree`). Claims grow when
each of them keeps all its tokens: as roles in any case, and as values at least where the
requirement or one of its policies lists accepted values. A requirement without predicates that
permits a context permits every one whose claims have grown (`Permits.of_grows`). So more claims,
and claims that go on after a comma or white space, never mean less access
(`authorize_of_continues`).
-/

namespace HttpGateway.Access

variable {registry : Registry} {requirement : Requirement} {first second : Context}

/-- No policy that a requirement names has predicates. -/
def Unpredicated (registry : Registry) (requirement : Requirement) : Prop :=
  ∀ name ∈ requirement.policies, ∀ policy, registry.get? name = some policy →
    policy.predicates = []

/-- The requirement or a policy that it names lists accepted values for a claim type. -/
def AsksValues (registry : Registry) (requirement : Requirement) (type : String) : Prop :=
  ∃ accepted : Names, accepted ≠ ∅ ∧
    (requirement.claims.get? type = some accepted ∨
      ∃ name ∈ requirement.policies, ∃ policy, registry.get? name = some policy ∧
        policy.claims.get? type = some accepted)

/-! ## The claims alone -/

/-- Two texts have the same tokens, letter case apart, whether they are read as roles or as
values. -/
structure SameTokens (raw other : String) : Prop where
  /-- The tokens of roles are the same. -/
  roles : (roleTokens raw).map Text.lowercase = (roleTokens other).map Text.lowercase
  /-- The tokens of values are the same. -/
  values : (claimTokens raw).map Text.lowercase = (claimTokens other).map Text.lowercase

/-- A text that may be missing has the same tokens as itself. -/
theorem SameTokens.refl (raw : Option String) : Option.Rel SameTokens raw raw := by
  cases raw with
  | none => exact .none
  | some raw => exact .some ⟨rfl, rfl⟩

/-- Claims agree when they are of the same types and those of one type have the same tokens. -/
def Agree (claims others : Dict String) : Prop :=
  ∀ type, Option.Rel SameTokens (claims.get? type) (others.get? type)

/-- Claims agree with themselves. -/
theorem Agree.refl (claims : Dict String) : Agree claims claims := fun _ => SameTokens.refl _

/-- Claims agree both ways. -/
theorem Agree.symm {claims others : Dict String} (agree : Agree claims others) :
    Agree others claims := by
  intro type
  have both := agree type
  generalize claims.get? type = raw, others.get? type = other at both
  cases both with
  | none => exact .none
  | some same => exact .some ⟨same.roles.symm, same.values.symm⟩

/-- Tokens that are the same, letter case apart, meet the same accepted texts. -/
theorem meets_congr {tokens others : List String}
    (same : tokens.map Text.lowercase = others.map Text.lowercase) (accepted : Names) :
    meets tokens accepted = meets others accepted := by
  have folded : ∀ list : List String, meets list accepted = (list.map Text.lowercase).any
      fun token => accepted.toList.any fun name => Text.lowercase name == token := by
    intro list
    rw [List.any_map]
    rfl
  rw [folded, folded, same]

section

variable {claims others : Dict String}

/-- Claims that agree are of the same types. -/
theorem Agree.get?_eq_none_iff (agree : Agree claims others) (type : String) :
    claims.get? type = none ↔ others.get? type = none := by
  have both := agree type
  generalize claims.get? type = raw, others.get? type = other at both
  cases both with
  | none => exact Iff.rfl
  | some same => simp

/-- Claims that agree are empty together. -/
theorem Agree.isEmpty_eq (agree : Agree claims others) : claims.isEmpty = others.isEmpty := by
  rw [Bool.eq_iff_iff, Dict.isEmpty_iff, Dict.isEmpty_iff, Dict.eq_empty_iff, Dict.eq_empty_iff]
  exact forall_congr' agree.get?_eq_none_iff

/-- The check of roles is the same on claims that have the same roles in every type, letter case
apart. -/
theorem checkRoles_congr (same : ∀ type,
    (claims.get? type).map (fun raw => (roleTokens raw).map Text.lowercase) =
      (others.get? type).map fun raw => (roleTokens raw).map Text.lowercase) (accepted : Names) :
    checkRoles claims accepted = checkRoles others accepted := by
  have held : ((roleClaimTypes.filterMap claims.get?).any fun raw =>
      meets (roleTokens raw) accepted) =
        (roleClaimTypes.filterMap others.get?).any fun raw => meets (roleTokens raw) accepted := by
    rw [List.any_filterMap, List.any_filterMap]
    congr 1
    funext type
    have both := same type
    generalize claims.get? type = raw, others.get? type = other at both
    cases raw <;> cases other
    case none.none => rfl
    case some.some => exact meets_congr (Option.some.inj both) accepted
    all_goals contradiction
  unfold checkRoles
  rw [held]

/-- The check of roles is the same on claims that agree. -/
theorem Agree.checkRoles_eq (agree : Agree claims others) (accepted : Names) :
    checkRoles claims accepted = checkRoles others accepted := by
  refine checkRoles_congr (fun type => ?_) accepted
  have both := agree type
  generalize claims.get? type = raw, others.get? type = other at both
  cases both with
  | none => rfl
  | some same => exact congrArg some same.roles

/-- The check of a claim is the same on claims that agree. -/
theorem Agree.checkClaim_eq (agree : Agree claims others) (type : String) (accepted : Names) :
    checkClaim claims type accepted = checkClaim others type accepted := by
  have both := agree type
  unfold checkClaim
  generalize claims.get? type = raw, others.get? type = other at both
  cases both with
  | none => rfl
  | some same => simp only [meets_congr same.values accepted]

/-- Passes over a list that agree at its members agree. -/
theorem forM_congr {ε α : Type} {f g : α → Except ε Unit} {l : List α}
    (agree : ∀ a ∈ l, f a = g a) : l.forM f = l.forM g := by
  induction l with
  | nil => rfl
  | cons a rest ih =>
    obtain ⟨head, tail⟩ := List.forall_mem_cons.1 agree
    change (f a >>= fun _ => rest.forM f) = (g a >>= fun _ => rest.forM g)
    rw [head, ih tail]

/-- The check of claims is the same on claims that agree. -/
theorem Agree.checkClaims_eq (agree : Agree claims others) (rules : ClaimRules) :
    checkClaims claims rules = checkClaims others rules :=
  forM_congr fun rule _ => agree.checkClaim_eq rule.1 rule.2

end

/-- Without predicates the check of a policy is the same on contexts whose claims agree. -/
theorem checkPolicy_eq_of_agree {policy : Policy} (none : policy.predicates = [])
    (agree : Agree first.claims second.claims) :
    checkPolicy first policy = checkPolicy second policy := by
  unfold checkPolicy
  rw [none, agree.checkRoles_eq, agree.checkClaims_eq]
  rfl

/-- Without predicates a decision is the same on contexts whose claims agree. -/
theorem authorize_eq_of_agree (unpredicated : Unpredicated registry requirement)
    (agree : Agree first.claims second.claims) :
    authorize registry first requirement = authorize registry second requirement := by
  have policies : requirement.policies.forM (checkNamed registry first) =
      requirement.policies.forM (checkNamed registry second) := by
    apply forM_congr
    intro name named
    unfold checkNamed
    cases found : registry.get? name with
    | none => rfl
    | some policy =>
      have none := unpredicated name named policy found
      simp only [checkPolicy_eq_of_agree none agree]
  unfold authorize
  rw [agree.isEmpty_eq, agree.checkRoles_eq, agree.checkClaims_eq, policies]

/-- Without predicates a decision reads the claims alone. -/
theorem authorize_eq_of_claims (unpredicated : Unpredicated registry requirement)
    (same : first.claims = second.claims) :
    authorize registry first requirement = authorize registry second requirement :=
  authorize_eq_of_agree unpredicated (same ▸ .refl _)

/-! ## Claims that grow -/

/-- Each claim of the first dictionary is one of the second, where it has all its tokens when they
are read as roles, and when they are read as values, if its type is one of which values are
asked. -/
def Grows (asked : String → Prop) (first second : Dict String) : Prop :=
  ∀ type raw, first.get? type = some raw → ∃ more, second.get? type = some more ∧
    roleTokens raw ⊆ roleTokens more ∧ (asked type → claimTokens raw ⊆ claimTokens more)

/-- Claims grow when one of them is put in with more tokens. -/
theorem grows_insert {asked : String → Prop} {type raw more : String}
    (roles : roleTokens raw ⊆ roleTokens more)
    (values : asked type → claimTokens raw ⊆ claimTokens more) (claims : Dict String) :
    Grows asked (claims.insert type raw) (claims.insert type more) := by
  intro other found there
  rw [Dict.get?_insert] at there
  by_cases same : other = type
  · rw [if_pos same, Option.some.injEq] at there
    subst there same
    exact ⟨more, by rw [Dict.get?_insert, if_pos rfl], roles, values⟩
  · rw [if_neg same] at there
    have kept : (claims.insert type more).get? other = some found := by
      rw [Dict.get?_insert, if_neg same]
      exact there
    exact ⟨found, kept, List.Subset.refl _, fun _ => List.Subset.refl _⟩

/-- More tokens meet what fewer meet. -/
theorem Meets.mono {tokens others : List String} {accepted : Names} (more : tokens ⊆ others) :
    Meets tokens accepted → Meets others accepted
  | ⟨token, held, name, mem, same⟩ => ⟨token, more held, name, mem, same⟩

section

variable {asked : String → Prop} {claims grown : Dict String}

/-- Claims that have grown hold the roles that they held. -/
theorem HoldsRole.of_grows (grows : Grows asked claims grown) {accepted : Names}
    (holds : HoldsRole claims accepted) : HoldsRole grown accepted := by
  rcases holds with unasked | ⟨type, recognised, raw, found, meets⟩
  · exact .inl unasked
  · obtain ⟨more, there, roles, -⟩ := grows type raw found
    exact .inr ⟨type, recognised, more, there, meets.mono roles⟩

/-- Claims that have grown hold the claims that they held, if accepted values are listed only for
types of which values are asked. -/
theorem HoldsClaims.of_grows (grows : Grows asked claims grown) {rules : ClaimRules}
    (listed : ∀ type accepted, rules.get? type = some accepted → accepted ≠ ∅ → asked type)
    (holds : HoldsClaims claims rules) : HoldsClaims grown rules := by
  intro type accepted rule
  obtain ⟨raw, found, meets⟩ := holds type accepted rule
  obtain ⟨more, there, -, values⟩ := grows type raw found
  refine ⟨more, there, ?_⟩
  by_cases present : accepted = ∅
  · exact .inl present
  · have tokens := values (listed type accepted rule present)
    exact .inr ((meets.resolve_left present).mono tokens)

/-- Claims that have grown are no fewer. -/
theorem Grows.ne_empty (grows : Grows asked claims grown) (filled : claims ≠ ∅) : grown ≠ ∅ := by
  intro none
  apply filled
  rw [Dict.eq_empty_iff]
  intro type
  cases found : claims.get? type with
  | none => rfl
  | some raw =>
    obtain ⟨more, there, -⟩ := grows type raw found
    have missing := Dict.eq_empty_iff.1 none type
    rw [there] at missing
    contradiction

end

/-- A requirement without predicates that permits a context permits every one whose claims have
grown. -/
theorem Permits.of_grows (unpredicated : Unpredicated registry requirement)
    (grows : Grows (AsksValues registry requirement) first.claims second.claims)
    (permits : Permits registry requirement first) : Permits registry requirement second where
  identity needs := grows.ne_empty (permits.identity needs)
  role := permits.role.of_grows grows
  claims := permits.claims.of_grows grows fun _ accepted rule present =>
    ⟨accepted, present, .inl rule⟩
  policies name named := by
    obtain ⟨policy, found, role, claims, -⟩ := permits.policies name named
    refine ⟨policy, found, role.of_grows grows, claims.of_grows grows ?_, ?_⟩
    · intro type accepted rule present
      exact ⟨accepted, present, .inr ⟨name, named, policy, found, rule⟩⟩
    · rw [unpredicated name named policy found]
      exact List.forall_mem_nil _

/-- A requirement allows the contexts that it permits, and all if it allows anonymous callers. -/
theorem authorize_eq_ok_iff : authorize registry first requirement = .ok () ↔
    requirement.allowsAnonymous = true ∨ Permits registry requirement first := by
  cases leave : requirement.allowsAnonymous with
  | true => simp [authorize, leave]
  | false =>
    rw [(authorize_decides registry first leave).eq_ok_iff, forall_requirementChecks_iff]
    simp

/-- A requirement without predicates allows every context whose claims have grown from one that it
allows. -/
theorem authorize_of_grows (unpredicated : Unpredicated registry requirement)
    (grows : Grows (AsksValues registry requirement) first.claims second.claims)
    (allowed : authorize registry first requirement = .ok ()) :
    authorize registry second requirement = .ok () :=
  authorize_eq_ok_iff.2
    ((authorize_eq_ok_iff.1 allowed).imp_right (Permits.of_grows unpredicated grows))

/-! ## Claims that go on -/

/-- A value is kept, or goes on with any text after a comma or white space. -/
inductive Continues (raw : String) : String → Prop
  /-- It is kept. -/
  | kept : Continues raw raw
  /-- It goes on after a comma or white space. -/
  | further {c : Char} (parted : c = ',' ∨ Text.isBlank c = true) (rest : String) :
    Continues raw (raw ++ String.singleton c ++ rest)

/-- A value that goes on keeps its tokens, whether they are read as roles or as values. -/
theorem Continues.tokens {raw more : String} (continues : Continues raw more) :
    roleTokens raw ⊆ roleTokens more ∧ claimTokens raw ⊆ claimTokens more := by
  cases continues with
  | kept => exact ⟨List.Subset.refl _, List.Subset.refl _⟩
  | @further c parted rest =>
    have separator : isSeparator c = true := by
      simpa [isSeparator] using parted
    have chars : (raw ++ String.singleton c ++ rest).toList = raw.toList ++ c :: rest.toList := by
      simp
    unfold roleTokens claimTokens
    rw [chars]
    exact ⟨((roleTokenChars_isPrefix separator _ _).map _).subset,
      ((tokenChars_isPrefix separator _ _).map _).subset⟩

/-- A caller who is allowed stays allowed with more claims and with claims that go on after a comma
or white space, if the policies that the requirement names have no predicates. -/
theorem authorize_of_continues (unpredicated : Unpredicated registry requirement)
    (continued : ∀ type raw, first.claims.get? type = some raw →
      ∃ more, second.claims.get? type = some more ∧ Continues raw more)
    (allowed : authorize registry first requirement = .ok ()) :
    authorize registry second requirement = .ok () := by
  apply authorize_of_grows unpredicated _ allowed
  intro type raw found
  obtain ⟨more, there, continues⟩ := continued type raw found
  obtain ⟨roles, values⟩ := continues.tokens
  exact ⟨more, there, roles, fun _ => values⟩

/-- An array of groups that goes on after a blank with the start of another array, a scope that goes
on after a comma and one more claim keep a caller allowed. -/
theorem authorize_of_continues_array : ∃ (registry : Registry) (requirement : Requirement)
    (claims more : Dict String), requirement.policies = ["Readers"] ∧
      claims.get? "groups" = some "[\"Admin\"]" ∧ claims.get? "scope" = some "'read'" ∧
      more.get? "groups" = some "[\"Admin\"] [\"Audit" ∧ more.get? "scope" = some "'read',\"" ∧
      claims.get? "tenant" = none ∧ more.get? "tenant" = some "7" ∧
      authorizeClaims registry claims requirement = .ok () ∧
      authorizeClaims registry more requirement = .ok () := by
  let registry : Registry := ⟨Dict.insert ∅ "Readers"
    (Policy.ofSteps "Readers" [.requireClaim "scope" ["READ"]])⟩
  let requirement : Requirement := .ofSteps [.requireRole "admin", .requirePolicy "Readers"]
  let claims : Dict String := .ofList [("groups", "[\"Admin\"]"), ("scope", "'read'")]
  let more : Dict String :=
    .ofList [("groups", "[\"Admin\"] [\"Audit"), ("scope", "'read',\""), ("tenant", "7")]
  have unpredicated : Unpredicated registry requirement := by
    intro name named policy found
    obtain rfl : name = "Readers" := List.mem_singleton.1 named
    obtain rfl := Option.some.inj found
    rfl
  have groups : Continues "[\"Admin\"]" "[\"Admin\"] [\"Audit" :=
    .further (c := ' ') (.inr (by decide)) "[\"Audit"
  have scope : Continues "'read'" "'read',\"" := .further (.inl rfl) "\""
  have continued : ∀ type raw, claims.get? type = some raw →
      ∃ further, more.get? type = some further ∧ Continues raw further := by
    intro type raw found
    have mem := Dict.get?_eq_some_iff.1 found
    have entries : claims.entries = [("groups", "[\"Admin\"]"), ("scope", "'read'")] := by
      decide +kernel
    rw [entries, List.mem_cons, List.mem_singleton, Prod.mk.injEq, Prod.mk.injEq] at mem
    rcases mem with ⟨rfl, rfl⟩ | ⟨rfl, rfl⟩
    · exact ⟨_, by decide +kernel, groups⟩
    · exact ⟨_, by decide +kernel, scope⟩
  have allowed : authorize registry (.ofClaims claims) requirement = .ok () := by decide +kernel
  exact ⟨registry, requirement, claims, more, by decide +kernel, by decide +kernel,
    by decide +kernel, by decide +kernel, by decide +kernel, by decide +kernel, by decide +kernel,
    allowed, authorize_of_continues unpredicated continued allowed⟩

end HttpGateway.Access
