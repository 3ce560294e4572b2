import HttpGateway.Access.Authorization
import HttpGateway.Proofs.Dict
import Mathlib.Data.List.Basic

/-!
# Requirements built in steps

No step takes away what a requirement asks for: from whatever it started, a requirement built in
steps asks for a claim of any kind, and it lets every caller pass only if it did so at the start or
a step said so. Every such trait of a requirement is there after steps if it was there before or if
one of the steps gives it (`Requirement.GivenBy.applyAll_iff`). For a caller without claims a
requirement that was built so decides by the leave for every caller alone
(`Access.authorize_applyAll_of_claims_eq_empty`). It asks for exactly the policies that steps name,
and rules widened by the claims of a dictionary are that dictionary.
-/

namespace HttpGateway

namespace Requirement

/-- A trait of requirements is given by the steps of a kind: it holds after a step if it held before
or if the step is of that kind. -/
def GivenBy (trait : Requirement → Prop) (kind : Step → Prop) : Prop :=
  ∀ requirement step, trait (requirement.apply step) ↔ trait requirement ∨ kind step

/-- After steps a trait holds if it held before or if one of them is of the kind that gives it. -/
theorem GivenBy.applyAll_iff {trait : Requirement → Prop} {kind : Step → Prop}
    (given : GivenBy trait kind) {requirement : Requirement} {steps : List Step} :
    trait (requirement.applyAll steps) ↔ trait requirement ∨ ∃ step ∈ steps, kind step := by
  induction steps generalizing requirement with
  | nil => simp [applyAll]
  | cons step rest ih =>
    change trait ((requirement.apply step).applyAll rest) ↔ _
    rw [ih, given, List.exists_mem_cons_iff, or_assoc]

/-- That a claim of any kind has to be there is given by every step but the leave for every
caller. -/
theorem givenBy_requiresAuthentication :
    GivenBy (fun requirement => requirement.requiresAuthentication = true)
      (· ≠ .allowAnonymous) := by
  intro requirement step
  cases step <;> simp [apply]

/-- Steps keep that a claim of any kind has to be there. -/
theorem requiresAuthentication_applyAll {requirement : Requirement} (steps : List Step)
    (asked : requirement.requiresAuthentication = true) :
    (requirement.applyAll steps).requiresAuthentication = true :=
  givenBy_requiresAuthentication.applyAll_iff.2 (.inl asked)

/-- Leave for every caller is given by the step that says so. -/
theorem givenBy_allowsAnonymous :
    GivenBy (fun requirement => requirement.allowsAnonymous = true) (· = .allowAnonymous) := by
  intro requirement step
  cases step <;> simp [apply]

/-- After steps every caller may pass if he might before, or if one of the steps says so. -/
theorem allowsAnonymous_applyAll_iff {requirement : Requirement} {steps : List Step} :
    (requirement.applyAll steps).allowsAnonymous = true ↔
      requirement.allowsAnonymous = true ∨ .allowAnonymous ∈ steps := by
  rw [givenBy_allowsAnonymous.applyAll_iff, exists_eq_right]

/-- Asking for a policy is given by the step that names the policy. -/
theorem givenBy_mem_policies (name : String) :
    GivenBy (fun requirement => name ∈ requirement.policies) (· = .requirePolicy name) := by
  intro requirement step
  cases step with
  | requirePolicy other =>
    simp only [apply, Step.requirePolicy.injEq]
    split
    · next known =>
      constructor
      · exact .inl
      · rintro (there | rfl)
        · exact there
        · simpa using known
    · rw [List.mem_append, List.mem_singleton, eq_comm (a := name)]
  | _ => simp [apply]

/-- Steps ask for the policies that they name, and keep all that are asked for. -/
theorem mem_policies_applyAll_iff {requirement : Requirement} {steps : List Step}
    {name : String} :
    name ∈ (requirement.applyAll steps).policies ↔
      name ∈ requirement.policies ∨ .requirePolicy name ∈ steps := by
  rw [(givenBy_mem_policies name).applyAll_iff, exists_eq_right]

/-- Accepting a role is given by the step that names the role. -/
theorem givenBy_mem_roles (name : String) :
    GivenBy (fun requirement => name ∈ requirement.roles.toList) (· = .requireRole name) := by
  intro requirement step
  cases step with
  | requireRole other =>
    simp only [apply, Names.mem_toList_add, Step.requireRole.injEq]
    rw [eq_comm (a := name)]
  | _ => simp [apply]

end Requirement

/-! ## Rules for claims -/

/-- The values that rules accept for a claim type; none are listed for a type that is not asked
for or whose presence is enough. -/
def ClaimRules.accepted (rules : ClaimRules) (type : String) : Names := (rules.get? type).getD ∅

namespace ClaimRules

variable {rules others : ClaimRules} {type other : String} {values : List String} {name : String}

/-- A claim type with accepted values is asked for. -/
theorem get?_eq_some_accepted (filled : rules.accepted type ≠ ∅) :
    rules.get? type = some (rules.accepted type) := by
  unfold accepted at filled ⊢
  cases asked : rules.get? type with
  | none =>
    rw [asked] at filled
    exact absurd rfl filled
  | some names => rfl

/-- Widening rules puts in the claim type with its values and the further ones. -/
theorem get?_widen : (rules.widen type values).get? other =
    if other = type then some ((rules.accepted type).addAll values) else rules.get? other :=
  Dict.get?_insert rules type other _

/-- Widening rules asks for the claim type, and keeps all that are asked for. -/
theorem get?_widen_ne_none_iff : (rules.widen type values).get? other ≠ none ↔
    rules.get? other ≠ none ∨ type = other := by
  rw [get?_widen]
  by_cases same : other = type
  · simp [same]
  · simp [same, Ne.symm same]

/-- Widening rules accepts the values for the claim type, and keeps all that are accepted. -/
theorem mem_accepted_widen : name ∈ ((rules.widen type values).accepted other).toList ↔
    name ∈ (rules.accepted other).toList ∨ type = other ∧ name ∈ values := by
  unfold accepted
  rw [get?_widen]
  by_cases same : other = type
  · simp [same, accepted, Names.mem_toList_addAll]
  · simp [same, Ne.symm same]

/-- Rules are equal that ask for the same claim types and accept the same values for each. -/
theorem ext_accepted (types : ∀ type, rules.get? type ≠ none ↔ others.get? type ≠ none)
    (values : ∀ type name,
      name ∈ (rules.accepted type).toList ↔ name ∈ (others.accepted type).toList) :
    rules = others := by
  apply Dict.ext_get?
  intro type
  have asked := types type
  have same : rules.accepted type = others.accepted type := Names.ext_mem (values type)
  unfold accepted at same
  cases own : rules.get? type <;> cases its : others.get? type <;> simp_all

end ClaimRules

namespace Requirement

/-- Asking for a claim type is given by the steps that name the type. -/
theorem givenBy_claimType (type : String) :
    GivenBy (fun requirement => requirement.claims.get? type ≠ none)
      (fun step => ∃ values, step = .requireClaim type values) := by
  intro requirement step
  cases step with
  | requireClaim other values =>
    simp only [apply, ClaimRules.get?_widen_ne_none_iff]
    simp
  | _ => simp [apply]

/-- Accepting a value for a claim type is given by the steps that name the type with the value. -/
theorem givenBy_claimValue (type name : String) :
    GivenBy (fun requirement => name ∈ (requirement.claims.accepted type).toList)
      (fun step => ∃ values, step = .requireClaim type values ∧ name ∈ values) := by
  intro requirement step
  cases step with
  | requireClaim other values =>
    simp only [apply, ClaimRules.mem_accepted_widen]
    simp
  | _ => simp [apply]

end Requirement

/-- Widening rules by claims of distinct types that they do not have yet puts in each claim with
its values. -/
theorem ClaimRules.foldl_widen {claims : List (String × List String)}
    (distinct : (claims.map Prod.fst).Nodup) {rules : ClaimRules}
    (fresh : ∀ type ∈ claims.map Prod.fst, rules.get? type = none) :
    claims.foldl (fun rules claim => rules.widen claim.1 claim.2) rules =
      (claims.map fun claim => (claim.1, Names.ofList claim.2)).foldl
        (fun rules entry => rules.insert entry.1 entry.2) rules := by
  induction claims generalizing rules with
  | nil => rfl
  | cons claim rest ih =>
    obtain ⟨new, others⟩ := List.nodup_cons.1 distinct
    have put : rules.widen claim.1 claim.2 = rules.insert claim.1 (Names.ofList claim.2) := by
      rw [widen, fresh claim.1 List.mem_cons_self]
      rfl
    rw [List.foldl_cons, List.map_cons, List.foldl_cons, put]
    apply ih others
    intro type mem
    have differ : type ≠ claim.1 := by
      rintro rfl
      exact new mem
    rw [Dict.get?_insert, if_neg differ]
    exact fresh type (List.mem_cons_of_mem _ mem)

/-- Widening no rules by the claims of a dictionary gives the dictionary with its lists as sets. -/
theorem ClaimRules.foldl_widen_entries (claims : Dict (List String)) :
    claims.entries.foldl (fun rules claim => rules.widen claim.1 claim.2) (∅ : ClaimRules) =
      claims.map Names.ofList := by
  rw [foldl_widen claims.keys_nodup fun _ _ => rfl, ← Dict.entries_map]
  exact Dict.ofList_entries _

namespace Access

variable {registry : Registry} {context : Context} {requirement : Requirement}

/-- A caller without claims passes a requirement that asks for any claim only if every caller may
pass, and is otherwise told that he is not authenticated. -/
theorem authorize_of_claims_eq_empty (asked : requirement.requiresAuthentication = true)
    (stranger : context.claims = ∅) :
    authorize registry context requirement =
      if requirement.allowsAnonymous then .ok () else .error .notAuthenticated := by
  have needs : requirement.needsIdentity = true := by simp [Requirement.needsIdentity, asked]
  have unknown : context.claims.isEmpty = true := Dict.isEmpty_iff.2 stranger
  simp only [authorize, needs, unknown, Bool.and_self, ↓reduceIte]

/-- Steps that start from a requirement for any claim let a caller without claims pass only if
every caller might pass at the start or a step lets every caller pass. -/
theorem authorize_applyAll_of_claims_eq_empty {steps : List Requirement.Step}
    (asked : requirement.requiresAuthentication = true) (stranger : context.claims = ∅) :
    authorize registry context (requirement.applyAll steps) =
      if requirement.allowsAnonymous = true ∨ .allowAnonymous ∈ steps then .ok ()
      else .error .notAuthenticated := by
  rw [authorize_of_claims_eq_empty (Requirement.requiresAuthentication_applyAll steps asked)
    stranger]
  simp only [Requirement.allowsAnonymous_applyAll_iff]

end Access

end HttpGateway
