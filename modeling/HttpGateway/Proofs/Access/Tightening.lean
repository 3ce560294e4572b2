import HttpGateway.Proofs.Access.Building
import HttpGateway.Proofs.Access.Decision
import Mathlib.Data.List.Nodup
import Mathlib.Data.List.Perm.Basic

/-!
# Requirements that let fewer callers pass

A requirement tightens another when each of its parts asks for as much: a set of names that is empty
asks for nothing, and one that is not asks for the more the fewer names it has. A caller who passes
a requirement passes every one that it tightens (`Access.authorize_of_tightens`). So each step in
building a requirement goes one way, which depends on what was set before
(`Access.authorize_apply`), and steps that are the same as a set build requirements that tighten
each other (`Requirement.ofSteps_alike`).
-/

namespace HttpGateway

/-! ## Tighter names -/

/-- The first set of accepted names lets no more pass than the second: the second is empty, so it
accepts whatever there is, or the first has some of its names and no others. -/
def Names.Narrows (fewer more : Names) : Prop :=
  more = ∅ ∨ fewer ≠ ∅ ∧ ∀ name ∈ fewer.toList, name ∈ more.toList

/-- A set of accepted names narrows itself. -/
theorem Names.Narrows.refl (names : Names) : names.Narrows names := by
  by_cases none : names = ∅
  · exact .inl none
  · exact .inr ⟨none, fun _ mem => mem⟩

/-- Accepted names narrow those with further names, if there are any. -/
theorem Names.narrows_addAll {names : Names} (some : names ≠ ∅) (list : List String) :
    names.Narrows (names.addAll list) :=
  .inr ⟨some, fun _ mem => mem_toList_addAll.2 (.inl mem)⟩

namespace Requirement

/-- The first requirement lets no more callers pass than the second, part by part. -/
structure Tightens (tight loose : Requirement) : Prop where
  /-- It lets every caller pass only if the second does. -/
  anonymous : tight.allowsAnonymous = true → loose.allowsAnonymous = true
  /-- It asks for anything if the second does. -/
  identity : loose.needsIdentity = true → tight.needsIdentity = true
  /-- Its roles narrow those of the second. -/
  roles : tight.roles.Narrows loose.roles
  /-- It asks for every claim that the second asks for, and its accepted values narrow those of the
  second. -/
  claims : ∀ type more, loose.claims.get? type = some more →
    ∃ fewer, tight.claims.get? type = some fewer ∧ fewer.Narrows more
  /-- It asks for every policy that the second asks for. -/
  policies : ∀ name ∈ loose.policies, name ∈ tight.policies

/-- A requirement tightens itself. -/
theorem Tightens.refl (requirement : Requirement) : requirement.Tightens requirement where
  anonymous := id
  identity := id
  roles := .refl _
  claims _ _ asked := ⟨_, asked, .refl _⟩
  policies _ named := named

/-- A requirement asks for something if it asks for a claim of any kind, a policy, a role or a
claim. -/
theorem needsIdentity_iff {requirement : Requirement} : requirement.needsIdentity = true ↔
    requirement.requiresAuthentication = true ∨ requirement.policies ≠ [] ∨
      requirement.roles ≠ ∅ ∨ requirement.claims ≠ ∅ := by
  simp only [needsIdentity, Bool.or_eq_true, Bool.not_eq_true', ← Bool.not_eq_true,
    List.isEmpty_iff, Dict.isEmpty_iff, or_assoc, ne_eq]

end Requirement

namespace Access

variable {registry : Registry} {context : Context}

/-- Tokens that meet accepted names meet further ones. -/
theorem Meets.of_subset {tokens : List String} {fewer more : Names}
    (inside : ∀ name ∈ fewer.toList, name ∈ more.toList) : Meets tokens fewer → Meets tokens more
  | ⟨token, held, name, mem, same⟩ => ⟨token, held, name, inside name mem, same⟩

/-- A caller with one of some roles has one of the roles that they narrow. -/
theorem HoldsRole.of_narrows {claims : Dict String} {fewer more : Names}
    (narrows : fewer.Narrows more) (holds : HoldsRole claims fewer) : HoldsRole claims more := by
  rcases narrows with none | ⟨some, inside⟩
  · exact .inl none
  · obtain ⟨type, recognised, raw, found, meets⟩ := holds.resolve_left some
    exact .inr ⟨type, recognised, raw, found, meets.of_subset inside⟩

/-- A caller with a claim of some values has it with one of the values that they narrow. -/
theorem HoldsClaim.of_narrows {claims : Dict String} {type : String} {fewer more : Names}
    (narrows : fewer.Narrows more) (holds : HoldsClaim claims type fewer) :
    HoldsClaim claims type more := by
  obtain ⟨raw, found, meets⟩ := holds
  rcases narrows with none | ⟨some, inside⟩
  · exact ⟨raw, found, .inl none⟩
  · exact ⟨raw, found, .inr ((meets.resolve_left some).of_subset inside)⟩

/-- A caller who passes a requirement passes every one that it tightens. -/
theorem authorize_of_tightens {tight loose : Requirement} (tightens : tight.Tightens loose)
    (allowed : authorize registry context tight = .ok ()) :
    authorize registry context loose = .ok () := by
  rw [(authorize_eq_iff registry context _).1] at allowed ⊢
  refine allowed.imp tightens.anonymous fun permits => ⟨?_, ?_, ?_, ?_⟩
  · exact fun needed => permits.identity (tightens.identity needed)
  · exact permits.role.of_narrows tightens.roles
  · intro type more asked
    obtain ⟨fewer, there, narrows⟩ := tightens.claims type more asked
    exact (permits.claims type fewer there).of_narrows narrows
  · exact fun name named => permits.policies name (tightens.policies name named)

end Access

/-! ## Steps that widen and steps that narrow -/

namespace Requirement

/-- A step lets more callers pass: leave for every caller does, and so does one more role or one
more value where there is one already. -/
def WidenedBy (requirement : Requirement) : Step → Prop
  | .allowAnonymous => True
  | .requireAuthentication => False
  | .requirePolicy _ => False
  | .requireRole _ => requirement.roles ≠ ∅
  | .requireClaim type _ => requirement.claims.accepted type ≠ ∅

instance (requirement : Requirement) : DecidablePred requirement.WidenedBy
  | .allowAnonymous => inferInstanceAs (Decidable True)
  | .requireAuthentication => inferInstanceAs (Decidable False)
  | .requirePolicy _ => inferInstanceAs (Decidable False)
  | .requireRole _ => inferInstanceAs (Decidable (_ ≠ _))
  | .requireClaim _ _ => inferInstanceAs (Decidable (_ ≠ _))

/-- A step that widens makes a requirement that the one before tightens. -/
theorem tightens_apply {requirement : Requirement} {step : Step}
    (widened : requirement.WidenedBy step) : requirement.Tightens (requirement.apply step) := by
  have same := Tightens.refl requirement
  cases step with
  | allowAnonymous => exact { same with anonymous := fun _ => rfl }
  | requireAuthentication => exact widened.elim
  | requirePolicy name => exact widened.elim
  | requireRole name =>
    -- There is a role already, so a claim of any kind was needed before.
    have needed := needsIdentity_iff.2 (.inr (.inr (.inl widened)))
    exact { same with
      identity := fun _ => needed
      roles := Names.narrows_addAll widened [name] }
  | requireClaim type values =>
    have there := ClaimRules.get?_eq_some_accepted widened
    have asked : requirement.claims ≠ ∅ := by
      intro none
      rw [Dict.eq_empty_iff.1 none] at there
      contradiction
    have needed := needsIdentity_iff.2 (.inr (.inr (.inr asked)))
    refine { same with identity := fun _ => needed, claims := fun other more found => ?_ }
    replace found := ClaimRules.get?_widen.symm.trans found
    by_cases own : other = type
    · rw [if_pos own, Option.some.injEq] at found
      subst found own
      exact ⟨_, there, Names.narrows_addAll widened values⟩
    · rw [if_neg own] at found
      exact ⟨more, found, .refl more⟩

/-- A step that does not widen makes a requirement that tightens the one before. -/
theorem apply_tightens {requirement : Requirement} {step : Step}
    (unwidened : ¬ requirement.WidenedBy step) : (requirement.apply step).Tightens requirement := by
  have same := Tightens.refl requirement
  cases step with
  | allowAnonymous => exact absurd trivial unwidened
  | requireAuthentication =>
    exact { same with identity := fun _ => needsIdentity_iff.2 (.inl rfl) }
  | requirePolicy name =>
    exact { same with
      identity := fun _ => needsIdentity_iff.2 (.inl rfl)
      policies := fun other named => (givenBy_mem_policies other _ _).2 (.inl named) }
  | requireRole name =>
    exact { same with
      identity := fun _ => needsIdentity_iff.2 (.inl rfl)
      roles := .inl (Decidable.not_not.1 unwidened) }
  | requireClaim type values =>
    have none : requirement.claims.accepted type = ∅ := Decidable.not_not.1 unwidened
    refine { same with
      identity := fun _ => needsIdentity_iff.2 (.inl rfl)
      claims := fun other more found => ?_ }
    have widened : (requirement.claims.widen type values).get? other = _ := ClaimRules.get?_widen
    by_cases own : other = type
    · subst own
      rw [if_pos rfl] at widened
      have empty : more = ∅ := by
        rw [← none, ClaimRules.accepted, found]
        rfl
      exact ⟨_, widened, .inl empty⟩
    · rw [if_neg own] at widened
      exact ⟨more, widened.trans found, .refl more⟩

end Requirement

namespace Access

/-- A step that widens never turns an allowed caller into a denied one, and every other step never
turns a denied caller into an allowed one. -/
theorem authorize_apply (registry : Registry) (context : Context) (requirement : Requirement)
    (step : Requirement.Step) :
    (requirement.WidenedBy step → authorize registry context requirement = .ok () →
      authorize registry context (requirement.apply step) = .ok ()) ∧
    (¬ requirement.WidenedBy step → ∀ denial,
      authorize registry context requirement = .error denial →
        ∃ other, authorize registry context (requirement.apply step) = .error other) := by
  constructor
  · exact fun widened => authorize_of_tightens (Requirement.tightens_apply widened)
  · intro unwidened denial denied
    cases after : authorize registry context (requirement.apply step) with
    | error other => exact ⟨other, rfl⟩
    | ok _ =>
      have before := authorize_of_tightens (Requirement.apply_tightens unwidened) after
      rw [before] at denied
      contradiction

/-- A further tenant widens a requirement that accepts one, and the first tenant narrows one that
accepts any. -/
theorem authorize_apply_tenant : ∃ narrow wide : Requirement,
    wide = .ofSteps [.requireClaim "tenant" []] ∧ ¬ wide.WidenedBy (.requireClaim "tenant" ["8"]) ∧
      narrow = .ofSteps [.requireClaim "tenant" ["7"]] ∧
      narrow.WidenedBy (.requireClaim "tenant" ["8"]) ∧
      authorize ∅ (.ofClaims (.ofList [("tenant", "7")]))
        (narrow.apply (.requireClaim "tenant" ["8"])) = .ok () ∧
      ∃ denial, authorize ∅ (.ofClaims (.ofList [("sub", "ann")]))
        (wide.apply (.requireClaim "tenant" ["8"])) = .error denial := by
  have narrows : ¬ (Requirement.ofSteps [.requireClaim "tenant" []]).WidenedBy
      (.requireClaim "tenant" ["8"]) := by
    decide +kernel
  have widens : (Requirement.ofSteps [.requireClaim "tenant" ["7"]]).WidenedBy
      (.requireClaim "tenant" ["8"]) := by
    decide +kernel
  have allowed : authorize ∅ (.ofClaims (.ofList [("tenant", "7")]))
      (.ofSteps [.requireClaim "tenant" ["7"]]) = .ok () := by
    decide +kernel
  have denied : authorize ∅ (.ofClaims (.ofList [("sub", "ann")]))
      (.ofSteps [.requireClaim "tenant" []]) = .error (.rule (.claim "tenant")) := by
    decide +kernel
  exact ⟨_, _, rfl, narrows, rfl, widens, (authorize_apply _ _ _ _).1 widens allowed,
    (authorize_apply _ _ _ _).2 narrows _ denied⟩

end Access

/-! ## Steps as a set -/

namespace Requirement

/-- Two requirements are the same but for the order in which they name their policies. -/
structure Alike (first second : Requirement) : Prop where
  /-- They accept the same roles. -/
  roles : first.roles = second.roles
  /-- They ask for the same claims with the same values. -/
  claims : first.claims = second.claims
  /-- Both let every caller pass, or neither does. -/
  anonymous : first.allowsAnonymous = second.allowsAnonymous
  /-- Both ask for a claim of any kind, or neither does. -/
  authentication : first.requiresAuthentication = second.requiresAuthentication
  /-- They name the same policies, each as often. -/
  policies : first.policies.Perm second.policies

/-- Requirements that are the same but for the order of their policies tighten each other. -/
theorem Alike.tightens {first second : Requirement} (alike : first.Alike second) :
    first.Tightens second where
  anonymous leave := alike.anonymous ▸ leave
  identity needed := by
    unfold needsIdentity at needed ⊢
    rwa [alike.authentication, alike.policies.isEmpty_eq, alike.roles, alike.claims]
  roles := alike.roles ▸ .refl _
  claims _ more asked := ⟨more, alike.claims ▸ asked, .refl more⟩
  policies _ named := alike.policies.mem_iff.2 named

/-- Requirements are alike both ways. -/
theorem Alike.symm {first second : Requirement} (alike : first.Alike second) :
    second.Alike first :=
  ⟨alike.roles.symm, alike.claims.symm, alike.anonymous.symm, alike.authentication.symm,
    alike.policies.symm⟩

/-- A step keeps that no policy is named twice. -/
theorem nodup_policies_apply {requirement : Requirement} (once : requirement.policies.Nodup)
    (step : Step) : (requirement.apply step).policies.Nodup := by
  cases step with
  | requirePolicy name =>
    simp only [apply]
    split
    · exact once
    · next fresh =>
      rw [← List.concat_eq_append]
      exact List.Nodup.concat (by simpa using fresh) once
  | _ => exact once

/-- Steps keep that no policy is named twice. -/
theorem nodup_policies_applyAll {requirement : Requirement} (once : requirement.policies.Nodup)
    (steps : List Step) : (requirement.applyAll steps).policies.Nodup := by
  induction steps generalizing requirement with
  | nil => exact once
  | cons step rest ih => exact ih (nodup_policies_apply once step)

section

variable {requirement : Requirement} {first second : List Step}
  (same : ∀ step, step ∈ first ↔ step ∈ second)

include same

/-- A trait that steps give is the same after steps that are the same as a set. -/
theorem GivenBy.congr {trait : Requirement → Prop} {kind : Step → Prop}
    (given : GivenBy trait kind) :
    trait (requirement.applyAll first) ↔ trait (requirement.applyAll second) := by
  rw [given.applyAll_iff, given.applyAll_iff]
  simp only [same]

/-- Steps that are the same as a set build the same from a requirement that names no policy twice,
but for the order of the policies. -/
theorem applyAll_alike (once : requirement.policies.Nodup) :
    (requirement.applyAll first).Alike (requirement.applyAll second) where
  roles := Names.ext_mem fun name => (givenBy_mem_roles name).congr same
  claims := ClaimRules.ext_accepted (fun type => (givenBy_claimType type).congr same)
    fun type name => (givenBy_claimValue type name).congr same
  anonymous := Bool.eq_iff_iff.2 (givenBy_allowsAnonymous.congr same)
  authentication := Bool.eq_iff_iff.2 (givenBy_requiresAuthentication.congr same)
  policies := (List.perm_ext_iff_of_nodup (nodup_policies_applyAll once first)
    (nodup_policies_applyAll once second)).2 fun name => (givenBy_mem_policies name).congr same

/-- Steps that are the same as a set, in any order and with any repetition, build the same
requirement but for the order of its policies, each of which it names once, and the two decide alike
about every caller. -/
theorem ofSteps_alike :
    (ofSteps first).Alike (ofSteps second) ∧ (ofSteps first).policies.Nodup ∧
      (ofSteps second).policies.Nodup ∧
      ∀ registry context, Access.authorize registry context (ofSteps first) = .ok () ↔
        Access.authorize registry context (ofSteps second) = .ok () := by
  have none : authenticated.policies.Nodup := List.nodup_nil
  have alike : (ofSteps first).Alike (ofSteps second) := applyAll_alike same none
  refine ⟨alike, nodup_policies_applyAll none first, nodup_policies_applyAll none second, ?_⟩
  intro registry context
  exact ⟨Access.authorize_of_tightens alike.tightens,
    Access.authorize_of_tightens alike.symm.tightens⟩

end

/-- Two policies and two lists of scopes may be named in either order, and a role twice. -/
theorem ofSteps_alike_scopes : ∃ first second : List Step,
    first = [.requirePolicy "Staff", .requireClaim "scope" ["write"], .requirePolicy "Audit",
      .requireClaim "scope" ["read", "write"], .requireRole "clerk"] ∧
    second = [.requireRole "clerk", .requireClaim "scope" ["read", "write"], .requirePolicy "Audit",
      .requireClaim "scope" ["write"], .requirePolicy "Staff", .requireRole "clerk"] ∧
    (ofSteps first).policies = ["Staff", "Audit"] ∧
    (ofSteps second).policies = ["Audit", "Staff"] ∧ (ofSteps first).Alike (ofSteps second) ∧
    ∀ registry context, Access.authorize registry context (ofSteps first) = .ok () ↔
      Access.authorize registry context (ofSteps second) = .ok () := by
  refine ⟨_, _, rfl, rfl, by decide +kernel, by decide +kernel, ?_⟩
  have same : ∀ step : Step,
      step ∈ [.requirePolicy "Staff", .requireClaim "scope" ["write"], .requirePolicy "Audit",
        .requireClaim "scope" ["read", "write"], .requireRole "clerk"] ↔
      step ∈ [.requireRole "clerk", .requireClaim "scope" ["read", "write"], .requirePolicy "Audit",
        .requireClaim "scope" ["write"], .requirePolicy "Staff", .requireRole "clerk"] := by
    intro step
    simp only [List.mem_cons, List.not_mem_nil, or_false]
    tauto
  obtain ⟨alike, -, -, decisions⟩ := ofSteps_alike same
  exact ⟨alike, decisions⟩

end Requirement

end HttpGateway
