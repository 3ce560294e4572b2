import HttpGateway.Proofs.Access.Decision

/-!
# Denials and what they say

`Access.Arises` lists the ways in which a check can fail, and every denial arises in one of them.
The descriptions keep the reasons apart where it matters to a caller and to a maintainer: no other
denial reads as the lack of authentication (`Denial.message_eq_notAuthenticated_iff`), and none but
that of an unregistered policy says that a policy was not found
(`Denial.message_eq_unknownPolicy_iff`).
-/

namespace HttpGateway

/-! ## Causes -/

namespace Access

variable {registry : Registry} {context : Context} {requirement : Requirement}

/-- The first failure in a list is the cause of a check that does not hold. -/
theorem FirstFails.exists_not_holds {ε : Type} {checks : List (Check ε)} {cause : ε}
    (fails : FirstFails context checks cause) :
    ∃ check ∈ checks, check.cause = cause ∧ ¬ check.Holds context := by
  induction fails with
  | head fails => exact ⟨_, List.mem_cons_self, rfl, fails⟩
  | tail _ _ ih =>
    obtain ⟨check, mem, same, fails⟩ := ih
    exact ⟨check, List.mem_cons_of_mem _ mem, same, fails⟩

/-- The ways in which a denial arises: there is no claim, the rules of the requirement miss
something, a policy that it names is not registered, or the rules of a registered one miss
something. -/
inductive Arises (registry : Registry) (context : Context) (requirement : Requirement) :
    Denial → Prop
  /-- There is no claim. -/
  | notAuthenticated (stranger : context.claims = ∅) :
    Arises registry context requirement .notAuthenticated
  /-- The rules of the requirement miss something. -/
  | rule (shortfall : Shortfall) : Arises registry context requirement (.rule shortfall)
  /-- A policy is not registered. -/
  | unknownPolicy {name : String} (named : name ∈ requirement.policies)
    (missing : registry.get? name = none) :
    Arises registry context requirement (.unknownPolicy name)
  /-- The rules of a policy miss something. -/
  | policy {name : String} (named : name ∈ requirement.policies) (shortfall : Shortfall) :
    Arises registry context requirement (.policy name shortfall)

/-- Every denial arises in one of these ways. -/
theorem arises_of_authorize {denial : Denial}
    (denied : authorize registry context requirement = .error denial) :
    Arises registry context requirement denial := by
  cases leave : requirement.allowsAnonymous with
  | true => simp [authorize, leave] at denied
  | false =>
    have fails := (authorize_decides registry context leave).eq_error_iff.1 denied
    obtain ⟨check, mem, rfl, unmet⟩ := fails.exists_not_holds
    rw [requirementChecks, List.mem_append, List.mem_cons, List.mem_map, List.mem_flatMap] at mem
    rcases mem with (rfl | ⟨rule, -, rfl⟩) | ⟨name, named, mem⟩
    · exact .notAuthenticated (Decidable.byContradiction fun known => unmet fun _ => known)
    · exact .rule rule.cause
    · rcases List.mem_cons.1 mem with rfl | mem
      · exact .unknownPolicy named (Option.eq_none_iff_forall_ne_some.2 fun policy found =>
          unmet ⟨policy, found⟩)
      · cases found : registry.get? name with
        | none => simp [found] at mem
        | some policy =>
          rw [found] at mem
          obtain ⟨rule, -, rfl⟩ := List.mem_map.1 mem
          exact .policy named rule.cause

end Access

/-! ## Descriptions -/

/-- The description of a shortfall starts as a lack or with the claim or the predicate that
fails. -/
theorem Shortfall.head?_message (shortfall : Shortfall) :
    shortfall.message.toList.head? = some 'm' ∨ shortfall.message.toList.head? = some 'c' := by
  -- The texts are written out, because unfolding `message` computes its literals.
  cases shortfall with
  | role accepted =>
    left
    change ("missing required role (one of: " ++ accepted.line ++ ")").toList.head? = _
    simp
  | claim type =>
    left
    change ("missing required claim '" ++ type ++ "'").toList.head? = _
    simp
  | value type accepted =>
    right
    change ("claim '" ++ type ++ "' has none of the required values (" ++ accepted.line ++
      ")").toList.head? = _
    simp
  | predicate number =>
    right
    change ("custom requirement #" ++ toString number ++ " not satisfied").toList.head? = _
    simp

/-- Whatever stands before it, the description of a shortfall does not end in `nd`. -/
theorem Shortfall.end_message_ne (lead : String) (shortfall : Shortfall) :
    (lead ++ shortfall.message).toList.reverse.take 2 ≠ ['d', 'n'] := by
  cases shortfall with
  | role accepted =>
    change (lead ++ ("missing required role (one of: " ++ accepted.line ++
      ")")).toList.reverse.take 2 ≠ _
    simp
  | claim type =>
    change (lead ++ ("missing required claim '" ++ type ++ "'")).toList.reverse.take 2 ≠ _
    simp
  | value type accepted =>
    change (lead ++ ("claim '" ++ type ++ "' has none of the required values (" ++ accepted.line ++
      ")")).toList.reverse.take 2 ≠ _
    simp
  | predicate number =>
    change (lead ++ ("custom requirement #" ++ toString number ++
      " not satisfied")).toList.reverse.take 2 ≠ _
    simp

namespace Denial

/-- No other denial reads as the lack of authentication. -/
theorem message_eq_notAuthenticated_iff {denial : Denial} :
    denial.message = "not authenticated" ↔ denial = .notAuthenticated := by
  refine ⟨fun same => ?_, fun same => same ▸ rfl⟩
  have heads := congrArg (fun text : String => text.toList.head?) same
  cases denial with
  | notAuthenticated => rfl
  | rule shortfall =>
    have first : shortfall.message.toList.head? = some 'n' := heads
    rcases shortfall.head?_message with other | other <;> simp [first] at other
  | unknownPolicy name => simp [message] at heads
  | policy name shortfall => simp [message] at heads

/-- No other denial says that a policy was not found. -/
theorem message_eq_unknownPolicy_iff {denial : Denial} {name : String} :
    denial.message = "policy '" ++ name ++ "' not found" ↔ denial = .unknownPolicy name := by
  refine ⟨fun same => ?_, fun same => same ▸ rfl⟩
  have heads := congrArg (fun text : String => text.toList.head?) same
  have ends := congrArg (fun text : String => text.toList.reverse.take 2) same
  cases denial with
  | notAuthenticated => simp [message] at heads
  | rule shortfall =>
    have first : shortfall.message.toList.head? = some 'p' := by simpa [message] using heads
    rcases shortfall.head?_message with other | other <;> simp [first] at other
  | unknownPolicy other =>
    change "policy '" ++ other ++ "' not found" = _ at same
    simpa using same
  | policy other shortfall =>
    have last : ("policy '" ++ name ++ "' not found").toList.reverse.take 2 = ['d', 'n'] := by simp
    exact absurd (ends.trans last) (shortfall.end_message_ne _)

end Denial

end HttpGateway
