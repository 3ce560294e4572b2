import HttpGateway.Dict

/-!
# Requirements

A requirement says what a caller has to present: one of some roles, every one of some claims,
each with one of its accepted values, and every one of some policies. A requirement is built in
steps from `Requirement.authenticated`, which asks for any claim at all. One that allows
anonymous callers asks for nothing, whatever else it says.
-/

namespace HttpGateway

/-- Claim types, each with its accepted values; without values the presence of the claim is
enough. -/
abbrev ClaimRules := Dict Names

/-- The rules with more accepted values for a claim type. -/
def ClaimRules.widen (rules : ClaimRules) (type : String) (values : List String) : ClaimRules :=
  rules.insert type (((rules.get? type).getD ∅).addAll values)

/-- What a caller has to present to reach a route. -/
structure Requirement where
  /-- The names of policies that all have to hold, in the order in which they were named. -/
  policies : List String
  /-- The roles of which any one is enough. -/
  roles : Names
  /-- The claims that all have to be there. -/
  claims : ClaimRules
  /-- Whether every caller may pass. -/
  allowsAnonymous : Bool
  /-- Whether a claim of any kind has to be there. -/
  requiresAuthentication : Bool
deriving DecidableEq

namespace Requirement

/-- Any caller with a claim may pass. -/
def authenticated : Requirement := ⟨[], ∅, ∅, false, true⟩

/-- Every caller may pass. -/
def anonymous : Requirement := { authenticated with allowsAnonymous := true }

instance : Inhabited Requirement := ⟨authenticated⟩

/-- A step in building a requirement. -/
inductive Step
  /-- Let every caller pass. -/
  | allowAnonymous
  /-- Ask for a claim of any kind. -/
  | requireAuthentication
  /-- Ask for a policy, once however often it is named. -/
  | requirePolicy (name : String)
  /-- Accept one more role. -/
  | requireRole (name : String)
  /-- Ask for a claim, and accept more values for it. -/
  | requireClaim (type : String) (values : List String)
deriving DecidableEq, Repr

/-- The requirement after a step. -/
def apply (requirement : Requirement) : Step → Requirement
  | .allowAnonymous => { requirement with allowsAnonymous := true }
  | .requireAuthentication => { requirement with requiresAuthentication := true }
  | .requirePolicy name =>
    { requirement with
      policies :=
        if requirement.policies.contains name then requirement.policies
        else requirement.policies ++ [name]
      requiresAuthentication := true }
  | .requireRole name =>
    { requirement with
      roles := requirement.roles.add name
      requiresAuthentication := true }
  | .requireClaim type values =>
    { requirement with
      claims := requirement.claims.widen type values
      requiresAuthentication := true }

/-- The requirement after several steps. -/
def applyAll (requirement : Requirement) (steps : List Step) : Requirement :=
  steps.foldl apply requirement

/-- The requirement that steps build. -/
def ofSteps (steps : List Step) : Requirement := authenticated.applyAll steps

/-- Whether the requirement asks for anything of a caller who is not let pass as anonymous. -/
def needsIdentity (requirement : Requirement) : Bool :=
  requirement.requiresAuthentication || !requirement.policies.isEmpty ||
    !requirement.roles.isEmpty || !requirement.claims.isEmpty

end Requirement

end HttpGateway
