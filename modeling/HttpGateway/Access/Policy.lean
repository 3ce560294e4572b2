import HttpGateway.Access.Requirement
import HttpGateway.Context

/-!
# Policies

A policy is a bundle of rules under a name: one of some roles, every one of some claims, and
predicates on the whole context. A registry keeps policies by name and takes each name once.
-/

namespace HttpGateway

/-- A named bundle of rules. -/
structure Policy where
  /-- The name. -/
  name : String
  /-- The roles of which any one is enough. -/
  roles : Names
  /-- The claims that all have to be there. -/
  claims : ClaimRules
  /-- The predicates that all have to hold. -/
  predicates : List (Context → Bool)

namespace Policy

/-- A step in building a policy. -/
inductive Step
  /-- Accept more roles. -/
  | requireRole (names : List String)
  /-- Ask for a claim, and accept more values for it. -/
  | requireClaim (type : String) (values : List String)
  /-- Ask for a predicate to hold. -/
  | requireAssertion (predicate : Context → Bool)

/-- The policy that asks for nothing. -/
def blank (name : String) : Policy := ⟨name, ∅, ∅, []⟩

/-- The policy after a step. -/
def apply (policy : Policy) : Step → Policy
  | .requireRole names => { policy with roles := policy.roles.addAll names }
  | .requireClaim type values => { policy with claims := policy.claims.widen type values }
  | .requireAssertion predicate =>
    { policy with predicates := policy.predicates ++ [predicate] }

/-- The policy that steps build. -/
def ofSteps (name : String) (steps : List Step) : Policy := steps.foldl apply (blank name)

end Policy

/-- A name under which a policy is registered already. -/
structure DuplicatePolicy where
  /-- The name. -/
  name : String
deriving DecidableEq, Repr

/-- The description of a repeated name. -/
def DuplicatePolicy.message (fault : DuplicatePolicy) : String :=
  "policy '" ++ fault.name ++ "' is already registered"

/-- Policies by name. -/
structure Registry where
  /-- The policies by name. -/
  policies : Dict Policy

namespace Registry

/-- No policies. -/
def empty : Registry := ⟨∅⟩

instance : EmptyCollection Registry := ⟨empty⟩

instance : Inhabited Registry := ⟨empty⟩

/-- The policy under a name. -/
def get? (registry : Registry) (name : String) : Option Policy := registry.policies.get? name

/-- Whether there is a policy under a name. -/
def contains (registry : Registry) (name : String) : Bool := registry.policies.contains name

/-- The number of policies. -/
def size (registry : Registry) : Nat := registry.policies.size

/-- Whether there are no policies. -/
def isEmpty (registry : Registry) : Bool := registry.policies.isEmpty

/-- The registry with one more policy, built in steps. A name is taken once. -/
def add (registry : Registry) (name : String) (steps : List Policy.Step) :
    Except DuplicatePolicy Registry :=
  if registry.contains name then .error ⟨name⟩
  else .ok ⟨registry.policies.insert name (Policy.ofSteps name steps)⟩

end Registry

end HttpGateway
