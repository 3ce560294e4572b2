import HttpGateway.Access.Policy
import HttpGateway.Access.Token

/-!
# Authorization

`authorize` checks a context against a requirement. The checks are made in a fixed order and the
first that fails gives the reason: any claim at all, the roles, the claims in order of their
types, then the policies in the order in which they were named. A policy that is not registered
fails. Roles and values of claims are compared without regard to letter case.
-/

namespace HttpGateway

/-- What the rules of a requirement or a policy miss in a context. -/
inductive Shortfall
  /-- None of the accepted roles is there. -/
  | role (accepted : Names)
  /-- A claim is not there. -/
  | claim (type : String)
  /-- A claim has none of its accepted values. -/
  | value (type : String) (accepted : Names)
  /-- A predicate does not hold; predicates are counted from one. -/
  | predicate (number : Nat)
deriving DecidableEq

/-- Why a caller may not pass. -/
inductive Denial
  /-- There is no claim. -/
  | notAuthenticated
  /-- The rules of the requirement miss something. -/
  | rule (shortfall : Shortfall)
  /-- A policy is not registered. -/
  | unknownPolicy (name : String)
  /-- The rules of a policy miss something. -/
  | policy (name : String) (shortfall : Shortfall)
deriving DecidableEq

/-- A set of names in one line. -/
def Names.line (names : Names) : String := ", ".intercalate names.toList

/-- The description of a shortfall. -/
def Shortfall.message : Shortfall → String
  | .role accepted => "missing required role (one of: " ++ accepted.line ++ ")"
  | .claim type => "missing required claim '" ++ type ++ "'"
  | .value type accepted =>
    "claim '" ++ type ++ "' has none of the required values (" ++ accepted.line ++ ")"
  | .predicate number => "custom requirement #" ++ toString number ++ " not satisfied"

/-- The description of a denial. -/
def Denial.message : Denial → String
  | .notAuthenticated => "not authenticated"
  | .rule shortfall => shortfall.message
  | .unknownPolicy name => "policy '" ++ name ++ "' not found"
  | .policy name shortfall => "policy '" ++ name ++ "' failed: " ++ shortfall.message

namespace Access

/-- The claim types that may hold roles. -/
def roleClaimTypes : List String := ["role", "roles", "cognito:groups", "groups"]

/-- Whether one of the tokens is among the accepted texts, letter case apart. -/
def meets (tokens : List String) (accepted : Names) : Bool :=
  tokens.any fun token => accepted.toList.any fun a => Text.lowercase a == Text.lowercase token

/-- Check that one of the accepted roles is there, if any is asked for. -/
def checkRoles (claims : Dict String) (accepted : Names) : Except Shortfall Unit :=
  if accepted.isEmpty then .ok ()
  else if (roleClaimTypes.filterMap claims.get?).any fun raw => meets (roleTokens raw) accepted then
    .ok ()
  else .error (.role accepted)

/-- Check that a claim is there and has an accepted value, if values are given. -/
def checkClaim (claims : Dict String) (type : String) (accepted : Names) :
    Except Shortfall Unit :=
  match claims.get? type with
  | none => .error (.claim type)
  | some raw =>
    if !accepted.isEmpty && !meets (claimTokens raw) accepted then .error (.value type accepted)
    else .ok ()

/-- Check every claim that is asked for. -/
def checkClaims (claims : Dict String) (rules : ClaimRules) : Except Shortfall Unit :=
  rules.entries.forM fun rule => checkClaim claims rule.1 rule.2

/-- Check every predicate, the first of which has the given number. -/
def checkPredicates (context : Context) : Nat → List (Context → Bool) → Except Shortfall Unit
  | _, [] => .ok ()
  | number, predicate :: rest =>
    if predicate context then checkPredicates context (number + 1) rest
    else .error (.predicate number)

/-- Check the rules of a policy. -/
def checkPolicy (context : Context) (policy : Policy) : Except Shortfall Unit := do
  checkRoles context.claims policy.roles
  checkClaims context.claims policy.claims
  checkPredicates context 1 policy.predicates

/-- Check a policy by its name. -/
def checkNamed (registry : Registry) (context : Context) (name : String) : Except Denial Unit :=
  match registry.get? name with
  | none => .error (.unknownPolicy name)
  | some policy => (checkPolicy context policy).mapError (.policy name)

/-- Decide whether a request may pass a requirement. -/
def authorize (registry : Registry) (context : Context) (requirement : Requirement) :
    Except Denial Unit :=
  if requirement.allowsAnonymous then .ok ()
  else if requirement.needsIdentity && context.claims.isEmpty then .error .notAuthenticated
  else do
    (checkRoles context.claims requirement.roles).mapError .rule
    (checkClaims context.claims requirement.claims).mapError .rule
    requirement.policies.forM (checkNamed registry context)

/-- Decide whether a caller of whom only claims are known may pass a requirement. -/
def authorizeClaims (registry : Registry) (claims : Dict String) (requirement : Requirement) :
    Except Denial Unit :=
  authorize registry (.ofClaims claims) requirement

end Access

end HttpGateway
