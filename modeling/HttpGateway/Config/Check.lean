import HttpGateway.Config.Basic
import HttpGateway.Url.Http

/-!
# Checking configurations

A configuration that can be read may still make no sense. `Config.findings` lists everything that
is wrong with one, one finding for each single defect: first of the policies, then of the routes
one after the other, then of the rest.
-/

namespace HttpGateway

/-- Something that is wrong with a configuration. Routes are counted from zero. -/
inductive Finding
  /-- A policy has a blank name. -/
  | emptyPolicyName
  /-- A policy has the name of an earlier one. -/
  | duplicatePolicy (name : String)
  /-- A route has an unknown method. -/
  | unknownMethod (index : Nat) (method : String)
  /-- A route has a blank command. -/
  | emptyCommand (index : Nat)
  /-- The template of a route does not compile. -/
  | invalidTemplate (index : Nat) (fault : DuplicateParameter)
  /-- A route asks for a policy that is not there. -/
  | undefinedPolicy (index : Nat) (policy : String)
  /-- A header field of a route is not legal. -/
  | invalidHeader (index : Nat) (header : String)
  /-- Not even one attempt may be made. -/
  | zeroAttempts
  /-- The backend has no URL of a web server. -/
  | invalidBackendUrl (url : String)
deriving DecidableEq, Repr

/-- The words that name a route. -/
def routeLead (index : Nat) : String := "route " ++ toString index ++ ": "

/-- The description of a finding. -/
def Finding.message : Finding → String
  | emptyPolicyName => "policy name is empty"
  | duplicatePolicy name => "policy '" ++ name ++ "' is defined more than once"
  | unknownMethod index method =>
    routeLead index ++ "unknown HTTP method '" ++ method ++ "'"
  | emptyCommand index => routeLead index ++ "command name is empty"
  | invalidTemplate index fault => routeLead index ++ fault.message
  | undefinedPolicy index policy =>
    routeLead index ++ "references undefined policy '" ++ policy ++ "'"
  | invalidHeader index header =>
    routeLead index ++ "invalid response header '" ++ header ++ "'"
  | zeroAttempts => "retries.max_attempts must be at least 1"
  | invalidBackendUrl url => "backend.url '" ++ url ++ "' is not a valid http URL"

/-- The methods that a route may have. -/
def knownMethods : List String := ["GET", "POST", "PUT", "DELETE", "PATCH", "HEAD", "OPTIONS"]

/-- Whether a text holds nothing but white space. -/
def isBlankText (s : String) : Bool := s.toList.all Text.isBlank

/-- What is wrong with the names of policies, some of which were seen before. -/
def policyFindings (seen : List String) : List PolicyConfig → List Finding
  | [] => []
  | policy :: rest =>
    if isBlankText policy.name then .emptyPolicyName :: policyFindings seen rest
    else if seen.contains policy.name then
      .duplicatePolicy policy.name :: policyFindings seen rest
    else policyFindings (policy.name :: seen) rest

/-- Whether a policy is there under a name that is not blank. -/
def Config.defines (config : Config) (name : String) : Bool :=
  !isBlankText name && config.policies.any (·.name == name)

/-- Whether a name and a value make up a legal header field. -/
def isLegalField (field : String × String) : Bool :=
  (FieldName.read? field.1).isSome && (FieldValue.read? field.2).isSome

/-- What is wrong with the template of a route. -/
def templateFindings (index : Nat) (path : String) : List Finding :=
  match Template.compile path with
  | .ok _ => []
  | .error fault => [.invalidTemplate index fault]

/-- What is wrong with a route. -/
def Config.routeFindings (config : Config) (index : Nat) (route : RouteConfig) : List Finding :=
  (if knownMethods.contains (normalizeMethod route.method) then []
    else [.unknownMethod index route.method]) ++
  (if isBlankText route.command then [.emptyCommand index] else []) ++
  templateFindings index route.path ++
  ((route.policies.filter (!config.defines ·)).map (.undefinedPolicy index)) ++
  ((route.headers.entries.filter (!isLegalField ·)).map fun field =>
    .invalidHeader index field.1)

/-- What is wrong with the routes, the first of which has the given number. -/
def Config.routesFindings (config : Config) : Nat → List RouteConfig → List Finding
  | _, [] => []
  | index, route :: rest =>
    config.routeFindings index route ++ config.routesFindings (index + 1) rest

/-- Everything that is wrong with a configuration. -/
def Config.findings (config : Config) : List Finding :=
  policyFindings [] config.policies ++ config.routesFindings 0 config.routes ++
    (if config.retries.maxAttempts = 0 then [.zeroAttempts] else []) ++
    (if !config.routes.isEmpty && !Url.isHttp config.backend.url then
      [.invalidBackendUrl config.backend.url]
    else [])

end HttpGateway
