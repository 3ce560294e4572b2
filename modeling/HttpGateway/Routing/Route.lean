import HttpGateway.Access.Requirement
import HttpGateway.Context
import HttpGateway.Routing.Template
import HttpGateway.Text.Uppercase

/-!
# Routes

A route binds a method and a template to a builder of commands of type `κ`, and says what a
caller has to present and how a success is answered. Registering a route starts from a plain one
that asks for an authenticated caller, and configures it in steps.
-/

namespace HttpGateway

/-- How a success is answered. -/
inductive Shape
  /-- With a body, as done. -/
  | ok
  /-- With a body, as created. -/
  | created
  /-- With a body, as accepted for later. -/
  | accepted
  /-- Without a body. -/
  | noContent
deriving DecidableEq, Repr, Inhabited

namespace Shape

/-- The status of a success. -/
def status : Shape → Status
  | ok => .ok
  | created => .created
  | accepted => .accepted
  | noContent => .noContent

/-- The name of a shape in a configuration. -/
def name : Shape → String
  | ok => "ok"
  | created => "created"
  | accepted => "accepted"
  | noContent => "no_content"

/-- The shape with a name. -/
def ofName? (name : String) : Option Shape :=
  [ok, created, accepted, noContent].find? fun shape => shape.name == name

end Shape

/-- The form in which methods are compared: without white space at the ends and in upper case. -/
def normalizeMethod (method : String) : String := Text.uppercase (Text.trim method)

/-- A route to a command of type `κ`. -/
structure Route (κ : Type) where
  /-- The method in upper case. -/
  method : String
  /-- The template of the path. -/
  template : Template
  /-- Builds the command for a request. -/
  build : Context → Except Failure κ
  /-- How a success is answered. -/
  shape : Shape
  /-- What a caller has to present. -/
  requirement : Requirement
  /-- The media type of a success, unless it is JSON. -/
  contentType : Option String
  /-- Further header fields of a success, each name once and in lower case, in the order in
  which the names first came. -/
  headers : List (String × String)

namespace Route

variable {κ : Type}

/-- A step in configuring a route. -/
inductive Step
  /-- Ask for a claim of any kind. -/
  | requireAuthorization
  /-- Ask for a policy. -/
  | requirePolicy (name : String)
  /-- Accept more roles. -/
  | requireRole (names : List String)
  /-- Ask for a claim, and accept more values for it. -/
  | requireClaim (type : String) (values : List String)
  /-- Let every caller pass. -/
  | allowAnonymous
  /-- Set how a success is answered. -/
  | respondWith (shape : Shape)
  /-- Set the media type of a success. -/
  | produce (contentType : String)
  /-- Set a header field of a success. -/
  | respondHeader (name value : String)
deriving DecidableEq, Repr

/-- The steps in building a requirement that a step of a route takes. -/
def Step.access : Step → List Requirement.Step
  | requireAuthorization => [.requireAuthentication]
  | requirePolicy name => [.requirePolicy name]
  | requireRole names => names.map .requireRole
  | requireClaim type values => [.requireClaim type values]
  | allowAnonymous => [.allowAnonymous]
  | respondWith _ => []
  | produce _ => []
  | respondHeader _ _ => []

/-- A list of fields with a value set: in place if the name is there, and else at the end. -/
def setField (name value : String) : List (String × String) → List (String × String)
  | [] => [(name, value)]
  | field :: rest =>
    if field.1 = name then (name, value) :: rest else field :: setField name value rest

/-- The route after a step. -/
def apply (route : Route κ) (step : Step) : Route κ :=
  let route := { route with requirement := route.requirement.applyAll step.access }
  match step with
  | .respondWith shape => { route with shape }
  | .produce contentType => { route with contentType := some contentType }
  | .respondHeader name value =>
    { route with headers := setField (asciiLowercase name) value route.headers }
  | _ => route

/-- The route after several steps. -/
def configure (route : Route κ) (steps : List Step) : Route κ := steps.foldl apply route

/-- The values of the path parameters, if the route has the method and its template fits the
path; both are in normal form. -/
def fit? (route : Route κ) (method path : String) : Option (Dict String) :=
  if route.method = method then route.template.capture? path else none

end Route

end HttpGateway
