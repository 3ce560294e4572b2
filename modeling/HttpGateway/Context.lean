import HttpGateway.Dict
import HttpGateway.Failure
import HttpGateway.Json.Reader
import HttpGateway.Message.Field
import HttpGateway.Text.Lowercase

/-!
# The context of a request

What a policy and the builder of a command may look at: the method and the path, the parameters
captured from the path, the query, the header fields, the body and the claims of the caller.
-/

namespace HttpGateway

/-- A request that a route was found for. -/
structure Context where
  /-- The method. -/
  method : String
  /-- The path. -/
  path : String
  /-- The values of the path parameters, by parameter name in lower case. -/
  parameters : Dict String
  /-- The values of the query by name. -/
  query : Dict String
  /-- The header fields. -/
  headers : Headers
  /-- The body. -/
  body : List UInt8
  /-- The claims of the caller. -/
  claims : Dict String

namespace Context

/-- A context that holds claims and nothing else. -/
def ofClaims (claims : Dict String) : Context := ⟨"", "", ∅, ∅, ∅, [], claims⟩

/-- The value of a path parameter; the letter case of its name does not count. -/
def parameter? (context : Context) (name : String) : Option String :=
  context.parameters.get? (Text.lowercase name)

/-- The value of a query name. -/
def query? (context : Context) (name : String) : Option String := context.query.get? name

/-- The value of a header field, if it is readable text. -/
def header? (context : Context) (name : String) : Option String := context.headers.text? name

/-- The value of a claim. -/
def claim? (context : Context) (name : String) : Option String := context.claims.get? name

/-- The value of a path parameter that has to be there. -/
def requireParameter (context : Context) (name : String) : Except Failure String :=
  match context.parameter? name with
  | some value => .ok value
  | none => .error ⟨.validation, "missing path parameter '" ++ name ++ "'"⟩

/-- The body as a JSON value. -/
def json (context : Context) : Except Failure Json :=
  match Json.read context.body with
  | .ok value => .ok value
  | .error fault =>
    .error ⟨.validation, "invalid request body: " ++ fault.message context.body⟩

end Context

end HttpGateway
