import HttpGateway.Context
import HttpGateway.Json.Printer

/-!
# Commands for the backend

A command says under a name what a request asks for: its parameters, query, body and the claims
of its caller. A backend is sent the compact JSON text of a command.
-/

namespace HttpGateway

/-- A command for the backend. -/
structure Command where
  /-- The name of the command. -/
  name : String
  /-- The values of the path parameters. -/
  parameters : Dict String
  /-- The values of the query. -/
  query : Dict String
  /-- The body. -/
  body : Json
  /-- The claims of the caller. -/
  claims : Dict String

namespace Command

/-- Whether an octet is an ASCII blank: a space, a tab, a line feed, a form feed or a carriage
return. -/
def isBlankOctet (b : UInt8) : Bool :=
  b == 0x20 || b == 0x09 || b == 0x0A || b == 0x0C || b == 0x0D

/-- The body of a request as a value: null if there are only blanks. -/
def bodyOf (context : Context) : Except Failure Json :=
  if context.body.all isBlankOctet then .ok .null else context.json

/-- The command with a name for a request. -/
def ofContext (name : String) (context : Context) : Except Failure Command :=
  (bodyOf context).map fun body =>
    ⟨name, context.parameters, context.query, body, context.claims⟩

/-- The members of a command in the order in which they are sent. -/
def members (command : Command) : List (String × Json) :=
  [("command", .string command.name), ("params", .ofTexts command.parameters),
    ("query", .ofTexts command.query), ("body", command.body),
    ("claims", .ofTexts command.claims)]

/-- The text that the backend is sent. -/
def payload (command : Command) : String := (Json.object command.members).text

/-- The command as a JSON value. -/
def json (command : Command) : Json := .ofMembers command.members

end Command

end HttpGateway
