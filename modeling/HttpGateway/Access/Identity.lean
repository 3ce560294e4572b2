import HttpGateway.Json.Printer
import HttpGateway.Json.Reader
import HttpGateway.Message.Field
import HttpGateway.Number.Decimal

/-!
# The identity of a caller

Whoever stands before the gateway and authenticates callers hands their identity over in one of
two forms: the claims of a token, as texts, or a context of scalar values. `Identity.claims`
makes one dictionary of claims of them. Token claims win as soon as there is one.
-/

namespace HttpGateway

/-- A value of a context. -/
inductive ContextValue
  /-- Nothing. -/
  | null
  /-- A truth value. -/
  | bool (b : Bool)
  /-- An integer of 64 bits with a sign. -/
  | integer (n : Int)
  /-- A natural of 64 bits. -/
  | natural (n : Nat)
  /-- A binary floating-point value. -/
  | real (x : Binary64)
  /-- A text. -/
  | text (s : String)
  /-- An array or an object, kept as its compact JSON text. -/
  | raw (s : String)
deriving DecidableEq, Inhabited

namespace ContextValue

/-- The text of a floating-point value: its shortest digits without an exponent. -/
def realText : Binary64 → String
  | .finite x => String.ofList x.plainChars
  | .infinite false => "inf"
  | .infinite true => "-inf"
  | .nan => "NaN"

/-- The value of a JSON value. An integer beyond the signed range is a natural. -/
def ofJson : Json → ContextValue
  | .null => .null
  | .bool b => .bool b
  | .number (.integer n) => if n ≤ 9223372036854775807 then .integer n else .natural n.toNat
  | .number (.real x) => .real (.finite x)
  | .string s => .text s
  | value => .raw value.text

/-- The claim that a value stands for; nothing stands for none. -/
def claim? : ContextValue → Option String
  | .null => none
  | .bool true => some "True"
  | .bool false => some "False"
  | .integer n => some (toString n)
  | .natural n => some (toString n)
  | .real x => some (realText x)
  | .text s => some s
  | .raw s => some s

end ContextValue

/-- What is known of a caller. -/
structure Identity where
  /-- The claims of a token. -/
  tokenClaims : Option (Dict String)
  /-- The values of a context. -/
  context : Option (Dict ContextValue)
deriving DecidableEq

/-- The names of the header fields that carry identities. -/
structure IdentityHeaders where
  /-- The field with token claims as a JSON object. -/
  claims : Option String
  /-- The field with a context as a JSON object. -/
  context : Option String
deriving DecidableEq, Repr, Inhabited

namespace Identity

/-- Nothing is known. -/
def anonymous : Identity := ⟨none, none⟩

instance : Inhabited Identity := ⟨anonymous⟩

/-- The claims of a context. -/
def contextClaims (context : Dict ContextValue) : Dict String :=
  context.filterMap ContextValue.claim?

/-- The claims of a caller: those of the token if there are any, or else those of the context. -/
def claims (identity : Identity) : Dict String :=
  match identity.tokenClaims.filter (!·.isEmpty) with
  | some claims => claims
  | none => (identity.context.map contextClaims).getD ∅

/-- The token claim that a JSON value stands for: a string is its text, null is none, and any
other value its compact text. -/
def tokenClaim? : Json → Option String
  | .null => none
  | .string s => some s
  | value => some value.text

/-- The members of the JSON object in a header field. -/
def objectField? (headers : Headers) (name : String) : Option (Dict Json) :=
  match (headers.text? name).bind Json.ofText? with
  | some (.object members) => some (Dict.ofList members)
  | _ => none

/-- The identity that header fields carry. A field that is missing or holds no JSON object gives
nothing. -/
def ofHeaders (names : IdentityHeaders) (headers : Headers) : Identity where
  tokenClaims := (names.claims.bind (objectField? headers)).map (·.filterMap tokenClaim?)
  context := (names.context.bind (objectField? headers)).map (·.map ContextValue.ofJson)

end Identity

end HttpGateway
