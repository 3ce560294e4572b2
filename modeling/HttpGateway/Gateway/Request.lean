import HttpGateway.Access.Identity
import HttpGateway.Gateway.Reply
import HttpGateway.Message.Query
import HttpGateway.Message.Uri

/-!
# Requests

A request as it arrives has a target, and its body may break off or not end in time; a request as
the gateway handles it has a path and the values of a query, and an identity in place of the header
fields that carry one. `Incoming.decode` makes the one of the other and refuses a body that is too
long or breaks off.
-/

namespace HttpGateway

/-- A request as the gateway handles it. -/
structure Request where
  /-- The method. -/
  method : String
  /-- The path. -/
  path : String
  /-- The header fields. -/
  headers : Headers
  /-- The values of the query by name. -/
  query : Dict String
  /-- The body. -/
  body : List UInt8
  /-- What is known of the caller. -/
  identity : Identity

/-- How the body of a request ends. -/
inductive Ending
  /-- All of it arrives. -/
  | whole
  /-- It breaks off. -/
  | cut (cause : String)
  /-- Some of it does not arrive in time. -/
  | late
deriving DecidableEq

/-- A request as it arrives. -/
structure Incoming where
  /-- The method. -/
  method : String
  /-- The method is a token. -/
  legal : isToken method = true
  /-- The target. -/
  uri : Uri
  /-- The header fields. -/
  headers : Headers
  /-- What arrives of the body. -/
  body : List UInt8
  /-- How the body ends. -/
  ending : Ending
  /-- What is known of the caller, if it is not to be read from the header fields. -/
  identity : Option Identity

namespace Incoming

/-- A request with a method and a target given as text, which have to be legal, and a whole body. -/
def ofText? (method target : String) (headers : Headers) (body : List UInt8)
    (identity : Option Identity) : Option Incoming :=
  if h : isToken method = true then
    (Uri.ofText target).toOption.map fun uri => ⟨method, h, uri, headers, body, .whole, identity⟩
  else none

/-- The reply to a request whose body cannot be read for a cause. -/
def unread (cause : String) : Reply :=
  .error .payloadTooLarge "Payload too large" cause

/-- The reading of the body: its octets, or the reply if it is too long or breaks off, or nothing
if it does not end in time. A body is too long as soon as more than the limit has arrived. -/
def receive (limit : Nat) (incoming : Incoming) : Option (Except Reply (List UInt8)) :=
  if limit < incoming.body.length then some (.error (unread "length limit exceeded"))
  else
    match incoming.ending with
    | .whole => some (.ok incoming.body)
    | .cut cause => some (.error (unread cause))
    | .late => none

/-- A body that is too long is refused, however it ends. -/
theorem receive_of_long {incoming : Incoming} {limit : Nat}
    (long : limit < incoming.body.length) :
    incoming.receive limit = some (.error (unread "length limit exceeded")) :=
  if_pos long

/-- A body that is not too long is taken if all of it arrives and refused if it breaks off, and
there is nothing if it does not end in time. -/
theorem receive_of_short {incoming : Incoming} {limit : Nat}
    (short : incoming.body.length ≤ limit) :
    incoming.receive limit = match incoming.ending with
      | .whole => some (.ok incoming.body)
      | .cut cause => some (.error (unread cause))
      | .late => none :=
  if_neg (Nat.not_lt.2 short)

/-- What is known of the caller. -/
def caller (names : IdentityHeaders) (incoming : Incoming) : Identity :=
  incoming.identity.getD (.ofHeaders names incoming.headers)

/-- The request that the gateway handles, if the body can be read, and nothing if the body does not
end in time. -/
def decode (names : IdentityHeaders) (bodyLimit : Nat) (incoming : Incoming) :
    Option (Except Reply Request) :=
  (incoming.receive bodyLimit).map fun received => received.map fun body => {
    method := incoming.method
    path := Text.Utf8.decodeLossy incoming.uri.path
    headers := incoming.headers
    query := (incoming.uri.query.map Query.read).getD ∅
    body := body
    identity := incoming.caller names }

end Incoming

end HttpGateway
