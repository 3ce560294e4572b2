import HttpGateway.Gateway.Handler

/-!
# Serving requests

A server stands before a gateway. It gives every request an identifier unless it brings one,
hands the identifier back with the answer unless the answer has one of its own, answers a request
whose body cannot be read, and one whose body or command does not end in time, and adds the length
of the body to every answer.
-/

namespace HttpGateway

/-- A server of requests to a gateway. -/
structure Server (κ : Type) where
  /-- The gateway. -/
  gateway : Gateway κ
  /-- The header fields that carry identities. -/
  identityHeaders : IdentityHeaders
  /-- The greatest length of a request's body. -/
  bodyLimit : Nat

namespace Response

/-- The value of the length field for a body. -/
def lengthValue (body : String) : FieldValue :=
  (FieldValue.read? (toString (Text.Utf8.encode body).length)).getD ⟨[], rfl⟩

/-- The response with a header field added unless there is one with the name. -/
def withDefault (response : Response) (name : FieldName) (value : FieldValue) : Response :=
  if response.headers.contains name then response
  else { response with headers := response.headers.insert name value }

/-- The response without its body. -/
def withoutBody (response : Response) : Response := { response with body := "" }

/-- The response as it is sent in answer to a method: with the length of the body, and without
the body itself for `HEAD`. A successful answer to `CONNECT` has neither. -/
def finish (response : Response) (method : String) : Response :=
  if method = "CONNECT" && response.status.isSuccess then response.withoutBody
  else
    let measured := response.withDefault .contentLength (lengthValue response.body)
    if method = "HEAD" then measured.withoutBody else measured

end Response

namespace Server

variable {κ : Type}

/-- The response to a request that is not answered in time. -/
def timeout : Response := ⟨.requestTimeout, ∅, ""⟩

/-- The answer of the gateway to a request, and what is counted. A sender that does not end in time
gives what it has counted till then. -/
def answer {m : Type → Type} [Monad m] (server : Server κ)
    (send : κ → m (Except (List Event) Delivery)) (now : Timestamp) (incoming : Incoming) :
    m (Response × List Event) :=
  match incoming.decode server.identityHeaders server.bodyLimit with
  | none => pure (timeout, [])
  | some (.error reply) => pure (reply.response, [])
  | some (.ok request) => do
    match ← (server.gateway.handle (m := ExceptT (List Event) m) send now request).run with
    | .ok outcome => pure (outcome.reply.response, outcome.events)
    | .error events => pure (timeout, events)

/-- The identifier of a request: the one that it brings, or a new one. -/
def requestId (incoming : Incoming) (fresh : FieldValue) : FieldValue :=
  (incoming.headers.get? .requestId).getD fresh

/-- The request with an identifier. -/
def identified (incoming : Incoming) (fresh : FieldValue) : Incoming :=
  if incoming.headers.contains .requestId then incoming
  else { incoming with headers := incoming.headers.insert .requestId fresh }

/-- Serve a request: the response, and what is counted. -/
def serve {m : Type → Type} [Monad m] (server : Server κ)
    (send : κ → m (Except (List Event) Delivery)) (now : Timestamp) (fresh : FieldValue)
    (incoming : Incoming) : m (Response × List Event) := do
  let (response, events) ← server.answer send now (identified incoming fresh)
  pure ((response.finish incoming.method).withDefault .requestId (requestId incoming fresh),
    events)

end Server

end HttpGateway
