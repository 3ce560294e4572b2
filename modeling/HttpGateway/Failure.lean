import HttpGateway.Message.Status

/-!
# Failures

A request that reaches a route can still fail: its command cannot be built, or the backend
refuses or loses it. A failure is of one of six kinds and carries a message. The kind decides
the status of the answer.
-/

namespace HttpGateway

/-- The kinds of failure. -/
inductive FailureKind
  /-- The request is not acceptable. -/
  | validation
  /-- What the request is about does not exist. -/
  | notFound
  /-- The caller is not known to the backend. -/
  | unauthorized
  /-- The backend does not let the caller do this. -/
  | forbidden
  /-- The request contradicts the present state. -/
  | conflict
  /-- Any other failure. -/
  | other
deriving DecidableEq, Repr, Inhabited

/-- A failure to build or to carry out a command. -/
structure Failure where
  /-- What kind of failure it is. -/
  kind : FailureKind
  /-- What happened. -/
  message : String
deriving DecidableEq, Repr, Inhabited

namespace FailureKind

/-- The status of the answer to a request that failed. -/
def status : FailureKind → Status
  | validation => .badRequest
  | notFound => .notFound
  | unauthorized => .unauthorized
  | forbidden => .forbidden
  | conflict => .conflict
  | other => .internalServerError

/-- The heading of the answer to a request that failed. -/
def heading : FailureKind → String
  | validation => "Validation failed"
  | notFound => "Not found"
  | unauthorized => "Unauthorized"
  | forbidden => "Forbidden"
  | conflict => "Conflict"
  | other => "Internal server error"

/-- The words before the message in a log line. -/
def lead : FailureKind → String
  | validation => "validation failed: "
  | notFound => "not found: "
  | unauthorized => "unauthorized: "
  | forbidden => "forbidden: "
  | conflict => "conflict: "
  | other => ""

end FailureKind

/-- A failure as a log line. -/
def Failure.display (failure : Failure) : String := failure.kind.lead ++ failure.message

end HttpGateway
