import HttpGateway.Failure
import HttpGateway.Json.Reader
import HttpGateway.Message.Status
import HttpGateway.Text.Blank

/-!
# Attempts at the backend

What the backend does with a command that is posted to it decides what comes of the attempt
(`Attempt.ofExchange`). An attempt ends in one of four ways; an answer with a body that is too long
or breaks off counts as an exchange that broke off, whatever its status. Only two kinds of attempt
may be repeated, because the backend cannot have acted on the command: it was not reached, or it
answered that it is not there. The last attempt gives the result: the value of a successful
answer, or a failure.
-/

namespace HttpGateway

/-- What the backend does with a command that is posted to it. -/
inductive Exchange
  /-- It is not reached. -/
  | refused (cause : String)
  /-- It breaks the exchange off before it answers. -/
  | dropped (cause : String)
  /-- It does not begin to answer in time. -/
  | silent
  /-- It answers, and some octets of the body arrive: all of them, unless the body breaks off. -/
  | replied (status : Status) (body : List UInt8) (cut : Option String)
deriving DecidableEq

/-- What came of an attempt. -/
inductive Attempt
  /-- The backend was not reached. -/
  | unreachable (cause : String)
  /-- The exchange broke off. -/
  | broken (cause : String)
  /-- There was no answer in time. -/
  | timedOut
  /-- The backend answered. -/
  | answered (status : Status) (body : List UInt8)
deriving DecidableEq

namespace Attempt

/-- The greatest length of an answer's body. -/
def bodyLimit : Nat := 4194304

/-- What comes of an attempt that is answered. No more is read of a body than is needed to see that
it is too long, so that one which then breaks off is too long as well. -/
def ofAnswer (status : Status) (body : List UInt8) (cut : Option String) : Attempt :=
  if bodyLimit < body.length then .broken "length limit exceeded"
  else
    match cut with
    | some cause => .broken cause
    | none => .answered status body

/-- An answer with a whole body within the limit is taken as it is. -/
theorem ofAnswer_of_short {status : Status} {body : List UInt8}
    (short : body.length ≤ bodyLimit) : ofAnswer status body none = .answered status body :=
  if_neg (Nat.not_lt.2 short)

/-- An answer with a body beyond the limit counts as an exchange that broke off. -/
theorem ofAnswer_of_long {status : Status} {body : List UInt8} {cut : Option String}
    (long : bodyLimit < body.length) :
    ofAnswer status body cut = .broken "length limit exceeded" :=
  if_pos long

/-- What comes of an attempt by what the backend does. -/
def ofExchange : Exchange → Attempt
  | .refused cause => unreachable cause
  | .dropped cause => broken cause
  | .silent => timedOut
  | .replied status body cut => ofAnswer status body cut

/-- Whether a status, if there is one, or a failure to connect allows another attempt. -/
def mayRepeat (status : Option Status) (connectionFailed : Bool) : Bool :=
  connectionFailed || status == some .badGateway || status == some .serviceUnavailable

/-- Whether another attempt may follow. -/
def isRetryable : Attempt → Bool
  | unreachable _ => mayRepeat none true
  | broken _ => mayRepeat none false
  | timedOut => mayRepeat none false
  | answered status _ => mayRepeat (some status) false

/-- The value of a successful answer: what its JSON text stands for, null if it is empty, and its
text if it is no JSON. -/
def value (body : List UInt8) : Json :=
  match Json.read? body with
  | some value => value
  | none => if body.isEmpty then .null else .string (Text.Utf8.decodeLossy body)

/-- The members that may hold the message of a failure, the first of them that is a string. -/
def messageMember? (value : Json) : Option String :=
  ["details", "error", "message"].findSome? fun name => (value.member? name).bind Json.text?

/-- The text of a body without blanks at its ends, unless nothing is left. -/
def trimmedText? (body : List UInt8) : Option String :=
  let text := Text.trim (Text.Utf8.decodeLossy body)
  if text = "" then none else some text

/-- The message of a failed answer: from a member of its JSON object, or else its text, or else
the reason phrase of its status. -/
def message (status : Status) (body : List UInt8) : String :=
  match (Json.read? body).bind messageMember? with
  | some message => message
  | none => (trimmedText? body).getD (status.reason?.getD "backend error")

/-- The kind of failure that a status stands for. -/
def failureKind (status : Status) : FailureKind :=
  if status = .badRequest ∨ status = .unprocessable then .validation
  else if status = .unauthorized then .unauthorized
  else if status = .forbidden then .forbidden
  else if status = .notFound then .notFound
  else if status = .conflict then .conflict
  else .other

/-- The result of an answer. -/
def classify (status : Status) (body : List UInt8) : Except Failure Json :=
  if status.isSuccess then .ok (value body)
  else .error ⟨failureKind status, message status body⟩

/-- The result of an attempt after which no other is made. -/
def result : Attempt → Except Failure Json
  | unreachable cause => .error ⟨.other, "backend unreachable: " ++ cause⟩
  | broken cause => .error ⟨.other, "backend request failed: " ++ cause⟩
  | timedOut => .error ⟨.other, "backend timed out"⟩
  | answered status body => classify status body

end Attempt

end HttpGateway
