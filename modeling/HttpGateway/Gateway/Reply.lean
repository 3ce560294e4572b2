import HttpGateway.Access.Authorization
import HttpGateway.Json.Printer
import HttpGateway.Text.Utf8

/-!
# Replies

A reply is a status, header fields and a JSON value or nothing. `Reply.response` writes it as a
message: the value as its compact text, save that a string is written verbatim under a media type
that does not name JSON.
-/

namespace HttpGateway

/-- An answer before it is written. -/
structure Reply where
  /-- The status. -/
  status : Status
  /-- The header fields. -/
  headers : Headers
  /-- The value of the body, if there is one. -/
  body : Option Json

/-- An answer as it is sent. -/
structure Response where
  /-- The status. -/
  status : Status
  /-- The header fields. -/
  headers : Headers
  /-- The text of the body. -/
  body : String

/-- A point in time of the calendar, in universal time. -/
structure Timestamp where
  /-- The year. -/
  year : Nat
  /-- The month, from one. -/
  month : Nat
  /-- The day of the month, from one. -/
  day : Nat
  /-- The hour. -/
  hour : Nat
  /-- The minute. -/
  minute : Nat
  /-- The second. -/
  second : Nat
  /-- The millisecond. -/
  millisecond : Nat
deriving DecidableEq, Repr

/-- A number with zeros in front up to a width. -/
def padded (width n : Nat) : String :=
  let digits := Nat.toDigits 10 n
  String.ofList (List.replicate (width - digits.length) '0' ++ digits)

/-- A point in time as text: date, the letter T, time, and the letter Z. -/
def Timestamp.text (t : Timestamp) : String :=
  padded 4 t.year ++ "-" ++ padded 2 t.month ++ "-" ++ padded 2 t.day ++ "T" ++
    padded 2 t.hour ++ ":" ++ padded 2 t.minute ++ ":" ++ padded 2 t.second ++ "." ++
    padded 3 t.millisecond ++ "Z"

namespace Reply

/-- A reply with a value. -/
def json (status : Status) (value : Json) : Reply := ⟨status, ∅, some value⟩

/-- A reply without a body. -/
def empty (status : Status) : Reply := ⟨status, ∅, none⟩

/-- A reply with a heading and details of what went wrong. -/
def error (status : Status) (heading details : String) : Reply :=
  json status (.ofMembers [("error", .string heading), ("details", .string details)])

/-- The reply to a request that no route fits. -/
def routeNotFound (path method : String) : Reply :=
  json .notFound (.ofMembers
    [("error", .string "Route not found"), ("path", .string path), ("method", .string method)])

/-- The reply to a caller who is not known. -/
def unauthenticated (reason : String) : Reply := error .unauthorized "Unauthorized" reason

/-- The reply to a caller who is known and may not do this. -/
def forbidden (reason : String) : Reply := error .forbidden "Forbidden" reason

/-- The details of a failure that is answered without its message. -/
def redacted : String := "internal error"

/-- The reply to a request that failed; with `redact` the message of a failure of no particular
kind is withheld. -/
def ofFailure (failure : Failure) (redact : Bool) : Reply :=
  error failure.kind.status failure.kind.heading
    (if failure.kind == .other && redact then redacted else failure.message)

/-- The reply of a gateway that is well. -/
def health (function environment : String) (now : Timestamp) : Reply :=
  json .ok (.ofMembers
    [("status", .string "healthy"), ("function", .string function),
      ("timestamp", .string now.text), ("environment", .string environment)])

/-- The reply with a header field set, unless its name or value is not legal. -/
def withHeader (reply : Reply) (name value : String) : Reply :=
  { reply with headers := reply.headers.insertText name value }

/-- The media type, if it is set and readable. -/
def contentType? (reply : Reply) : Option String :=
  (reply.headers.get? .contentType).bind FieldValue.text?

/-- The media type of JSON. -/
def jsonType : FieldValue := ⟨Text.Utf8.encode "application/json", by decide +kernel⟩

/-- Whether a text holds another somewhere. -/
def holds (part : List Char) : List Char → Bool
  | [] => part.isEmpty
  | c :: rest => part.isPrefixOf (c :: rest) || holds part rest

/-- Whether a media type names JSON; in lower case only. -/
def namesJson (contentType : String) : Bool := holds "json".toList contentType.toList

/-- Whether the body is JSON: the media type names it, or is not set or not readable. -/
def isJson (reply : Reply) : Bool := (reply.contentType?.map namesJson).getD true

/-- The text of a value in the body. -/
def bodyText (reply : Reply) (value : Json) : String :=
  match value with
  | .string text => if reply.isJson then value.text else text
  | _ => value.text

/-- The reply as it is sent. A body without a media type is given that of JSON. -/
def response (reply : Reply) : Response :=
  match reply.body with
  | none => ⟨reply.status, reply.headers, ""⟩
  | some value =>
    let headers :=
      if reply.headers.contains .contentType then reply.headers
      else reply.headers.insert .contentType jsonType
    ⟨reply.status, headers, reply.bodyText value⟩

end Reply

end HttpGateway
