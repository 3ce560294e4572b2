import HttpGateway.Config.Basic
import HttpGateway.Config.Setting

/-!
# Reading configurations

A configuration is read from settings. Each part is a record: a table in which fields are found
by name and others are passed over, or a list of the fields in order. A field that is missing has
a default, or else the settings are refused, as they are when a field holds a value of the wrong
kind. The two formats differ in what they take for a list that is too long and for the name of a
shape with nothing attached to it.
-/

namespace HttpGateway

/-- The formats of a configuration. -/
inductive Format
  /-- JSON. -/
  | json
  /-- TOML. -/
  | toml
deriving DecidableEq, Repr

namespace Setting

/-- The key of the entry that a date or time has as a table. -/
def momentKey : String := "$__toml_private_datetime"

/-- The text of a setting. -/
def text? : Setting → Option String
  | .text s => some s
  | _ => none

/-- The truth value of a setting. -/
def bool? : Setting → Option Bool
  | .bool b => some b
  | _ => none

/-- The natural below a bound that a setting holds. -/
def below? (bound : Nat) : Setting → Option Nat
  | .integer n => if 0 ≤ n ∧ n < bound then some n.toNat else none
  | _ => none

/-- The word of 32 bits that a setting holds. -/
def word32? (s : Setting) : Option UInt32 := (s.below? UInt32.size).map UInt32.ofNat

/-- The word of 64 bits that a setting holds. -/
def word64? (s : Setting) : Option UInt64 := (s.below? UInt64.size).map UInt64.ofNat

/-- A text, or nothing for null. -/
def optionalText? : Setting → Option (Option String)
  | .null => some none
  | s => s.text?.map some

/-- The items of a list, each read with `item`. -/
def list? {α : Type} (item : Setting → Option α) : Setting → Option (List α)
  | .list items => items.mapM item
  | _ => none

/-- The entries of a table. -/
def entries? : Setting → Option (List (String × Setting))
  | .table entries => some entries
  | .moment written => some [(momentKey, .text written)]
  | _ => none

/-- The dictionary of a table, each value read with `value`. -/
def dict? {α : Type} (value : Setting → Option α) (s : Setting) : Option (Dict α) :=
  s.entries?.bind fun entries =>
    (entries.mapM fun entry => (value entry.2).map (entry.1, ·)).map Dict.ofList

/-- The fields of a record with the given names, by name. -/
def record? (format : Format) (names : List String) (s : Setting) :
    Option (String → Option Setting) :=
  match s with
  | .list items =>
    if format = .json ∧ names.length < items.length then none
    else some fun name => (names.zip items).lookup name
  | s => s.entries?.map fun entries name => entries.lookup name

/-- Whether nothing is attached to the name of a shape. -/
def isBare (format : Format) : Setting → Bool
  | .null => format == .json
  | .list items => format == .toml && items.isEmpty
  | .table entries => format == .toml && entries.isEmpty
  | _ => false

/-- The shape that a setting names. -/
def shape? (format : Format) : Setting → Option Shape
  | .text name => Shape.ofName? name
  | .table [(name, attached)] => if isBare format attached then Shape.ofName? name else none
  | _ => none

end Setting

/-- The value of a field, or a default if it is missing. -/
def fieldOr {α : Type} (fields : String → Option Setting) (name : String) (default : α)
    (read : Setting → Option α) : Option α :=
  match fields name with
  | some setting => read setting
  | none => some default

/-- The value of a field that has to be there. -/
def required {α : Type} (fields : String → Option Setting) (name : String)
    (read : Setting → Option α) : Option α :=
  (fields name).bind read

namespace Config

/-- Read where requests come in. -/
def readListener (format : Format) (s : Setting) : Option Listener := do
  let fields ← s.record? format ["bind_address", "max_body_bytes"]
  let plain : Listener := {}
  some {
    bindAddress := ← fieldOr fields "bind_address" plain.bindAddress Setting.text?
    maxBodyBytes := ← fieldOr fields "max_body_bytes" plain.maxBodyBytes (Setting.below? UInt64.size) }

/-- Read the settings of a gateway. -/
def readSettings (format : Format) (s : Setting) : Option Settings := do
  let fields ← s.record? format
    ["function_name", "environment", "stage_prefix", "redact_internal_errors"]
  let plain := Settings.default
  some {
    function := ← fieldOr fields "function_name" plain.function Setting.text?
    environment := ← fieldOr fields "environment" plain.environment Setting.text?
    stage := ← fieldOr fields "stage_prefix" plain.stage Setting.optionalText?
    redact := ← fieldOr fields "redact_internal_errors" plain.redact Setting.bool? }

/-- Read the names of the header fields that carry identities. -/
def readIdentity (format : Format) (s : Setting) : Option IdentityHeaders := do
  let fields ← s.record? format ["claims_header", "context_header"]
  some {
    claims := ← fieldOr fields "claims_header" none Setting.optionalText?
    context := ← fieldOr fields "context_header" none Setting.optionalText? }

/-- Read how long a request may take. -/
def readTimeouts (format : Format) (s : Setting) : Option Nat := do
  let fields ← s.record? format ["request_secs"]
  fieldOr fields "request_secs" ({} : Config).requestSeconds (Setting.below? UInt64.size)

/-- Read where commands are sent. -/
def readBackend (format : Format) (s : Setting) : Option Backend := do
  let fields ← s.record? format ["url", "timeout_secs"]
  let plain : Backend := {}
  some {
    url := ← fieldOr fields "url" plain.url Setting.text?
    timeoutSeconds :=
      ← fieldOr fields "timeout_secs" plain.timeoutSeconds (Setting.below? UInt64.size) }

/-- Read how often and how soon a command is sent again. -/
def readRetries (format : Format) (s : Setting) : Option Retries := do
  let fields ← s.record? format ["enabled", "max_attempts", "base_delay_ms", "max_delay_ms"]
  let plain := Retries.default
  some {
    enabled := ← fieldOr fields "enabled" plain.enabled Setting.bool?
    maxAttempts := ← fieldOr fields "max_attempts" plain.maxAttempts Setting.word32?
    baseDelay := ← fieldOr fields "base_delay_ms" plain.baseDelay Setting.word64?
    maxDelay := ← fieldOr fields "max_delay_ms" plain.maxDelay Setting.word64? }

/-- Read what is logged and measured. -/
def readObservability (format : Format) (s : Setting) : Option Observability := do
  let fields ← s.record? format
    ["log_level", "json_logs", "metrics_enabled", "metrics_address"]
  let plain : Observability := {}
  some {
    logLevel := ← fieldOr fields "log_level" plain.logLevel Setting.text?
    jsonLogs := ← fieldOr fields "json_logs" plain.jsonLogs Setting.bool?
    metricsEnabled := ← fieldOr fields "metrics_enabled" plain.metricsEnabled Setting.bool?
    metricsAddress := ← fieldOr fields "metrics_address" plain.metricsAddress Setting.text? }

/-- Read a list of texts. -/
def readTexts (s : Setting) : Option (List String) := s.list? Setting.text?

/-- Read claims with their accepted values. -/
def readClaims (s : Setting) : Option (Dict (List String)) := s.dict? readTexts

/-- Read a policy. -/
def readPolicy (format : Format) (s : Setting) : Option PolicyConfig := do
  let fields ← s.record? format ["name", "roles", "claims"]
  some {
    name := ← required fields "name" Setting.text?
    roles := ← fieldOr fields "roles" [] readTexts
    claims := ← fieldOr fields "claims" ∅ readClaims }

/-- Read a route. -/
def readRoute (format : Format) (s : Setting) : Option RouteConfig := do
  let fields ← s.record? format
    ["method", "path", "command", "response", "allow_anonymous", "roles", "policies", "claims",
      "content_type", "headers"]
  some {
    method := ← required fields "method" Setting.text?
    path := ← required fields "path" Setting.text?
    command := ← required fields "command" Setting.text?
    response := ← fieldOr fields "response" .ok (Setting.shape? format)
    allowAnonymous := ← fieldOr fields "allow_anonymous" false Setting.bool?
    roles := ← fieldOr fields "roles" [] readTexts
    policies := ← fieldOr fields "policies" [] readTexts
    claims := ← fieldOr fields "claims" ∅ readClaims
    contentType := ← fieldOr fields "content_type" none Setting.optionalText?
    headers := ← fieldOr fields "headers" ∅ (Setting.dict? Setting.text?) }

/-- Read a configuration. -/
def ofSetting? (format : Format) (s : Setting) : Option Config := do
  let fields ← s.record? format
    ["listener", "gateway", "identity", "timeouts", "backend", "retries", "observability",
      "policies", "routes"]
  let plain : Config := {}
  some {
    listener := ← fieldOr fields "listener" plain.listener (readListener format)
    gateway := ← fieldOr fields "gateway" plain.gateway (readSettings format)
    identity := ← fieldOr fields "identity" plain.identity (readIdentity format)
    requestSeconds := ← fieldOr fields "timeouts" plain.requestSeconds (readTimeouts format)
    backend := ← fieldOr fields "backend" plain.backend (readBackend format)
    retries := ← fieldOr fields "retries" plain.retries (readRetries format)
    observability :=
      ← fieldOr fields "observability" plain.observability (readObservability format)
    policies := ← fieldOr fields "policies" [] (Setting.list? (readPolicy format))
    routes := ← fieldOr fields "routes" [] (Setting.list? (readRoute format)) }

end Config

end HttpGateway
