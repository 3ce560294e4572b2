import HttpGateway.Config.Basic

/-!
# Writing configurations

A configuration is written as a JSON value in which every field has its value, a field that is
not set the null value.
-/

namespace HttpGateway

/-- A text, or null if there is none. -/
def Json.ofOptionalText (s : Option String) : Json := (s.map .string).getD .null

/-- A list of texts. -/
def Json.ofTextList (l : List String) : Json := .array (l.map .string)

/-- A policy as JSON. -/
def PolicyConfig.json (p : PolicyConfig) : Json :=
  .ofMembers [("name", .string p.name), ("roles", .ofTextList p.roles),
    ("claims", .ofDict (p.claims.map .ofTextList))]

/-- A route as JSON. -/
def RouteConfig.json (r : RouteConfig) : Json :=
  .ofMembers [("method", .string r.method), ("path", .string r.path),
    ("command", .string r.command), ("response", .string r.response.name),
    ("allow_anonymous", .bool r.allowAnonymous), ("roles", .ofTextList r.roles),
    ("policies", .ofTextList r.policies), ("claims", .ofDict (r.claims.map .ofTextList)),
    ("content_type", .ofOptionalText r.contentType), ("headers", .ofTexts r.headers)]

/-- A configuration as JSON. -/
def Config.json (c : Config) : Json :=
  .ofMembers [
    ("listener", .ofMembers [("bind_address", .string c.listener.bindAddress),
      ("max_body_bytes", .ofNat c.listener.maxBodyBytes)]),
    ("gateway", .ofMembers [("function_name", .string c.gateway.function),
      ("environment", .string c.gateway.environment),
      ("stage_prefix", .ofOptionalText c.gateway.stage),
      ("redact_internal_errors", .bool c.gateway.redact)]),
    ("identity", .ofMembers [("claims_header", .ofOptionalText c.identity.claims),
      ("context_header", .ofOptionalText c.identity.context)]),
    ("timeouts", .ofMembers [("request_secs", .ofNat c.requestSeconds)]),
    ("backend", .ofMembers [("url", .string c.backend.url),
      ("timeout_secs", .ofNat c.backend.timeoutSeconds)]),
    ("retries", .ofMembers [("enabled", .bool c.retries.enabled),
      ("max_attempts", .ofNat c.retries.maxAttempts.toNat),
      ("base_delay_ms", .ofNat c.retries.baseDelay.toNat),
      ("max_delay_ms", .ofNat c.retries.maxDelay.toNat)]),
    ("observability", .ofMembers [("log_level", .string c.observability.logLevel),
      ("json_logs", .bool c.observability.jsonLogs),
      ("metrics_enabled", .bool c.observability.metricsEnabled),
      ("metrics_address", .string c.observability.metricsAddress)]),
    ("policies", .array (c.policies.map PolicyConfig.json)),
    ("routes", .array (c.routes.map RouteConfig.json))]

end HttpGateway
