import HttpGateway.Access.Identity
import HttpGateway.Backend.Courier
import HttpGateway.Gateway.Handler

/-!
# Configurations

A configuration describes a gateway, the server before it and the backend behind it. Everything
but the names of policies and the methods, paths and commands of routes has a default.
-/

namespace HttpGateway

/-- Where requests come in. -/
structure Listener where
  /-- The address to listen at. -/
  bindAddress : String := "0.0.0.0:8080"
  /-- The greatest length of a request's body. -/
  maxBodyBytes : Nat := 2097152
deriving DecidableEq, Repr

/-- The settings of a gateway that is not configured. -/
def Settings.default : Settings := ⟨"command-gateway", "development", none, false⟩

/-- The repetition of commands when it is not configured. -/
def Retries.default : Retries := ⟨true, 3, 100, 2000⟩

/-- Where commands are sent. -/
structure Backend where
  /-- The URL of the backend. -/
  url : String := "http://127.0.0.1:3000/commands"
  /-- How long an attempt may take, in seconds. -/
  timeoutSeconds : Nat := 10
deriving DecidableEq, Repr

/-- What is logged and measured. -/
structure Observability where
  /-- The level of the log. -/
  logLevel : String := "info"
  /-- Whether the log is written as JSON. -/
  jsonLogs : Bool := false
  /-- Whether metrics are served. -/
  metricsEnabled : Bool := false
  /-- The address at which metrics are served. -/
  metricsAddress : String := "0.0.0.0:9090"
deriving DecidableEq, Repr

/-- The filter of the log: the level for the gateway and for the server's layers. -/
def Observability.filter (o : Observability) : String :=
  "command_gateway=" ++ o.logLevel ++ ",tower_http=" ++ o.logLevel

/-- A policy in a configuration. -/
structure PolicyConfig where
  /-- The name. -/
  name : String
  /-- The roles of which any one is enough. -/
  roles : List String
  /-- The claims that all have to be there, with their accepted values. -/
  claims : Dict (List String)
deriving DecidableEq

/-- A route in a configuration. -/
structure RouteConfig where
  /-- The method. -/
  method : String
  /-- The template of the path. -/
  path : String
  /-- The name of the command. -/
  command : String
  /-- How a success is answered. -/
  response : Shape
  /-- Whether every caller may pass. -/
  allowAnonymous : Bool
  /-- The roles of which any one is enough. -/
  roles : List String
  /-- The names of the policies that all have to hold. -/
  policies : List String
  /-- The claims that all have to be there, with their accepted values. -/
  claims : Dict (List String)
  /-- The media type of a success, unless it is JSON. -/
  contentType : Option String
  /-- Further header fields of a success. -/
  headers : Dict String
deriving DecidableEq

/-- A configuration. -/
structure Config where
  /-- Where requests come in. -/
  listener : Listener := {}
  /-- The settings of the gateway. -/
  gateway : Settings := .default
  /-- The header fields that carry identities. -/
  identity : IdentityHeaders := ⟨none, none⟩
  /-- How long a request may take, in seconds. -/
  requestSeconds : Nat := 30
  /-- Where commands are sent. -/
  backend : Backend := {}
  /-- How often and how soon a command is sent again. -/
  retries : Retries := .default
  /-- What is logged and measured. -/
  observability : Observability := {}
  /-- The policies. -/
  policies : List PolicyConfig := []
  /-- The routes in the order in which they are tried. -/
  routes : List RouteConfig := []
deriving DecidableEq

end HttpGateway
