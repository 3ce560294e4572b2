import HttpGateway.Config.Load
import HttpGateway.Config.Wiring

/-!
# Starting from a configuration

The command line names the file of the configuration. Starting loads it and builds everything
that it describes, or tells in one line why it cannot.
-/

namespace HttpGateway.Startup

/-- The file of the configuration when the command line names none. -/
def defaultPath : String := "gateway.toml"

/-- The path that follows the equals sign of an argument with a name. -/
def attachedPath? (name argument : String) : Option String :=
  let lead := (name ++ "=").toList
  if lead.isPrefixOf argument.toList then
    some (String.ofList (argument.toList.drop lead.length))
  else none

/-- The file that the arguments of the command line name, none if they are not understood. -/
def path? : List String → Option String
  | [] => some defaultPath
  | ["-c", path] => some path
  | ["--config", path] => some path
  | [argument] => attachedPath? "--config" argument <|> attachedPath? "-c" argument
  | _ => none

/-- What a configuration describes, built. -/
structure Parts where
  /-- The gateway. -/
  gateway : Gateway Command
  /-- The courier to the backend. -/
  courier : Courier

/-- Build what a configuration describes, or tell why it cannot be built. -/
def parts (config : Config) : Except String Parts := do
  let registry ← config.registry.mapError DuplicatePolicy.message
  let table ← config.table.mapError DuplicateParameter.message
  let courier ← config.courier.mapError UriFault.message
  pure ⟨⟨table, registry, config.gateway⟩, courier⟩

/-- The line that tells what was built. -/
def summary (parts : Parts) : String :=
  toString parts.gateway.table.routes.length ++ " routes, " ++
    toString parts.gateway.registry.size ++ " policies, backend " ++
    parts.courier.endpoint.text

/-- Load a file and build what it describes: the line that tells what was built, or the one that
tells what went wrong. -/
def start (file : Option (List UInt8)) : Except String String := do
  let config ← (Config.load file).mapError LoadFault.message
  let parts ← parts config
  pure (summary parts)

end HttpGateway.Startup
