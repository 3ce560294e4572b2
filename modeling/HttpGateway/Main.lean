import HttpGateway.Config.Startup

/-!
# The command line

`-c FILE` or `--config FILE` names the file of the configuration, which is loaded and checked.
-/

namespace HttpGateway

/-- The octets of a file, if it can be read. -/
def readFile (path : String) : IO (Option (List UInt8)) := do
  try
    pure (some (← IO.FS.readBinFile path).toList)
  catch _ => pure none

/-- Load the configuration and say what it describes. -/
def run (arguments : List String) : IO UInt32 := do
  match Startup.path? arguments with
  | none =>
    IO.eprintln "usage: http-gateway [--config FILE]"
    pure 2
  | some path =>
    match Startup.start (← readFile path) with
    | .ok line =>
      IO.println line
      pure 0
    | .error line =>
      IO.eprintln line
      pure 1

end HttpGateway

/-- The command line. -/
def main (arguments : List String) : IO UInt32 := HttpGateway.run arguments
