import HttpGateway.Config.Check
import HttpGateway.Config.Schema
import HttpGateway.Text.Utf8
import HttpGateway.Toml.Document

/-!
# Loading configurations

A configuration is loaded from a TOML text, or from the octets of a file. It has to be readable
and free of findings.
-/

namespace HttpGateway

/-- Why a configuration is not loaded. -/
inductive LoadFault
  /-- There is no file. -/
  | missing
  /-- The octets of the file are not UTF-8. -/
  | illFormed
  /-- The text is no TOML, or no configuration. -/
  | unreadable
  /-- The configuration makes no sense. -/
  | rejected (findings : List Finding)
deriving DecidableEq, Repr

/-- The description of a fault. -/
def LoadFault.message : LoadFault → String
  | missing => "IO error: No such file or directory (os error 2)"
  | illFormed => "IO error: stream did not contain valid UTF-8"
  | unreadable => "Parse error: invalid configuration"
  | rejected findings =>
    "Validation failed: " ++ ", ".intercalate (findings.map Finding.message)

namespace Config

/-- The configuration that a TOML text describes, sound or not. -/
def ofToml? (text : String) : Option Config := (Toml.read? text).bind (ofSetting? .toml)

/-- The configuration of a TOML text. -/
def parse (text : String) : Except LoadFault Config :=
  match ofToml? text with
  | none => .error .unreadable
  | some config => if config.findings = [] then .ok config else .error (.rejected config.findings)

/-- The configuration of a file with some octets, or without a file. -/
def load (file : Option (List UInt8)) : Except LoadFault Config :=
  match file with
  | none => .error .missing
  | some octets =>
    match Text.Utf8.decode? octets with
    | none => .error .illFormed
    | some text => parse text

end Config

end HttpGateway
