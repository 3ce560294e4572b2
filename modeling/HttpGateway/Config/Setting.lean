import HttpGateway.Json.Basic

/-!
# Settings

A setting is a value of a configuration text before its meaning is known. Both formats that a
configuration may be written in, JSON and TOML, are read as settings. A date or time of TOML
counts as a table with one entry.
-/

namespace HttpGateway

/-- A value of a configuration text. -/
inductive Setting
  /-- The null value, which only JSON has. -/
  | null
  /-- A truth value. -/
  | bool (b : Bool)
  /-- An integer. -/
  | integer (n : Int)
  /-- A number that is not kept as an integer; no setting asks for one. -/
  | real
  /-- A text. -/
  | text (s : String)
  /-- A date or a time, as text. -/
  | moment (text : String)
  /-- A list of values. -/
  | list (items : List Setting)
  /-- A table of values by name. -/
  | table (entries : List (String × Setting))
deriving Inhabited

namespace Setting

mutual

/-- The setting of a JSON value. -/
def ofJson : Json → Setting
  | .null => .null
  | .bool b => .bool b
  | .number (.integer n) => .integer n
  | .number (.real _) => .real
  | .string s => .text s
  | .array items => .list (ofItems items)
  | .object members => .table (ofEntries members)

/-- The settings of a list of JSON values. -/
def ofItems : List Json → List Setting
  | [] => []
  | item :: rest => ofJson item :: ofItems rest

/-- The settings of the members of a JSON object. -/
def ofEntries : List (String × Json) → List (String × Setting)
  | [] => []
  | (name, value) :: rest => (name, ofJson value) :: ofEntries rest

end

end Setting

end HttpGateway
