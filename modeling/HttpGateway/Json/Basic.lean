import HttpGateway.Dict
import HttpGateway.Number.Dyadic

/-!
# JSON values

A JSON number is an integer or a finite binary number. An object is a list of members in the
order in which they are written; `Json.ofDict` and `Json.ofMembers` give the members in
increasing order of their names, each name once, which is the order every object read has.
-/

namespace HttpGateway

/-- A JSON number. -/
inductive Json.Number
  /-- An integer, kept exactly. -/
  | integer (n : Int)
  /-- Any other number. -/
  | real (x : Dyadic)
deriving DecidableEq, Inhabited

/-- A JSON value. -/
inductive Json
  /-- The null value. -/
  | null
  /-- A truth value. -/
  | bool (b : Bool)
  /-- A number. -/
  | number (n : Json.Number)
  /-- A string. -/
  | string (s : String)
  /-- An array. -/
  | array (items : List Json)
  /-- An object, as the list of its members. -/
  | object (members : List (String × Json))
deriving Inhabited

namespace Json

/-- The integers that a number is kept as, if it is written without a fraction or an exponent. -/
def inIntegerRange (n : Int) : Bool := -9223372036854775808 ≤ n && n ≤ 18446744073709551615

/-- The number of a natural. -/
def ofNat (n : Nat) : Json := .number (.integer n)

/-- The object of a dictionary. -/
def ofDict (d : Dict Json) : Json := .object d.entries

/-- The object with the given members in increasing order of their names; of two with one name
the later counts. -/
def ofMembers (members : List (String × Json)) : Json := ofDict (Dict.ofList members)

/-- The object of a dictionary of texts. -/
def ofTexts (d : Dict String) : Json := ofDict (d.map .string)

/-- The value of a member. -/
def member? (name : String) : Json → Option Json
  | .object members => members.lookup name
  | _ => none

/-- The text of a string. -/
def text? : Json → Option String
  | .string s => some s
  | _ => none

end Json

end HttpGateway
