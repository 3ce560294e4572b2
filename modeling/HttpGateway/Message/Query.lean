import HttpGateway.Dict
import HttpGateway.Text.Percent

/-!
# Queries of form pairs

A query is a list of pairs between ampersands, each a name and a value around the first equals
sign. A plus sign stands for a space, and percent-encoded octets for themselves.
-/

namespace HttpGateway.Query

/-- A name or a value of a pair as text; octets that are not UTF-8 show as U+FFFD. -/
def decodePart (part : List UInt8) : String :=
  Text.Utf8.decodeLossy (Text.Percent.decode (part.map fun b => if b = 0x2B then 0x20 else b))

/-- The name and the value of a pair; without an equals sign the value is empty. -/
def decodePair (pair : List UInt8) : String × String :=
  (decodePart (pair.takeWhile (· != 0x3D)), decodePart ((pair.dropWhile (· != 0x3D)).drop 1))

/-- The pairs of a query in order; empty ones are passed over. -/
def pairs (query : List UInt8) : List (String × String) :=
  ((query.splitOn 0x26).filter (!·.isEmpty)).map decodePair

/-- The values of a query by name; of two pairs with one name the later counts. -/
def read (query : List UInt8) : Dict String := Dict.ofList (pairs query)

end HttpGateway.Query
