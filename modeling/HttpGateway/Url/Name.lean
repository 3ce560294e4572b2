import HttpGateway.Text.Canonical
import HttpGateway.Url.Denied
import HttpGateway.Url.Direction
import HttpGateway.Url.Joining
import HttpGateway.Url.Mapping
import HttpGateway.Url.Punycode

/-!
# Host names

A host name is labels with dots between them. It is folded first: every character is replaced by
the text it stands for, and the whole is composed. A label of the folded name is then plain or
marked as encoded; an encoded one stands for characters that are not all ASCII and that folding
leaves as they are. The characters of a label have to be allowed; the first is no combining mark,
joiners stand where they do something, and the labels together show in one direction each.
-/

namespace HttpGateway.Url

/-- Whether a character is a control character of ASCII or a space. -/
def isControlOrSpace (c : Char) : Bool := c.toNat ≤ 0x20

/-- Whether an ASCII character may not stand in a host name. -/
def isForbidden (c : Char) : Bool :=
  isControlOrSpace c || c.toNat == 0x7F || "%#/:<>?@[\\]^|".toList.contains c

/-- Whether a folded character may stand in a host name. -/
def isNameChar (c : Char) : Bool := if c.toNat < 0x80 then !isForbidden c else !isDenied c

/-- Whether a character is one of ASCII. -/
def isAscii (c : Char) : Bool := c.toNat < 0x80

/-- The characters of a host name in the form in which they are compared. -/
def foldName (name : List Char) : List Char := Text.compose (name.flatMap mapChar)

namespace Label

/-- The characters that mark a label as encoded. -/
def encodedMark : List Char := "xn--".toList

/-- The greatest length of an encoded label, its mark apart. -/
def encodedLimit : Nat := 2000

/-- The greatest length of a label that has to be encoded. -/
def plainLimit : Nat := 1000

/-- The characters that an encoded label without its mark stands for. -/
def decode? (encoded : List Char) : Option (List Char) := do
  guard (encoded.all isAscii && encoded.length ≤ encodedLimit)
  let chars ← Punycode.decode? encoded
  guard (!chars.all isAscii && foldName chars == chars)
  return chars

/-- The characters that a folded label stands for; none when it is too long or not sound. -/
def chars? (label : List Char) : Option (List Char) :=
  if label.take 4 = encodedMark then decode? (label.drop 4)
  else if label.all isAscii || label.length ≤ plainLimit then some label
  else none

/-- Whether the characters that a label stands for make up a label. -/
def isSound (chars : List Char) : Bool :=
  chars.all isNameChar && !chars.head?.any Text.isMark && isSoundJoining [] chars

end Label

/-- Whether a folded name is a host name. -/
def isHostName (name : List Char) : Bool :=
  match (name.splitOn '.').mapM Label.chars? with
  | some labels => labels.all Label.isSound && isSoundDirection labels
  | none => false

end HttpGateway.Url
