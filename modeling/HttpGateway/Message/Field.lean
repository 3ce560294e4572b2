import HttpGateway.Text.Utf8

/-!
# Header fields

A field name is a token in lower case, and a field value is a list of octets without control
characters other than the tab. A message carries its fields in order, and several of them may
have one name: `Headers.get?` reads the first, `Headers.insert` leaves one, and
`Headers.append` adds one.
-/

namespace HttpGateway

/-- Whether a character may stand in a token: an ASCII letter or digit, or one of fifteen marks. -/
def isTokenChar (c : Char) : Bool :=
  c.isAlphanum || "!#$%&'*+-.^_\x60|~".toList.contains c

/-- Whether a text is a token. -/
def isToken (s : String) : Bool := !s.toList.isEmpty && s.toList.all isTokenChar

/-- A text with its ASCII letters in lower case. -/
def asciiLowercase (s : String) : String := String.ofList (s.toList.map Char.toLower)

/-- The greatest length of a field name. -/
def FieldName.limit : Nat := 65535

/-- Whether a text is a field name as it is stored. -/
def FieldName.isLegal (s : String) : Bool :=
  isToken s && s.toList.length ≤ limit && asciiLowercase s == s

/-- The name of a header field, a token in lower case. -/
structure FieldName where
  /-- The name as text. -/
  text : String
  /-- The text is a token in lower case that is not too long. -/
  legal : FieldName.isLegal text = true
deriving DecidableEq

/-- The field name that a text stands for in any letter case. -/
def FieldName.read? (s : String) : Option FieldName :=
  if h : isLegal (asciiLowercase s) = true then some ⟨asciiLowercase s, h⟩ else none

/-- The name of the field that gives the media type of a body. -/
def FieldName.contentType : FieldName := ⟨"content-type", by decide +kernel⟩

/-- The name of the field that gives the length of a body. -/
def FieldName.contentLength : FieldName := ⟨"content-length", by decide +kernel⟩

/-- The name of the field that identifies a request. -/
def FieldName.requestId : FieldName := ⟨"x-request-id", by decide +kernel⟩

/-- Whether an octet may stand in a field value: any but the control characters, the tab apart. -/
def FieldValue.isLegalOctet (b : UInt8) : Bool := (0x20 ≤ b.toNat && b.toNat != 0x7F) || b == 0x09

/-- The value of a header field. -/
structure FieldValue where
  /-- The octets of the value. -/
  octets : List UInt8
  /-- No octet is a control character other than the tab. -/
  legal : octets.all FieldValue.isLegalOctet = true
deriving DecidableEq

namespace FieldValue

/-- The value with the given octets. -/
def ofOctets? (octets : List UInt8) : Option FieldValue :=
  if h : octets.all isLegalOctet = true then some ⟨octets, h⟩ else none

/-- The value with the octets of a text. -/
def read? (s : String) : Option FieldValue := ofOctets? (Text.Utf8.encode s)

/-- Whether an octet is a visible ASCII character, a space or a tab. -/
def isReadable (b : UInt8) : Bool := (0x20 ≤ b.toNat && b.toNat < 0x7F) || b == 0x09

/-- The value as text, which a value with any octet beyond ASCII does not have. -/
def text? (value : FieldValue) : Option String :=
  if value.octets.all isReadable then
    some (String.ofList (value.octets.map fun b => Char.ofNat b.toNat))
  else none

end FieldValue

/-- The header fields of a message in order. -/
structure Headers where
  /-- The fields, each a name and a value. -/
  fields : List (FieldName × FieldValue)
deriving DecidableEq

namespace Headers

/-- No fields. -/
def empty : Headers := ⟨[]⟩

instance : EmptyCollection Headers := ⟨empty⟩

instance : Inhabited Headers := ⟨empty⟩

/-- The value of the first field with a name. -/
def get? (headers : Headers) (name : FieldName) : Option FieldValue := headers.fields.lookup name

/-- Whether a field with a name is present. -/
def contains (headers : Headers) (name : FieldName) : Bool := (headers.get? name).isSome

/-- The fields with one more at the end. -/
def append (headers : Headers) (name : FieldName) (value : FieldValue) : Headers :=
  ⟨headers.fields ++ [(name, value)]⟩

/-- The fields without those of a name. -/
def erase (headers : Headers) (name : FieldName) : Headers :=
  ⟨headers.fields.filter fun field => field.1 != name⟩

/-- The fields with those of a name replaced by one. -/
def insert (headers : Headers) (name : FieldName) (value : FieldValue) : Headers :=
  (headers.erase name).append name value

/-- The fields with those of a name replaced by one, unless the name or the value is not legal;
then the fields stay as they are. -/
def insertText (headers : Headers) (name value : String) : Headers :=
  match FieldName.read? name, FieldValue.read? value with
  | some name, some value => headers.insert name value
  | _, _ => headers

/-- The text of the first field with a name given as text in any letter case. -/
def text? (headers : Headers) (name : String) : Option String :=
  (FieldName.read? name).bind fun name => (headers.get? name).bind FieldValue.text?

end Headers

end HttpGateway
