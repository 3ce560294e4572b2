import HttpGateway.Json.Number
import HttpGateway.Text.Utf8

/-!
# Reading JSON

The reader takes octets and returns a value or a fault. A fault names its kind and keeps the
octets after the place it was found at, from which `Fault.place` counts lines and columns. An
object read has its members in increasing order of their names; of two with one name the later
counts. Arrays and objects may be nested 127 deep.
-/

namespace HttpGateway.Json

/-- The ways in which octets fail to be a JSON text. -/
inductive FaultKind
  /-- The input ends where a value is expected. -/
  | endInValue
  /-- The input ends inside a string. -/
  | endInString
  /-- The input ends inside an array. -/
  | endInList
  /-- The input ends inside an object. -/
  | endInObject
  /-- No value begins here. -/
  | expectedValue
  /-- A literal name is misspelt. -/
  | expectedIdent
  /-- A number is not well formed. -/
  | invalidNumber
  /-- A number is too large. -/
  | numberOutOfRange
  /-- Something follows the value. -/
  | trailingCharacters
  /-- A comma stands before a closing bracket. -/
  | trailingComma
  /-- A member does not begin with a string. -/
  | keyMustBeString
  /-- The colon after a member's name is missing. -/
  | expectedColon
  /-- Neither a comma nor the end of an array follows an item. -/
  | expectedListCommaOrEnd
  /-- Neither a comma nor the end of an object follows a member. -/
  | expectedObjectCommaOrEnd
  /-- An unknown escape, or digits that are not hexadecimal. -/
  | invalidEscape
  /-- A leading surrogate is not followed by an escape. -/
  | unexpectedEndOfHexEscape
  /-- A surrogate without its partner. -/
  | loneLeadingSurrogate
  /-- A control character inside a string. -/
  | controlCharacter
  /-- The octets of a string are not UTF-8. -/
  | invalidUnicode
  /-- Arrays and objects are nested too deep. -/
  | recursionLimitExceeded
deriving DecidableEq, Repr

/-- The description of a kind of fault. -/
def FaultKind.message : FaultKind → String
  | .endInValue => "EOF while parsing a value"
  | .endInString => "EOF while parsing a string"
  | .endInList => "EOF while parsing a list"
  | .endInObject => "EOF while parsing an object"
  | .expectedValue => "expected value"
  | .expectedIdent => "expected ident"
  | .invalidNumber => "invalid number"
  | .numberOutOfRange => "number out of range"
  | .trailingCharacters => "trailing characters"
  | .trailingComma => "trailing comma"
  | .keyMustBeString => "key must be a string"
  | .expectedColon => "expected \x60:\x60"
  | .expectedListCommaOrEnd => "expected \x60,\x60 or \x60]\x60"
  | .expectedObjectCommaOrEnd => "expected \x60,\x60 or \x60\x7d\x60"
  | .invalidEscape => "invalid escape"
  | .unexpectedEndOfHexEscape => "unexpected end of hex escape"
  | .loneLeadingSurrogate => "lone leading surrogate in hex escape"
  | .controlCharacter => "control character (\\u0000-\\u001F) found while parsing a string"
  | .invalidUnicode => "invalid unicode code point"
  | .recursionLimitExceeded => "recursion limit exceeded"

/-- A fault and the octets after the place it was found at. -/
structure Fault where
  /-- What is wrong. -/
  kind : FaultKind
  /-- The octets not yet counted. -/
  rest : List UInt8

/-- A place in a text. -/
structure Place where
  /-- The number of the line, from one. -/
  line : Nat
  /-- The number of octets since the last line feed. -/
  column : Nat
deriving DecidableEq, Repr

/-- The place after one more octet. -/
def Place.step (place : Place) (b : UInt8) : Place :=
  if b = 0x0A then ⟨place.line + 1, 0⟩ else ⟨place.line, place.column + 1⟩

/-- The place after some octets. -/
def Place.after (octets : List UInt8) : Place := octets.foldl step ⟨1, 0⟩

/-- The place of a fault found in an input. -/
def Fault.place (fault : Fault) (input : List UInt8) : Place :=
  .after (input.take (input.length - fault.rest.length))

/-- The description of a fault found in an input, with its place. -/
def Fault.message (fault : Fault) (input : List UInt8) : String :=
  let place := fault.place input
  fault.kind.message ++ " at line " ++ toString place.line ++ " column " ++ toString place.column

/-- A fault at the octets read so far. -/
def faultHere {α : Type} (kind : FaultKind) (rest : List UInt8) : Except Fault α :=
  .error ⟨kind, rest⟩

/-- A fault at the next octet, which counts as read. -/
def faultAtNext {α : Type} (kind : FaultKind) (rest : List UInt8) : Except Fault α :=
  .error ⟨kind, rest.tail⟩

/-- Whether an octet is a blank of the format. -/
def isSpace (b : UInt8) : Bool := b == 0x20 || b == 0x0A || b == 0x09 || b == 0x0D

/-- Drop blanks. -/
def skipSpace (input : List UInt8) : List UInt8 := input.dropWhile isSpace

/-- Read the rest of a literal name. -/
def readIdent (value : Json) : List UInt8 → List UInt8 → Except Fault (Json × List UInt8)
  | [], rest => .ok (value, rest)
  | _ :: _, [] => faultHere .endInValue []
  | expected :: more, b :: rest =>
    if b = expected then readIdent value more rest else faultHere .expectedIdent rest

/-- The value of an ASCII decimal digit. -/
def digitValue? (b : UInt8) : Option Nat :=
  if 0x30 ≤ b.toNat ∧ b.toNat ≤ 0x39 then some (b.toNat - 0x30) else none

/-- The leading digits of the input and what follows them. -/
def takeDigits : List UInt8 → List Nat × List UInt8
  | [] => ([], [])
  | b :: rest =>
    match digitValue? b with
    | some d => let (digits, tail) := takeDigits rest; (d :: digits, tail)
    | none => ([], b :: rest)

/-- The greatest exponent that is counted. -/
def exponentLimit : Nat := 2147483647

/-- The smallest counted exponent; it ends the sum with the exponent of the fraction. -/
def clampExponent (e : Int) : Int := max (-2147483648) (min 2147483647 e)

/-- Read on in an exponent: its value, or the octets after the digit that passed the limit. -/
def readExponentDigits (value : Nat) : List UInt8 → Except (List UInt8) (Nat × List UInt8)
  | [] => .ok (value, [])
  | b :: rest =>
    match digitValue? b with
    | some d =>
      if 10 * value + d ≤ exponentLimit then readExponentDigits (10 * value + d) rest
      else .error rest
    | none => .ok (value, b :: rest)

/-- The number of a significand and a power of ten, unless it is too large. -/
def finishReal (negative : Bool) (significand : Nat) (power : Int) (rest : List UInt8) :
    Except Fault (Json × List UInt8) :=
  match real? negative significand power with
  | some n => .ok (.number n, rest)
  | none => faultHere .numberOutOfRange rest

/-- Split the sign of an exponent off: whether it is minus, and what follows. -/
def takeSign : List UInt8 → Bool × List UInt8
  | [] => (false, [])
  | b :: rest =>
    if b = 0x2B then (false, rest)
    else if b = 0x2D then (true, rest)
    else (false, b :: rest)

/-- Read an exponent after its mark. One beyond the limit makes the number zero or too large. -/
def readExponent (negative : Bool) (significand : Nat) (power : Int) (input : List UInt8) :
    Except Fault (Json × List UInt8) :=
  let (down, rest) := takeSign input
  match rest with
  | [] => faultHere .endInValue []
  | b :: tail =>
    match digitValue? b with
    | none => faultHere .invalidNumber tail
    | some d =>
      match readExponentDigits d tail with
      | .ok (e, rest) =>
        let shift : Int := if down then -(e : Int) else e
        finishReal negative significand (clampExponent (power + shift)) rest
      | .error rest =>
        if significand ≠ 0 ∧ down = false then faultHere .numberOutOfRange rest
        else .ok (.number (.real { Dyadic.zero with negative }), (takeDigits rest).2)

/-- Read what may follow the digits of a number's fraction. -/
def readAfterFraction (negative : Bool) (significand : Nat) (power : Int) (input : List UInt8) :
    Except Fault (Json × List UInt8) :=
  match input with
  | b :: tail =>
    if b = 0x65 ∨ b = 0x45 then readExponent negative significand power tail
    else finishReal negative significand power input
  | [] => finishReal negative significand power []

/-- Read a fraction after its point. -/
def readFraction (negative : Bool) (significand : Nat) (power : Int) (input : List UInt8) :
    Except Fault (Json × List UInt8) :=
  let (digits, rest) := takeDigits input
  if digits.isEmpty then
    match rest with
    | [] => faultAtNext .endInValue []
    | _ :: _ => faultAtNext .invalidNumber rest
  else
    let (significand, dropped) := gather significand digits
    readAfterFraction negative significand (power - (digits.length - dropped.length)) rest

/-- Read what may follow the digits of a number's integer part. -/
def readAfterWhole (negative : Bool) (digits : List Nat) (input : List UInt8) :
    Except Fault (Json × List UInt8) :=
  let (significand, dropped) := gather 0 digits
  match input with
  | b :: tail =>
    if b = 0x2E then readFraction negative significand dropped.length tail
    else if b = 0x65 ∨ b = 0x45 then readExponent negative significand dropped.length tail
    else finishWhole input
  | [] => finishWhole []
where
  /-- The number of an integer part with nothing after it. -/
  finishWhole (rest : List UInt8) : Except Fault (Json × List UInt8) :=
    match whole? negative digits with
    | some n => .ok (.number n, rest)
    | none => faultHere .numberOutOfRange rest

/-- Read a number after its sign. A zero is not followed by a digit. -/
def readNumber (negative : Bool) (input : List UInt8) : Except Fault (Json × List UInt8) :=
  match input with
  | [] => faultHere .endInValue []
  | b :: rest =>
    match digitValue? b with
    | none => faultHere .invalidNumber rest
    | some 0 =>
      match rest with
      | next :: _ =>
        if (digitValue? next).isSome then faultAtNext .invalidNumber rest
        else readAfterWhole negative [0] rest
      | [] => readAfterWhole negative [0] []
    | some d =>
      let (digits, rest) := takeDigits rest
      readAfterWhole negative (d :: digits) rest

/-- The value of an ASCII hexadecimal digit. -/
def hexValue? (b : UInt8) : Option Nat :=
  let n := b.toNat
  if 0x30 ≤ n ∧ n ≤ 0x39 then some (n - 0x30)
  else if 0x41 ≤ n ∧ n ≤ 0x46 then some (n - 0x37)
  else if 0x61 ≤ n ∧ n ≤ 0x66 then some (n - 0x57)
  else none

/-- Read four hexadecimal digits. -/
def readHex : List UInt8 → Except Fault (Nat × List UInt8)
  | a :: b :: c :: d :: rest =>
    match hexValue? a, hexValue? b, hexValue? c, hexValue? d with
    | some a, some b, some c, some d => .ok (((a * 16 + b) * 16 + c) * 16 + d, rest)
    | _, _, _, _ => faultHere .invalidEscape rest
  | _ => faultHere .endInString []

/-- Read the second escape of a pair of surrogates after the first, which is given. -/
def readTrailingSurrogate (leading : Nat) : List UInt8 → Except Fault (List UInt8 × List UInt8)
  | [] => faultHere .endInString []
  | b :: rest =>
    if b ≠ 0x5C then faultHere .unexpectedEndOfHexEscape rest
    else
      match rest with
      | [] => faultHere .endInString []
      | u :: rest =>
        if u ≠ 0x75 then faultHere .unexpectedEndOfHexEscape rest
        else do
          let (n, rest) ← readHex rest
          if 0xDC00 ≤ n ∧ n ≤ 0xDFFF then
            let c := Char.ofNat (0x10000 + (leading - 0xD800) * 1024 + (n - 0xDC00))
            .ok (Text.Utf8.encodeChar c, rest)
          else faultHere .loneLeadingSurrogate rest

/-- Read an escape after its backslash, as the octets that it stands for. -/
def readEscape : List UInt8 → Except Fault (List UInt8 × List UInt8)
  | [] => faultHere .endInString []
  | b :: rest =>
    if b = 0x22 ∨ b = 0x5C ∨ b = 0x2F then .ok ([b], rest)
    else if b = 0x62 then .ok ([0x08], rest)
    else if b = 0x66 then .ok ([0x0C], rest)
    else if b = 0x6E then .ok ([0x0A], rest)
    else if b = 0x72 then .ok ([0x0D], rest)
    else if b = 0x74 then .ok ([0x09], rest)
    else if b = 0x75 then do
      let (n, rest) ← readHex rest
      if 0xDC00 ≤ n ∧ n ≤ 0xDFFF then faultHere .loneLeadingSurrogate rest
      else if 0xD800 ≤ n ∧ n ≤ 0xDBFF then readTrailingSurrogate n rest
      else .ok (Text.Utf8.encodeChar (Char.ofNat n), rest)
    else faultHere .invalidEscape rest

/-- Read a string after its opening quotation mark, as octets, after those read before, which are
kept backwards. Each round takes an octet or an escape, so fuel of more than the input's length
is never used up. -/
def readOctets : Nat → List UInt8 → List UInt8 → Except Fault (List UInt8 × List UInt8)
  | 0, _, _ => faultHere .endInString []
  | _ + 1, _, [] => faultHere .endInString []
  | fuel + 1, read, b :: rest =>
    if b = 0x22 then .ok (read.reverse, rest)
    else if b = 0x5C then
      match readEscape rest with
      | .ok (octets, rest) => readOctets fuel (octets.reverse ++ read) rest
      | .error fault => .error fault
    else if b.toNat < 0x20 then faultHere .controlCharacter rest
    else readOctets fuel (b :: read) rest

/-- Read a string after its opening quotation mark. Ill-formed octets are found only when the
string has ended. The place they are reported at is counted back from the octet after the closing
quotation mark, by as many octets as the string stands for from the first ill-formed one on; an
escape before them in the string therefore does not shift it, and one after them does. -/
def readString (input : List UInt8) : Except Fault (String × List UInt8) := do
  let (octets, rest) ← readOctets (input.length + 1) [] input
  match Text.Utf8.decode? octets with
  | some s => .ok (s, rest)
  | none =>
    let back := octets.length - Text.Utf8.wellFormedLength octets
    faultHere .invalidUnicode (input.drop (input.length - (rest.length + back)))

/-- Look for the next item of an array: whether there is one, and the octets that it begins with
or that follow the closing bracket. -/
def seekItem (first : Bool) (input : List UInt8) : Except Fault (Bool × List UInt8) :=
  match skipSpace input with
  | [] => faultAtNext .endInList []
  | b :: rest =>
    if b = 0x5D then .ok (false, rest)
    else if first then .ok (true, b :: rest)
    else if b = 0x2C then
      match skipSpace rest with
      | [] => faultAtNext .endInValue []
      | c :: tail =>
        if c = 0x5D then faultAtNext .trailingComma (c :: tail) else .ok (true, c :: tail)
    else faultAtNext .expectedListCommaOrEnd (b :: rest)

/-- Read the items of an array up to its end with a reader of one item. Each round takes an
octet at least, so fuel of more than the input's length is never used up. -/
def readItems (item : List UInt8 → Except Fault (Json × List UInt8)) :
    Nat → Bool → List UInt8 → Except Fault (List Json × List UInt8)
  | 0, _, _ => faultHere .endInList []
  | fuel + 1, first, input => do
    let (more, rest) ← seekItem first input
    if more then
      let (value, rest) ← item rest
      let (values, rest) ← readItems item fuel false rest
      .ok (value :: values, rest)
    else .ok ([], rest)

/-- Look for the next member of an object: whether there is one, and the octets after its
opening quotation mark or after the closing brace. -/
def seekMember (first : Bool) (input : List UInt8) : Except Fault (Bool × List UInt8) :=
  match skipSpace input with
  | [] => faultAtNext .endInObject []
  | b :: rest =>
    if b = 0x7D then .ok (false, rest)
    else if first then
      if b = 0x22 then .ok (true, rest) else faultAtNext .keyMustBeString (b :: rest)
    else if b = 0x2C then
      match skipSpace rest with
      | [] => faultAtNext .endInValue []
      | c :: tail =>
        if c = 0x22 then .ok (true, tail)
        else if c = 0x7D then faultAtNext .trailingComma (c :: tail)
        else faultAtNext .keyMustBeString (c :: tail)
    else faultAtNext .expectedObjectCommaOrEnd (b :: rest)

/-- Take the colon between a member's name and its value. -/
def takeColon (input : List UInt8) : Except Fault (List UInt8) :=
  match skipSpace input with
  | [] => faultAtNext .endInObject []
  | b :: rest => if b = 0x3A then .ok rest else faultAtNext .expectedColon (b :: rest)

/-- Read the members of an object up to its end with a reader of one value. Each round takes an
octet at least, so fuel of more than the input's length is never used up. -/
def readMembers (item : List UInt8 → Except Fault (Json × List UInt8)) :
    Nat → Bool → List UInt8 → Except Fault (List (String × Json) × List UInt8)
  | 0, _, _ => faultHere .endInObject []
  | fuel + 1, first, input => do
    let (more, rest) ← seekMember first input
    if more then
      let (name, rest) ← readString rest
      let rest ← takeColon rest
      let (value, rest) ← item rest
      let (members, rest) ← readMembers item fuel false rest
      .ok ((name, value) :: members, rest)
    else .ok ([], rest)

/-- Read a value inside which arrays and objects may be nested less deep than `depth`. -/
def readValue : Nat → List UInt8 → Except Fault (Json × List UInt8)
  | 0, input => faultAtNext .recursionLimitExceeded input
  | depth + 1, input =>
    match skipSpace input with
    | [] => faultAtNext .endInValue []
    | b :: rest =>
      if b = 0x6E then readIdent .null [0x75, 0x6C, 0x6C] rest
      else if b = 0x74 then readIdent (.bool true) [0x72, 0x75, 0x65] rest
      else if b = 0x66 then readIdent (.bool false) [0x61, 0x6C, 0x73, 0x65] rest
      else if b = 0x2D then readNumber true rest
      else if (digitValue? b).isSome then readNumber false (b :: rest)
      else if b = 0x22 then (readString rest).map fun (s, rest) => (.string s, rest)
      else if b = 0x5B then
        if depth = 0 then faultAtNext .recursionLimitExceeded (b :: rest)
        else (readItems (readValue depth) (rest.length + 1) true rest).map fun (items, rest) =>
          (.array items, rest)
      else if b = 0x7B then
        if depth = 0 then faultAtNext .recursionLimitExceeded (b :: rest)
        else (readMembers (readValue depth) (rest.length + 1) true rest).map fun (members, rest) =>
          (ofMembers members, rest)
      else faultAtNext .expectedValue (b :: rest)

/-- How deep arrays and objects may be nested, and one more. -/
def depthLimit : Nat := 128

/-- Read one value, with blanks around it and nothing else. -/
def read (input : List UInt8) : Except Fault Json := do
  let (value, rest) ← readValue depthLimit input
  match skipSpace rest with
  | [] => .ok value
  | b :: rest => faultAtNext .trailingCharacters (b :: rest)

/-- The value of octets that are a JSON text. -/
def read? (input : List UInt8) : Option Json := (read input).toOption

/-- The value of a text. -/
def ofText? (s : String) : Option Json := read? (Text.Utf8.encode s)

end HttpGateway.Json
