import HttpGateway.Message.Field

/-!
# Request targets

A request target is `/`-rooted, an absolute URI with a scheme and an authority, an authority
alone, or an asterisk. `Uri.read` takes octets apart into these parts without decoding them, and
`Uri.text` puts them together again; a fragment is dropped.
-/

namespace HttpGateway

/-- The ways in which octets fail to be a request target. -/
inductive UriFault
  /-- There are no octets, or none after the scheme. -/
  | empty
  /-- There are too many octets. -/
  | tooLong
  /-- The scheme is too long. -/
  | schemeTooLong
  /-- An octet is out of place. -/
  | invalidCharacter
  /-- The authority is not well formed. -/
  | invalidAuthority
  /-- The parts do not make up a target. -/
  | invalidFormat
deriving DecidableEq, Repr

/-- The description of a fault. -/
def UriFault.message : UriFault → String
  | .empty => "empty string"
  | .tooLong => "uri too long"
  | .schemeTooLong => "scheme too long"
  | .invalidCharacter => "invalid uri character"
  | .invalidAuthority => "invalid authority"
  | .invalidFormat => "invalid format"

/-- A request target. Every part is kept as the octets that were read. -/
structure Uri where
  /-- The scheme; `http` and `https` are in lower case. -/
  scheme : Option (List UInt8)
  /-- The authority; empty if there is none. -/
  authority : List UInt8
  /-- The path as written; empty if nothing is written after the authority. -/
  rawPath : List UInt8
  /-- The query after the question mark. -/
  query : Option (List UInt8)
deriving DecidableEq, Inhabited

namespace Uri

/-- The greatest length of a target. -/
def lengthLimit : Nat := 65534

/-- The greatest length of a scheme. -/
def schemeLimit : Nat := 64

/-- Whether an octet is a letter or a digit. -/
def isAlphanumeric (b : UInt8) : Bool := (Char.ofNat b.toNat).isAlphanum

/-- Whether the octet is that of one of the characters of a text. -/
def isOneOf (marks : String) (b : UInt8) : Bool := marks.toList.contains (Char.ofNat b.toNat)

/-- Whether an octet may stand in a scheme. -/
def isSchemeOctet (b : UInt8) : Bool := isAlphanumeric b || isOneOf "+-.~" b

/-- Whether an octet may stand in an authority, the percent sign apart. -/
def isAuthorityOctet (b : UInt8) : Bool := isAlphanumeric b || isOneOf "!$&'()*+,-.:;=@[]_~" b

/-- Whether an octet ends an authority: a slash, a question mark or a number sign. -/
def endsAuthority (b : UInt8) : Bool := isOneOf "/?#" b

/-- Whether an octet may stand in a path. Octets beyond ASCII may. -/
def isPathOctet (b : UInt8) : Bool :=
  let n := b.toNat
  0x21 ≤ n && n != 0x7F && n != 0x23 && n != 0x3C && n != 0x3E && n != 0x3F && n != 0x60

/-- Whether an octet may stand in a query. Octets beyond ASCII may. -/
def isQueryOctet (b : UInt8) : Bool :=
  let n := b.toNat
  n == 0x21 || (0x24 ≤ n && n != 0x7F && n != 0x3C && n != 0x3E)

/-- An octet with an ASCII letter in lower case. -/
def lowercaseOctet (b : UInt8) : UInt8 :=
  if 0x41 ≤ b.toNat ∧ b.toNat ≤ 0x5A then b + 0x20 else b

/-- The octets of an ASCII text. -/
def ascii (s : String) : List UInt8 := Text.Utf8.encode s

/-- The colon and the slashes after a scheme. -/
def schemeEnd : List UInt8 := ascii "://"

/-- Take a scheme with its colon and slashes off the front, where there is one. The colon and the
slashes alone are no scheme. -/
def takeScheme (input : List UInt8) : Except UriFault (Option (List UInt8) × List UInt8) :=
  let written := input.takeWhile isSchemeOctet
  let after := input.drop written.length
  if after.take 3 = schemeEnd ∧ input ≠ schemeEnd then
    let rest := after.drop 3
    let name := written.map lowercaseOctet
    if name = ascii "http" ∨ name = ascii "https" then .ok (some name, rest)
    else if schemeLimit < written.length then .error .schemeTooLong
    else .ok (some written, rest)
  else .ok (none, input)

/-- What has been seen of an authority. -/
structure AuthorityScan where
  /-- The colons since the last at sign or closing bracket. -/
  colons : Nat
  /-- Whether an opening bracket was seen. -/
  opened : Bool
  /-- Whether a closing bracket was seen. -/
  closed : Bool
  /-- Whether a percent sign was seen since the last at sign or closing bracket. -/
  percent : Bool
  /-- Whether the last octet is an at sign. -/
  atSign : Bool

namespace AuthorityScan

/-- The most colons in a row without an at sign or a closing bracket between them. -/
def colonLimit : Nat := 8

/-- Nothing seen. -/
def start : AuthorityScan := ⟨0, false, false, false, false⟩

/-- See one more octet. -/
def step (scan : AuthorityScan) (b : UInt8) : Except UriFault AuthorityScan :=
  if b = 0x3A then
    if colonLimit ≤ scan.colons then .error .invalidAuthority
    else .ok { scan with colons := scan.colons + 1, atSign := false }
  else if b = 0x5B then
    if scan.percent || scan.opened then .error .invalidAuthority
    else .ok { scan with opened := true, atSign := false }
  else if b = 0x5D then
    if !scan.opened || scan.closed then .error .invalidAuthority
    else .ok { scan with colons := 0, closed := true, percent := false, atSign := false }
  else if b = 0x40 then .ok { scan with colons := 0, percent := false, atSign := true }
  else if b = 0x25 then .ok { scan with percent := true, atSign := false }
  else if isAuthorityOctet b then .ok { scan with atSign := false }
  else .error .invalidCharacter

/-- Whether what has been seen is an authority: brackets in a pair, one colon at most before a
port, something after the at sign, and no percent sign outside the user information and the
brackets. -/
def isComplete (scan : AuthorityScan) : Bool :=
  scan.opened == scan.closed && scan.colons ≤ 1 && !scan.atSign && !scan.percent

end AuthorityScan

/-- Take an authority, which may be empty, off the front. -/
def takeAuthority (input : List UInt8) : Except UriFault (List UInt8 × List UInt8) := do
  let authority := input.takeWhile (!endsAuthority ·)
  let scan ← authority.foldlM AuthorityScan.step .start
  if scan.isComplete then .ok (authority, input.drop authority.length)
  else .error .invalidAuthority

/-- The path and the query of what follows an authority, without the fragment. -/
def readPathAndQuery (input : List UInt8) :
    Except UriFault (List UInt8 × Option (List UInt8)) :=
  let path := input.takeWhile fun b => b != 0x3F && b != 0x23
  if !path.all isPathOctet then .error .invalidCharacter
  else
    match input.drop path.length with
    | b :: rest =>
      if b = 0x3F then
        let query := rest.takeWhile (· != 0x23)
        if query.all isQueryOctet then .ok (path, some query) else .error .invalidCharacter
      else .ok (path, none)
    | [] => .ok (path, none)

/-- The target that octets stand for. -/
def read (input : List UInt8) : Except UriFault Uri :=
  if lengthLimit < input.length then .error .tooLong
  else
    match input with
    | [] => .error .empty
    | first :: rest => do
      if first = 0x2F then
        let (path, query) ← readPathAndQuery input
        .ok ⟨none, [], path, query⟩
      else if input = [0x2A] then .ok ⟨none, [], input, none⟩
      else
        let (scheme, afterScheme) ← takeScheme input
        let (authority, afterAuthority) ← takeAuthority afterScheme
        match scheme with
        | none =>
          if afterAuthority.isEmpty then .ok ⟨none, authority, [], none⟩
          else if rest.isEmpty then .error .invalidCharacter
          else .error .invalidFormat
        | some scheme =>
          if afterScheme.isEmpty then .error .empty
          else if authority.isEmpty then .error .invalidFormat
          else do
            let (path, query) ← readPathAndQuery afterAuthority
            .ok ⟨some scheme, authority, path, query⟩

/-- The target that a text stands for. -/
def ofText (s : String) : Except UriFault Uri := read (Text.Utf8.encode s)

/-- The octets of the path: a slash where an absolute target or a query has an empty one. -/
def path (uri : Uri) : List UInt8 :=
  if uri.rawPath.isEmpty && (uri.scheme.isSome || uri.query.isSome) then [0x2F] else uri.rawPath

/-- The octets of the whole target. -/
def octets (uri : Uri) : List UInt8 :=
  (match uri.scheme with
    | some scheme => scheme ++ schemeEnd
    | none => []) ++
  uri.authority ++ uri.path ++
  (match uri.query with
    | some query => 0x3F :: query
    | none => [])

/-- The target as text. -/
def text (uri : Uri) : String := Text.Utf8.decodeLossy uri.octets

end Uri

end HttpGateway
