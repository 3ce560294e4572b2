/-!
# UTF-8

`encode` writes characters as octets. Reading walks the octets once with one state, the
continuation octets that the current character still lacks, and yields one item per character:
the character, or a mark for a maximal ill-formed subsequence. `decode?` refuses any mark;
`decodeLossy` shows each as U+FFFD.
-/

namespace HttpGateway.Text.Utf8

/-- The octet with a given number. -/
def octet (n : Nat) : UInt8 := UInt8.ofNat n

/-- The octets of a character, from one to four. -/
def encodeChar (c : Char) : List UInt8 :=
  let n := c.toNat
  if n < 0x80 then [octet n]
  else if n < 0x800 then [octet (0xC0 + n / 64), octet (0x80 + n % 64)]
  else if n < 0x10000 then
    [octet (0xE0 + n / 4096), octet (0x80 + n / 64 % 64), octet (0x80 + n % 64)]
  else
    [octet (0xF0 + n / 262144), octet (0x80 + n / 4096 % 64), octet (0x80 + n / 64 % 64),
      octet (0x80 + n % 64)]

/-- The octets of a list of characters. -/
def encodeChars (l : List Char) : List UInt8 := l.flatMap encodeChar

/-- The octets of a text. -/
def encode (s : String) : List UInt8 := encodeChars s.toList

/-- A character of which some octets are read. -/
structure Partial where
  /-- The number of continuation octets still to come. -/
  owed : Nat
  /-- The bits read so far. -/
  value : Nat
  /-- The least octet that may come next. -/
  least : Nat
  /-- The greatest octet that may come next. -/
  greatest : Nat

/-- Begin a character with an octet: what it completes, and the character left open. The bounds
on the second octet exclude overlong forms, surrogates and values above U+10FFFF. -/
def start (b : UInt8) : List (Option Char) × Option Partial :=
  let n := b.toNat
  if n < 0x80 then ([some (Char.ofNat n)], none)
  else if n < 0xC2 then ([none], none)
  else if n < 0xE0 then ([], some ⟨1, n - 0xC0, 0x80, 0xBF⟩)
  else if n = 0xE0 then ([], some ⟨2, 0, 0xA0, 0xBF⟩)
  else if n = 0xED then ([], some ⟨2, 0xD, 0x80, 0x9F⟩)
  else if n < 0xF0 then ([], some ⟨2, n - 0xE0, 0x80, 0xBF⟩)
  else if n = 0xF0 then ([], some ⟨3, 0, 0x90, 0xBF⟩)
  else if n < 0xF4 then ([], some ⟨3, n - 0xF0, 0x80, 0xBF⟩)
  else if n = 0xF4 then ([], some ⟨3, 4, 0x80, 0x8F⟩)
  else ([none], none)

/-- Take one more octet. An octet that the open character cannot take ends it as ill-formed and
begins the next. -/
def advance (state : Option Partial) (b : UInt8) : List (Option Char) × Option Partial :=
  match state with
  | none => start b
  | some p =>
    if p.least ≤ b.toNat ∧ b.toNat ≤ p.greatest then
      let value := p.value * 64 + (b.toNat - 0x80)
      if p.owed = 1 then ([some (Char.ofNat value)], none)
      else ([], some ⟨p.owed - 1, value, 0x80, 0xBF⟩)
    else
      let (items, next) := start b
      (none :: items, next)

/-- The items that octets stand for: a character, or nothing for an ill-formed subsequence. -/
def scan : Option Partial → List UInt8 → List (Option Char)
  | none, [] => []
  | some _, [] => [none]
  | state, b :: rest =>
    let (items, next) := advance state b
    items ++ scan next rest

/-- The characters of well-formed octets; none when the octets are ill-formed. -/
def decodeChars? (octets : List UInt8) : Option (List Char) := (scan none octets).mapM id

/-- The text of well-formed octets. -/
def decode? (octets : List UInt8) : Option String := (decodeChars? octets).map String.ofList

/-- The number of octets before the first ill-formed subsequence. -/
def wellFormedLength (octets : List UInt8) : Nat :=
  (encodeChars (((scan none octets).takeWhile Option.isSome).filterMap id)).length

/-- The characters of any octets, with U+FFFD for each maximal ill-formed subsequence. -/
def decodeCharsLossy (octets : List UInt8) : List Char :=
  (scan none octets).map (·.getD (Char.ofNat 0xFFFD))

/-- The text of any octets, with U+FFFD for each maximal ill-formed subsequence. -/
def decodeLossy (octets : List UInt8) : String := String.ofList (decodeCharsLossy octets)

end HttpGateway.Text.Utf8
