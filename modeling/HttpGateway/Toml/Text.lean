import HttpGateway.Text.Percent
import HttpGateway.Toml.Scan

/-!
# Strings and keys

A string stands between quotation marks, with escapes, or between apostrophes, without. Three
marks on either side let it run over several lines; a line end right after the opening marks does
not count, and one inside is a line feed. A key is a string on one line or a bare word.
-/

namespace HttpGateway.Toml

/-- Whether a character stands for itself between quotation marks. -/
def isBasicChar (c : Char) : Bool := isPlain c && c != '"' && c != '\\'

/-- Whether a character stands for itself between apostrophes. -/
def isLiteralChar (c : Char) : Bool := isPlain c && c != '\''

/-- The value of hexadecimal digits. -/
def hexNumber? (digits : List Char) : Option Nat :=
  digits.foldlM (fun n c => (Text.Percent.hexValue (Text.Utf8.octet c.toNat)).map (n * 16 + ·)) 0

/-- Whether a character is a hexadecimal digit. -/
def isHexDigit (c : Char) : Bool :=
  c.isDigit || ('a' ≤ c && c ≤ 'f') || ('A' ≤ c && c ≤ 'F')

/-- The character whose code point is given by a number of hexadecimal digits. -/
def codePoint (digits : Nat) : Scan Char := fun input =>
  let written := (input.take digits).takeWhile isHexDigit
  if written.length < digits then none
  else
    (hexNumber? written).bind fun n =>
      if n.isValidChar then some (Char.ofNat n, input.drop digits) else none

/-- The character of an escape. -/
def escape : Scan Char := do
  Scan.char '\\'
  let mark ← Scan.one fun _ => true
  match mark with
  | 'b' => pure (Char.ofNat 0x8)
  | 't' => pure '\t'
  | 'n' => pure '\n'
  | 'f' => pure (Char.ofNat 0xC)
  | 'r' => pure '\r'
  | '"' => pure '"'
  | '\\' => pure '\\'
  | 'u' => codePoint 4
  | 'U' => codePoint 8
  | _ => Scan.refuse

/-- A string between quotation marks. -/
def basicString : Scan String := do
  Scan.char '"'
  let parts ← Scan.repeated (Scan.some isBasicChar <|> (do pure [← escape]))
  Scan.char '"'
  pure (String.ofList parts.flatten)

/-- A string between apostrophes. -/
def literalString : Scan String := do
  Scan.char '\''
  let chars ← Scan.many isLiteralChar
  Scan.char '\''
  pure (String.ofList chars)

/-- A backslash at the end of a line, with the blanks and line ends after it. -/
def foldedLineEnd : Scan Unit := do
  Scan.char '\\'
  blanks
  lineEnd
  let _ ← Scan.repeated ((do let _ ← Scan.some isBlank) <|> lineEnd)

/-- One or two marks that do not close a string of several lines: others follow that are not
such marks. -/
def innerMarks (mark : Char) : Scan (List Char) := fun input =>
  let marks := input.takeWhile (· == mark)
  if 0 < marks.length && marks.length < 3 then some (marks, input.drop marks.length) else none

/-- The marks that close a string of several lines: three, with up to two before them that belong
to the string. -/
def closingMarks (mark : Char) : Scan (List Char) := fun input =>
  let marks := (input.takeWhile (· == mark)).take 5
  if 3 ≤ marks.length then some (marks.drop 3, input.drop marks.length) else none

/-- A string of several lines between three marks, whose pieces other than marks `piece` reads. -/
def multilineString (mark : Char) (piece : Scan (List Char)) : Scan String := do
  Scan.text (String.ofList [mark, mark, mark])
  let _ ← Scan.optional lineEnd
  let parts ← Scan.repeated (piece <|> innerMarks mark)
  let last ← closingMarks mark
  pure (String.ofList (parts.flatten ++ last))

/-- A line end inside a string, as a line feed. -/
def innerLineEnd : Scan (List Char) := do
  lineEnd
  pure ['\n']

/-- A string of several lines between quotation marks. -/
def multilineBasicString : Scan String :=
  multilineString '"'
    (Scan.some isBasicChar <|> (do foldedLineEnd; pure []) <|> (do pure [← escape]) <|>
      innerLineEnd)

/-- A string of several lines between apostrophes. -/
def multilineLiteralString : Scan String :=
  multilineString '\'' (Scan.some isLiteralChar <|> innerLineEnd)

/-- A string of any kind. -/
def string : Scan String :=
  multilineBasicString <|> basicString <|> multilineLiteralString <|> literalString

/-- Whether a character may stand in a bare key. -/
def isBareChar (c : Char) : Bool := c.isAlphanum || c == '_' || c == '-'

/-- A key between marks or a bare one. -/
def simpleKey : Scan String :=
  basicString <|> literalString <|> (do pure (String.ofList (← Scan.some isBareChar)))

/-- The greatest number of simple keys in a key. -/
def keyLimit : Nat := 79

/-- A key: simple keys with dots and blanks between them. -/
def key : Scan (List String) := do
  let part : Scan String := do
    blanks
    let name ← simpleKey
    blanks
    pure name
  let path ← Scan.separated part (Scan.char '.')
  if keyLimit < path.length then Scan.refuse else pure path

end HttpGateway.Toml
