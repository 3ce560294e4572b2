import HttpGateway.Json.Basic
import HttpGateway.Number.Shortest

/-!
# The compact text of a JSON value

A value is written without any blank. Strings escape the quotation mark, the backslash and the
characters below U+0020, and nothing else. An integer is written in decimal; any other number
with its shortest digits, and always with a fraction or an exponent.
-/

namespace HttpGateway.Json

/-- The lower-case hexadecimal digit of a value below sixteen. -/
def hexDigit (n : Nat) : Char := Char.ofNat (if n < 10 then 0x30 + n else 0x57 + n)

/-- A character as it stands inside a string. -/
def escapeChar (c : Char) : List Char :=
  let n := c.toNat
  if n = 0x22 then ['\\', '"']
  else if n = 0x5C then ['\\', '\\']
  else if 0x20 ≤ n then [c]
  else if n = 0x8 then ['\\', 'b']
  else if n = 0xC then ['\\', 'f']
  else if n = 0xA then ['\\', 'n']
  else if n = 0xD then ['\\', 'r']
  else if n = 0x9 then ['\\', 't']
  else ['\\', 'u', '0', '0', hexDigit (n / 16), hexDigit (n % 16)]

/-- A string between its quotation marks. -/
def stringChars (s : String) : List Char := '"' :: (s.toList.flatMap escapeChar ++ ['"'])

/-- An integer in decimal. -/
def integerChars : Int → List Char
  | .ofNat n => Nat.toDigits 10 n
  | .negSucc n => '-' :: Nat.toDigits 10 (n + 1)

/-- The decimal powers of the first digit that are written in positional notation. -/
def isPositional (power : Int) : Bool := -5 ≤ power && power ≤ 15

/-- The shortest digits of a number: in positional notation with a fraction, or with an exponent
that carries its sign. -/
def digitsChars (d : Dyadic.Digits) : List Char :=
  if isPositional d.power then
    let plain := Dyadic.positional d
    if plain.contains '.' then plain else plain ++ ['.', '0']
  else
    let mantissa :=
      match d.digits.map Dyadic.digitChar with
      | first :: second :: rest => first :: '.' :: second :: rest
      | short => short
    let mark := if d.power < 0 then '-' else '+'
    mantissa ++ 'e' :: mark :: Nat.toDigits 10 d.power.natAbs

/-- A number that is no integer. Of two decimals equally near, the one with an even last digit is
written. -/
def realChars (x : Dyadic) : List Char :=
  x.sign ++ if x.isZero then ['0', '.', '0'] else digitsChars (x.shortest .toEven)

/-- A number. -/
def numberChars : Number → List Char
  | .integer n => integerChars n
  | .real x => realChars x

mutual

/-- The characters of a value. -/
def chars : Json → List Char
  | .null => "null".toList
  | .bool true => "true".toList
  | .bool false => "false".toList
  | .number n => numberChars n
  | .string s => stringChars s
  | .array items => '[' :: (itemChars items ++ [']'])
  | .object members => '\x7b' :: (memberChars members ++ ['\x7d'])

/-- The items of an array with commas between them. -/
def itemChars : List Json → List Char
  | [] => []
  | [item] => chars item
  | item :: next :: rest => chars item ++ ',' :: itemChars (next :: rest)

/-- The members of an object with commas between them. -/
def memberChars : List (String × Json) → List Char
  | [] => []
  | [(name, value)] => stringChars name ++ ':' :: chars value
  | (name, value) :: next :: rest =>
    stringChars name ++ ':' :: (chars value ++ ',' :: memberChars (next :: rest))

end

/-- The compact text of a value. -/
def text (value : Json) : String := String.ofList value.chars

end HttpGateway.Json
