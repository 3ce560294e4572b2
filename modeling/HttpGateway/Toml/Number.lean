import HttpGateway.Config.Setting
import HttpGateway.Number.Decimal
import HttpGateway.Toml.Text

/-!
# Numbers, dates and times

An integer is decimal, hexadecimal, octal or binary and has 64 bits with a sign. Between two
digits an underscore may stand. A number with a fraction or an exponent must not overflow to
plus infinity. A date, a time, or both with an offset make a moment, which is kept as text in
its shortest form.
-/

namespace HttpGateway.Toml

/-- A mark of a set. -/
def mark (marks : String) : Scan Char := Scan.one marks.toList.contains

/-- Digits with single underscores between them. -/
def digitsWith (isDigit : Char → Bool) : Scan (List Char) := do
  let first ← Scan.one isDigit
  let rest ← Scan.repeated (Scan.one isDigit <|> (do Scan.char '_'; Scan.one isDigit))
  pure (first :: rest)

/-- A sign, as the characters that it is written with. -/
def sign : Scan (List Char) := do
  pure ((← Scan.optional (mark "+-")).toList)

/-- The digits of a decimal integer, which do not begin with a zero unless it stands alone. -/
def decimalDigits : Scan (List Char) := do
  match ← Scan.peek with
  | some '0' => do
    Scan.char '0'
    pure ['0']
  | _ => digitsWith Char.isDigit

/-- A value that fits a 64-bit integer with a sign. -/
def inRange (n : Int) : Scan Setting :=
  if -9223372036854775808 ≤ n ∧ n ≤ 9223372036854775807 then pure (.integer n) else Scan.refuse

/-- The value of digits in a base. -/
def valueIn (base : Nat) (digits : List Char) : Nat :=
  digits.foldl (fun n c => n * base + (hexNumber? [c]).getD 0) 0

/-- An integer in a base, after the letter that marks the base. -/
def basedInteger (letter : Char) (base : Nat) (isDigit : Char → Bool) : Scan Setting := do
  Scan.char '0'
  Scan.char letter
  let digits ← digitsWith isDigit
  inRange (valueIn base digits)

/-- A decimal integer. -/
def decimalInteger : Scan Setting := do
  let sign ← sign
  let digits ← decimalDigits
  let n : Int := valueIn 10 digits
  inRange (if sign = ['-'] then -n else n)

/-- An integer. -/
def integer : Scan Setting :=
  basedInteger 'x' 16 isHexDigit <|> basedInteger 'o' 8 (fun c => '0' ≤ c && c ≤ '7') <|>
    basedInteger 'b' 2 (fun c => c == '0' || c == '1') <|> decimalInteger

/-- The fraction of a number, with its point. -/
def fraction : Scan (List Char) := do
  Scan.char '.'
  pure ('.' :: (← digitsWith Char.isDigit))

/-- The exponent of a number, with its letter. -/
def exponent : Scan (List Char) := do
  let _ ← mark "eE"
  let sign ← sign
  pure ('e' :: sign ++ (← digitsWith Char.isDigit))

/-- A number with a fraction or an exponent. -/
def real : Scan Setting := do
  let sign ← sign
  let digits ← decimalDigits
  let fraction ← Scan.optional fraction
  let exponent ← Scan.optional exponent
  if fraction.isNone && exponent.isNone then Scan.refuse
  else
    match Binary64.read? (sign ++ digits ++ fraction.getD [] ++ exponent.getD []) with
    | some (.infinite false) => Scan.refuse
    | some _ => pure .real
    | none => Scan.refuse

/-- An infinity, or the value that is no number. -/
def specialReal : Scan Setting := do
  let _ ← sign
  Scan.text "inf" <|> Scan.text "nan"
  pure .real

/-! ## Moments -/

/-- A number of exactly some digits, between two bounds. -/
def field (width least greatest : Nat) : Scan (List Char) := fun input =>
  let digits := (input.take width).takeWhile Char.isDigit
  let n := valueIn 10 digits
  if digits.length = width ∧ least ≤ n ∧ n ≤ greatest then some (digits, input.drop width)
  else none

/-- Whether a year has a leap day. -/
def isLeapYear (year : Nat) : Bool := year % 4 == 0 && (year % 100 != 0 || year % 400 == 0)

/-- The number of days of a month. -/
def daysIn (year month : Nat) : Nat :=
  if month = 2 then (if isLeapYear year then 29 else 28)
  else if month = 4 ∨ month = 6 ∨ month = 9 ∨ month = 11 then 30
  else 31

/-- A date. -/
def date : Scan (List Char) := do
  let year ← field 4 0 9999
  Scan.char '-'
  let month ← field 2 1 12
  Scan.char '-'
  let day ← field 2 1 (daysIn (valueIn 10 year) (valueIn 10 month))
  pure (year ++ '-' :: month ++ '-' :: day)

/-- The digits after the point of a second: nine at most count, and no zeros at the end. -/
def secondFraction : Scan (List Char) := do
  Scan.char '.'
  let digits ← Scan.some Char.isDigit
  let kept := ((digits.take 9).reverse.dropWhile (· == '0')).reverse
  pure (if kept.isEmpty then [] else '.' :: kept)

/-- A time of day. -/
def time : Scan (List Char) := do
  let hour ← field 2 0 23
  Scan.char ':'
  let minute ← field 2 0 59
  Scan.char ':'
  let second ← field 2 0 60
  let fraction ← Scan.optional secondFraction
  pure (hour ++ ':' :: minute ++ ':' :: second ++ fraction.getD [])

/-- The offset of a time from universal time; a negative offset of nothing is positive. -/
def offset : Scan (List Char) :=
  (do let _ ← mark "Zz"; pure ['Z']) <|> do
    let sign ← mark "+-"
    let hour ← field 2 0 23
    Scan.char ':'
    let minute ← field 2 0 59
    let none := hour == ['0', '0'] && minute == ['0', '0']
    pure ((if none then '+' else sign) :: hour ++ ':' :: minute)

/-- A date, perhaps with a time and an offset. -/
def dateAndTime : Scan (List Char) := do
  let date ← date
  let rest ← Scan.optional (do
    let _ ← mark "Tt "
    let time ← time
    let offset ← Scan.optional offset
    pure ('T' :: time ++ offset.getD []))
  pure (date ++ rest.getD [])

/-- A moment. -/
def moment : Scan Setting := do
  pure (.moment (String.ofList (← dateAndTime <|> time)))

/-- A moment or a number. -/
def number : Scan Setting := moment <|> real <|> specialReal <|> integer

end HttpGateway.Toml
