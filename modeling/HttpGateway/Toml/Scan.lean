/-!
# Readers of characters

A reader takes characters off the front of the input and yields what they stand for, or refuses
the input. `a <|> b` reads as `b` does where `a` refuses.
-/

namespace HttpGateway.Toml

/-- A reader. -/
abbrev Scan (α : Type) : Type := StateT (List Char) Option α

namespace Scan

/-- Refuse the input. -/
def refuse {α : Type} : Scan α := fun _ => none

/-- The next character, which stays in the input; none at the end. -/
def peek : Scan (Option Char) := fun input => some (input.head?, input)

/-- Take the next character, which has to satisfy `p`. -/
def one (p : Char → Bool) : Scan Char
  | c :: rest => if p c then some (c, rest) else none
  | [] => none

/-- Take a character. -/
def char (c : Char) : Scan Unit := do
  let _ ← one (· == c)

/-- Take the characters of a text. -/
def text (s : String) : Scan Unit := fun input =>
  if s.toList.isPrefixOf input then some ((), input.drop s.toList.length) else none

/-- Take the characters up to the first that does not satisfy `p`. -/
def many (p : Char → Bool) : Scan (List Char) := fun input =>
  some (input.takeWhile p, input.dropWhile p)

/-- Take the characters, one at least, up to the first that does not satisfy `p`. -/
def some (p : Char → Bool) : Scan (List Char) := do
  let first ← one p
  let rest ← many p
  pure (first :: rest)

/-- Read as `r` does, or nothing where it refuses. -/
def optional {α : Type} (r : Scan α) : Scan (Option α) := fun input =>
  match r input with
  | .some (a, rest) => .some (.some a, rest)
  | .none => .some (.none, input)

/-- Read with `r` again and again until it refuses, at most as often as the fuel allows. -/
def repeatWith {α : Type} (r : Scan α) : Nat → Scan (List α)
  | 0 => pure []
  | fuel + 1 => do
    match ← optional r with
    | .some a => do
      let rest ← repeatWith r fuel
      pure (a :: rest)
    | .none => pure []

/-- Read with `r`, which takes a character at least, again and again until it refuses. -/
def repeated {α : Type} (r : Scan α) : Scan (List α) := do
  let input ← get
  repeatWith r input.length

/-- Read with `r` once or more, with `separator` between. -/
def separated {α : Type} (r : Scan α) (separator : Scan Unit) : Scan (List α) := do
  let first ← r
  let rest ← repeated (do separator; r)
  pure (first :: rest)

/-- Nothing; the input has to be at its end. -/
def atEnd : Scan Unit := fun input => if input.isEmpty then .some ((), []) else .none

end Scan

/-! ## Blanks, line ends and comments -/

/-- Whether a character is a blank: a space or a tab. -/
def isBlank (c : Char) : Bool := c == ' ' || c == '\t'

/-- Whether a character may stand in a comment or a string: a tab, a visible ASCII character, a
space, or any character beyond ASCII. -/
def isPlain (c : Char) : Bool := c == '\t' || (0x20 ≤ c.toNat && c.toNat != 0x7F)

/-- Blanks. -/
def blanks : Scan Unit := do
  let _ ← Scan.many isBlank

/-- A line end: a line feed, or a carriage return and a line feed. -/
def lineEnd : Scan Unit := Scan.char '\n' <|> Scan.text "\r\n"

/-- A comment up to the line end, which is not part of it. -/
def comment : Scan Unit := do
  Scan.char '#'
  let _ ← Scan.many isPlain

/-- The rest of a line after a statement, with the line end or the end of the input. -/
def lineRest : Scan Unit := do
  blanks
  let _ ← Scan.optional comment
  lineEnd <|> Scan.atEnd

/-- Blanks, line ends and comments. -/
def space : Scan Unit := do
  let _ ← Scan.repeated ((do let _ ← Scan.some isBlank) <|> lineEnd <|> comment)

end HttpGateway.Toml
