import HttpGateway.Text.Range

/-!
# White space and trimming

White space is the class of characters with the Unicode property White_Space. Trimming removes
such characters from both ends of a text and leaves those inside it.
-/

namespace HttpGateway.Text

/-- The code points with the property White_Space. -/
def blankRanges : List (Nat × Nat) :=
  [(0x9, 0xD), (0x20, 0x20), (0x85, 0x85), (0xA0, 0xA0), (0x1680, 0x1680), (0x2000, 0x200A),
    (0x2028, 0x2029), (0x202F, 0x202F), (0x205F, 0x205F), (0x3000, 0x3000)]

/-- Whether a character is white space. -/
def isBlank (c : Char) : Bool := inRanges blankRanges c.toNat

/-- Remove the longest tail whose members all satisfy `p`. -/
def dropTailWhile {α : Type} (p : α → Bool) (l : List α) : List α :=
  (l.reverse.dropWhile p).reverse

/-- Remove from both ends the members that satisfy `p`. -/
def strip {α : Type} (p : α → Bool) (l : List α) : List α := dropTailWhile p (l.dropWhile p)

/-- A text without the white space at its ends. -/
def trim (s : String) : String := String.ofList (strip isBlank s.toList)

end HttpGateway.Text
