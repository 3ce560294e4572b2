import HttpGateway.Text.Combining
import HttpGateway.Text.Composite

/-!
# Canonical composition

Texts that differ only in how characters and marks are put together have one composed form. It is
reached in three steps: composites are taken apart, the marks after each base are put in the order
of their combining classes, and what can be composed is composed again.
-/

namespace HttpGateway.Text

/-- How often a composite can be taken apart until no part is a composite. -/
def compositeDepth : Nat := 4

/-- Take a character apart, at most as deep as the fuel allows. Only the first of the two parts of
a composite may be a composite itself. -/
def decomposeChar : Nat → Char → List Char
  | 0, c => [c]
  | fuel + 1, c =>
    match parts? c with
    | some (first, second) => decomposeChar fuel first ++ [second]
    | none => [c]

/-- Put a character in front of characters that are in order, behind the marks of lesser classes
if it is a mark itself. -/
def insertMark (c : Char) : List Char → List Char
  | [] => [c]
  | next :: rest =>
    if 0 < combiningClass next ∧ combiningClass next < combiningClass c then
      next :: insertMark c rest
    else c :: next :: rest

/-- Put the marks after each base in the order of their classes; marks of one class keep theirs. -/
def orderMarks (chars : List Char) : List Char := chars.foldr insertMark []

/-- Putting a character in its place neither loses nor adds one. -/
theorem insertMark_perm (c : Char) (chars : List Char) :
    (insertMark c chars).Perm (c :: chars) := by
  induction chars with
  | nil => exact List.Perm.refl _
  | cons next rest ih =>
    unfold insertMark
    split
    · exact (ih.cons next).trans (List.Perm.swap c next rest)
    · exact List.Perm.refl _

/-- Putting marks in order neither loses nor adds a character. -/
theorem orderMarks_perm (chars : List Char) : (orderMarks chars).Perm chars := by
  induction chars with
  | nil => exact List.Perm.refl _
  | cons c rest ih => exact (insertMark_perm c (orderMarks rest)).trans (ih.cons c)

/-- Whether the marks between a base and a character, the nearest first, keep the two apart. -/
def areApart (marks : List Char) (c : Char) : Bool :=
  marks.head?.any fun mark => combiningClass c ≤ combiningClass mark

/-- Compose a base, the marks after it that could not be composed, the nearest first, and what
follows. -/
def composeFrom (base : Char) (marks : List Char) : List Char → List Char
  | [] => base :: marks.reverse
  | c :: rest =>
    match if areApart marks c then none else composite? base c with
    | some whole => composeFrom whole marks rest
    | none =>
      if combiningClass c = 0 then base :: (marks.reverse ++ composeFrom c [] rest)
      else composeFrom base (c :: marks) rest

/-- The composed form of a text. -/
def compose (chars : List Char) : List Char :=
  match orderMarks (chars.flatMap (decomposeChar compositeDepth)) with
  | [] => []
  | base :: rest => composeFrom base [] rest

end HttpGateway.Text
