import HttpGateway.Dict
import HttpGateway.Routing.Path
import HttpGateway.Text.Alphanumeric
import HttpGateway.Text.Lowercase
import HttpGateway.Text.Percent

/-!
# Path templates

A template is a path some of whose segments are slots, `{name}`. It captures the paths
that have as many segments, the same text at every literal segment, letter case apart, and some
text at every slot. Each segment of a path is percent-decoded by itself, so an encoded slash does
not part segments. No two slots of a template have one name.
-/

namespace HttpGateway

/-- A segment of a template. -/
inductive Segment
  /-- A text in lower case that a path has to have here. -/
  | literal (text : String)
  /-- A slot that takes any text but the empty one. -/
  | slot (name : String)
deriving DecidableEq, Repr

namespace Segment

/-- Whether a character may stand in the name of a slot. -/
def isNameChar (c : Char) : Bool := Text.isAlphanumeric c || c == '_'

/-- The name of the slot that a segment is written as: some name characters in braces. -/
def slotName? : List Char → Option (List Char)
  | '\x7b' :: rest =>
    if rest.getLast? = some '\x7d' && !rest.dropLast.isEmpty && rest.dropLast.all isNameChar then
      some rest.dropLast
    else none
  | _ => none

/-- The segment that a list of characters is written as. -/
def read (written : List Char) : Segment :=
  match slotName? written with
  | some name => .slot (String.ofList name)
  | none => .literal (String.ofList (Text.lowercaseChars written))

/-- The name of a slot. -/
def name? : Segment → Option String
  | literal _ => none
  | slot name => some name

/-- The name of a slot in lower case, under which its value is captured. -/
def key? (segment : Segment) : Option String := segment.name?.map Text.lowercase

@[simp] theorem key?_literal (text : String) : (literal text).key? = none := rfl

@[simp] theorem key?_slot (name : String) : (slot name).key? = some (Text.lowercase name) := rfl

end Segment

/-- A template in which a slot has the name of an earlier one. -/
structure DuplicateParameter where
  /-- The template as written. -/
  template : String
  /-- The name of the slot that repeats an earlier one. -/
  name : String
deriving DecidableEq, Repr

/-- The description of a repeated slot. -/
def DuplicateParameter.message (fault : DuplicateParameter) : String :=
  "template '" ++ fault.template ++ "' declares parameter '" ++ fault.name ++ "' more than once"

/-- A path template. -/
structure Template where
  /-- The template as written. -/
  raw : String
  /-- The segments. -/
  segments : List Segment
  /-- The segments are those of the normal form. -/
  compiled : segments = (Path.segmentChars (Path.normalizeChars raw.toList)).map Segment.read
  /-- No two slots have one name, letter case apart. -/
  distinct : (segments.filterMap Segment.key?).Nodup

namespace Template

/-- The name of the first slot whose key was seen before. -/
def firstRepeat? (seen : List String) : List Segment → Option String
  | [] => none
  | .literal _ :: rest => firstRepeat? seen rest
  | .slot name :: rest =>
    if seen.contains (Text.lowercase name) then some name
    else firstRepeat? (Text.lowercase name :: seen) rest

/-- Without a repetition the keys of the slots are distinct and none was seen before. -/
theorem nodup_of_firstRepeat?_eq_none {seen : List String} {segments : List Segment}
    (fresh : firstRepeat? seen segments = none) :
    (segments.filterMap Segment.key?).Nodup ∧
      ∀ key ∈ segments.filterMap Segment.key?, key ∉ seen := by
  induction segments generalizing seen with
  | nil => simp
  | cons segment rest ih =>
    cases segment with
    | literal text => simpa [List.filterMap_cons] using ih fresh
    | slot name =>
      unfold firstRepeat? at fresh
      split at fresh
      · contradiction
      · next new =>
        obtain ⟨nodup, unseen⟩ := ih fresh
        simp only [List.filterMap_cons, Segment.key?_slot]
        refine ⟨List.nodup_cons.2 ⟨fun mem => ?_, nodup⟩, fun key mem => ?_⟩
        · exact unseen _ mem List.mem_cons_self
        · rcases List.mem_cons.1 mem with rfl | mem
          · simpa using new
          · exact fun seen => unseen key mem (List.mem_cons_of_mem _ seen)

/-- Compile a template. -/
def compile (raw : String) : Except DuplicateParameter Template :=
  let segments := (Path.segmentChars (Path.normalizeChars raw.toList)).map Segment.read
  match h : firstRepeat? [] segments with
  | some name => .error ⟨raw, name⟩
  | none => .ok ⟨raw, segments, rfl, (nodup_of_firstRepeat?_eq_none h).1⟩

/-- The normal form of a template in lower case. -/
def normalized (template : Template) : String := Text.lowercase (Path.normalize template.raw)

/-- The names of the slots in order. -/
def parameters (template : Template) : List String := template.segments.filterMap Segment.name?

/-- The text at a segment as a slot or a literal takes it, if it does: the entry of a slot. -/
def takePiece? (segment : Segment) (piece : List Char) : Option (List (String × String)) :=
  let text := Text.Percent.decodeChars piece
  match segment with
  | .literal literal => if literal = String.ofList (Text.lowercaseChars text) then some [] else none
  | .slot name =>
    if text.isEmpty then none else some [(Text.lowercase name, String.ofList text)]

/-- The entries that segments capture from the pieces of a path. -/
def takePieces? : List Segment → List (List Char) → Option (List (String × String))
  | [], [] => some []
  | segment :: segments, piece :: pieces => do
    let entry ← takePiece? segment piece
    let entries ← takePieces? segments pieces
    some (entry ++ entries)
  | _, _ => none

/-- The values of the slots for a path in normal form, by slot name in lower case; none if the
path does not fit. -/
def capture? (template : Template) (path : String) : Option (Dict String) :=
  (takePieces? template.segments (Path.segmentChars path.toList)).map Dict.ofList

end Template

end HttpGateway
