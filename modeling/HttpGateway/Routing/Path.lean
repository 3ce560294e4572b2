import HttpGateway.Text.Blank

/-!
# Paths

A path and a template are brought into one form before they are compared: without white space
at the ends, with exactly one slash in front, and with one trailing slash less. The segments of
a path in that form are the pieces between its slashes; the root has none.
-/

namespace HttpGateway.Path

/-- A list of characters without its last slash, if it ends with one. -/
def dropLastSlash (l : List Char) : List Char :=
  if l.getLast? = some '/' then l.dropLast else l

/-- The characters of a path after the slash in front. -/
def body (raw : List Char) : List Char :=
  dropLastSlash ((Text.strip Text.isBlank raw).dropWhile (· == '/'))

/-- The normal form of the characters of a path. -/
def normalizeChars (raw : List Char) : List Char := '/' :: body raw

/-- The normal form of a path. -/
def normalize (raw : String) : String := String.ofList (normalizeChars raw.toList)

/-- The segments of a path that begins with a slash. -/
def segmentChars : List Char → List (List Char)
  | [] => []
  | [_] => []
  | _ :: rest => rest.splitOn '/'

/-- The segments of a path that begins with a slash. -/
def segments (path : String) : List String := (segmentChars path.toList).map String.ofList

/-- Remove a stage from the front of a path, if a segment ends after it. Trailing slashes of the
stage do not count, and an empty stage is not removed. -/
def stripStage (stage path : String) : String :=
  let stage := Text.dropTailWhile (· == '/') stage.toList
  if stage.isEmpty then path
  else if !stage.isPrefixOf path.toList then path
  else
    match path.toList.drop stage.length with
    | [] => "/"
    | '/' :: rest => String.ofList ('/' :: rest)
    | _ => path

end HttpGateway.Path
