import HttpGateway.Proofs.Routing.Registration
import HttpGateway.Proofs.Routing.Selection
import HttpGateway.Proofs.Text.Coding
import HttpGateway.Proofs.Text.Lowercase

/-!
# Templates without slots

A slash parts words and is the lower case of itself alone, so a path can be brought into lower case
as a whole or piece by piece, with the same pieces (`Text.splitOn_lowercaseChars`). So two paths
have the same normal form in lower case exactly when their pieces are the same in lower case
(`Path.lowercase_normalize_eq_iff`), and a template without slots captures the paths without
percent signs whose normal form in lower case is its own (`Template.capture?_slotless_iff`).
-/

namespace HttpGateway

namespace Text

variable {separator : Char}

/-- The lower case of joined pieces joins the lower cases of the pieces. -/
theorem lowercaseChars_intercalate (parting : IsParting separator)
    (settled : IsSettled separator.toNat) (pieces : List (List Char)) :
    lowercaseChars ([separator].intercalate pieces) =
      [separator].intercalate (pieces.map lowercaseChars) := by
  induction pieces with
  | nil => rfl
  | cons piece rest ih =>
    cases rest with
    | nil => simp only [List.map_cons, List.map_nil, List.intercalate_singleton]
    | cons next rest =>
      rw [List.intercalate_cons_cons, List.append_assoc, List.singleton_append,
        lowercaseChars_append_cons parting settled, ih]
      simp

/-- The pieces of a text in lower case are its pieces in lower case, if the separator parts words
and is the lower case of itself alone. -/
theorem splitOn_lowercaseChars (parting : IsParting separator)
    (settled : IsSettled separator.toNat) (low : separator.toNat < 0x61) (l : List Char) :
    (lowercaseChars l).splitOn separator = (l.splitOn separator).map lowercaseChars := by
  have whole : lowercaseChars l =
      [separator].intercalate ((l.splitOn separator).map lowercaseChars) := by
    rw [← lowercaseChars_intercalate parting settled, List.intercalate_splitOn]
  rw [whole]
  apply List.splitOn_intercalate
  · intro lowered mem held
    obtain ⟨piece, there, rfl⟩ := List.mem_map.1 mem
    have inside := (mem_lowercaseChars_iff low settled).1 held
    exact (mem_and_ne_of_mem_splitOn there inside).2 rfl
  · exact mt List.map_eq_nil_iff.1 (List.splitOn_ne_nil separator l)

end Text

namespace Path

/-- The body of a path leaves out characters and changes none. -/
theorem body_sublist (raw : List Char) : (body raw).Sublist raw := by
  have stripped : (Text.strip Text.isBlank raw).Sublist raw := by
    obtain ⟨front, back, whole, -, -⟩ := Text.exists_eq_append_strip Text.isBlank raw
    have inside := (List.sublist_append_right front (Text.strip Text.isBlank raw)).trans
      (List.sublist_append_left _ back)
    rwa [← whole] at inside
  have opened := (List.dropWhile_sublist (· == '/')).trans stripped
  unfold body dropLastSlash
  split
  · exact (List.dropLast_sublist _).trans opened
  · exact opened

/-- The characters of a piece of a path are characters of the path. -/
theorem mem_of_mem_pieces {path : String} {piece : List Char} {c : Char}
    (there : piece ∈ pieces path) (inside : c ∈ piece) : c ∈ path.toList := by
  unfold pieces at there
  split at there
  · cases there
  · rw [toList_normalize, List.tail_cons] at there
    exact (body_sublist _).mem (Text.mem_and_ne_of_mem_splitOn there inside).1

/-- A slash parts words, and is the lower case of itself alone. -/
theorem slash_parts : Text.IsParting '/' ∧ Text.IsSettled '/'.toNat := by
  decide +kernel

/-- The pieces of a path in lower case are those of its body in lower case. -/
theorem map_lowercaseChars_pieces (path : String) :
    (pieces path).map Text.lowercaseChars =
      if Text.lowercaseChars (body path.toList) = [] then []
      else (Text.lowercaseChars (body path.toList)).splitOn '/' := by
  have root : normalize path = "/" ↔ Text.lowercaseChars (body path.toList) = [] :=
    normalize_eq_root_iff.trans Text.lowercaseChars_eq_nil_iff.symm
  unfold pieces
  by_cases bare : normalize path = "/"
  · rw [if_pos bare, if_pos (root.1 bare), List.map_nil]
  · rw [if_neg bare, if_neg (mt root.2 bare), toList_normalize, List.tail_cons,
      Text.splitOn_lowercaseChars slash_parts.1 slash_parts.2 (by decide)]

/-- Normal forms are the same in lower case when their bodies are. -/
theorem lowercase_normalize_eq_iff_body {first second : String} :
    Text.lowercase (normalize first) = Text.lowercase (normalize second) ↔
      Text.lowercaseChars (body first.toList) = Text.lowercaseChars (body second.toList) := by
  have whole : ∀ path : String, (Text.lowercase (normalize path)).toList =
      '/' :: Text.lowercaseChars (body path.toList) := by
    intro path
    rw [Text.lowercase, String.toList_ofList, toList_normalize]
    exact Text.lowercaseChars_append_cons slash_parts.1 slash_parts.2 [] _
  rw [← String.toList_inj, whole, whole]
  exact List.cons_inj_right '/'

/-- Two paths have the same normal form in lower case when their pieces are the same in lower
case. -/
theorem lowercase_normalize_eq_iff {first second : String} :
    Text.lowercase (normalize first) = Text.lowercase (normalize second) ↔
      (pieces first).map Text.lowercaseChars = (pieces second).map Text.lowercaseChars := by
  have joined : ∀ path : String, ['/'].intercalate ((pieces path).map Text.lowercaseChars) =
      Text.lowercaseChars (body path.toList) := by
    intro path
    rw [map_lowercaseChars_pieces]
    split
    · next empty => rw [empty, List.intercalate_nil]
    · exact List.intercalate_splitOn '/'
  rw [lowercase_normalize_eq_iff_body]
  constructor
  · intro same
    rw [map_lowercaseChars_pieces, map_lowercaseChars_pieces, same]
  · intro same
    rw [← joined first, same, joined second]

end Path

namespace Template

variable {raw path : String} {template : Template}

/-- A template without slots has literals alone: what it is written as, in lower case. -/
theorem segments_of_slotless (slotless : template.parameters = []) :
    template.segments = (Path.pieces template.raw).map fun written =>
      Segment.literal (String.ofList (Text.lowercaseChars written)) := by
  rw [segments_eq_map_pieces]
  refine List.map_congr_left fun written mem => ?_
  have unnamed : (Segment.read written).name? = none := by
    unfold parameters at slotless
    rw [segments_eq_map_pieces, List.filterMap_map] at slotless
    exact List.filterMap_eq_nil_iff.1 slotless written mem
  unfold Segment.read at unnamed ⊢
  cases slot : Segment.slotName? written with
  | none => rfl
  | some name =>
    rw [slot] at unnamed
    cases unnamed

/-- A template without slots fits the texts that are the same as its pieces in lower case. -/
theorem fits_iff_of_slotless (slotless : template.parameters = []) {texts : List (List Char)} :
    template.Fits texts ↔
      texts.map Text.lowercaseChars = (Path.pieces template.raw).map Text.lowercaseChars := by
  rw [Fits, segments_of_slotless slotless, List.forall₂_map_left_iff, eq_comm, ←
    List.forall₂_eq_eq_eq, List.forall₂_map_left_iff, List.forall₂_map_right_iff]
  simp only [Segment.Takes, String.ofList_inj, eq_comm]

/-- A path without percent signs is read as its pieces. -/
theorem texts_normalize_of_not_mem (unescaped : '%' ∉ path.toList) :
    Path.texts (Path.normalize path) = Path.pieces path := by
  unfold Path.texts
  rw [Path.segmentChars_normalize]
  refine (List.map_congr_left fun piece mem => ?_).trans (List.map_id _)
  exact Text.Percent.decodeChars_of_not_mem fun inside =>
    unescaped (Path.mem_of_mem_pieces mem inside)

/-- A template that compiles without slots captures a path without percent signs exactly when the
lower case of the normal form of the path is the normal form of the template in lower case. To
compare the pieces of the two in lower case, one by one, is to compare these whole texts. -/
theorem capture?_slotless_iff (compiled : compile raw = .ok template)
    (slotless : template.parameters = []) (unescaped : '%' ∉ path.toList) :
    ((∃ captured, template.capture? (Path.normalize path) = some captured) ↔
      Text.lowercase (Path.normalize path) = template.normalized) ∧
    ((Path.pieces path).map Text.lowercaseChars = (Path.pieces raw).map Text.lowercaseChars ↔
      Text.lowercase (Path.normalize path) = template.normalized) := by
  obtain rfl := compile_eq_ok_iff.1 compiled
  have whole : (Path.pieces path).map Text.lowercaseChars =
      (Path.pieces template.raw).map Text.lowercaseChars ↔
        Text.lowercase (Path.normalize path) = template.normalized :=
    Path.lowercase_normalize_eq_iff.symm
  refine ⟨?_, whole⟩
  rw [← whole, ← fits_iff_of_slotless slotless, ← texts_normalize_of_not_mem unescaped]
  constructor
  · rintro ⟨captured, found⟩
    exact (capture?_eq_some_iff.1 found).1
  · exact fun fits => ⟨_, capture?_eq_some_iff.2 ⟨fits, rfl⟩⟩

/-- A capital sigma at the end of a piece, a literal in braces and an empty last piece. -/
theorem capture?_slotless_iff_sigma : ∃ template,
    compile "/ΟΔΟΣ/{a-b}//" = .ok template ∧ template.parameters = [] ∧
      '%' ∉ " //Οδος/{A-B}//".toList ∧
      template.normalized = "/οδος/{a-b}/" ∧
      ∃ captured, template.capture? (Path.normalize " //Οδος/{A-B}//") = some captured := by
  -- the template with the segments that it is compiled to
  let template : Template := ⟨"/ΟΔΟΣ/{a-b}//",
    [.literal "οδος", .literal "{a-b}", .literal ""], by decide +kernel, by decide +kernel⟩
  have compiled : compile "/ΟΔΟΣ/{a-b}//" = .ok template := compile_eq_ok_iff.2 rfl
  have unescaped : '%' ∉ " //Οδος/{A-B}//".toList := by decide
  have same : Text.lowercase (Path.normalize " //Οδος/{A-B}//") = template.normalized := by
    decide +kernel
  exact ⟨template, compiled, rfl, unescaped, by decide +kernel,
    (capture?_slotless_iff compiled rfl unescaped).1.2 same⟩

end Template

end HttpGateway
