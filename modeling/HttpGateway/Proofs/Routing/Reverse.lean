import HttpGateway.Proofs.Routing.Capture
import HttpGateway.Proofs.Routing.Registration
import HttpGateway.Proofs.Text.Coding
import HttpGateway.Proofs.Text.Lowercase
import HttpGateway.Proofs.Text.Strip

/-!
# Paths made from texts

The way back from texts to a path writes each text percent-encoded, so that its slashes, percent
signs and blanks are none of the path's own, and parts them by slashes. Reading such a path gives
the texts again (`Path.texts_ofTexts`), provided the first is not empty, which it never is of the
texts that a template fits. So a template captures the path that is made of its own segments with
any texts in its slots, and captures exactly these texts (`Table.match?_reverse`).
-/

namespace HttpGateway

/-! ## Characters that are kept -/

namespace Text.Percent

/-- Percent-encoded characters are neither slashes nor white space. -/
theorem kept_of_mem_encodeChars {l : List Char} {c : Char} (mem : c ∈ encodeChars l) :
    c ≠ '/' ∧ isBlank c = false := by
  obtain ⟨octet, -, mem⟩ := List.mem_flatMap.1 mem
  obtain ⟨lower, upper, other⟩ := bounds_of_mem_encodeOctet mem
  refine ⟨?_, isBlank_eq_false_of_visible (by omega) upper⟩
  rintro rfl
  exact other rfl

/-- A list of characters has an empty code only when it is empty. -/
theorem encodeChars_eq_nil_iff {l : List Char} : encodeChars l = [] ↔ l = [] := by
  refine ⟨fun none => ?_, ?_⟩
  · have back := decodeChars_encodeChars l
    rw [none] at back
    exact back.symm
  · rintro rfl
    rfl

end Text.Percent

/-! ## Paths -/

namespace Path

/-- What texts are written as: each percent-encoded, parted by slashes. -/
def joined (texts : List (List Char)) : List Char :=
  ['/'].intercalate (texts.map Text.Percent.encodeChars)

/-- What a path made from texts ends with: one slash more if the last text is empty, as reading
drops one. -/
def closing (texts : List (List Char)) : List Char :=
  if texts.getLast? = some [] then ['/'] else []

/-- The path with given texts between its slashes. -/
def ofTexts (texts : List (List Char)) : String :=
  String.ofList ('/' :: (joined texts ++ closing texts))

/-- The pieces between the slashes of what texts are written as are their codes. -/
theorem splitOn_joined {texts : List (List Char)} (some : texts ≠ []) :
    (joined texts).splitOn '/' = texts.map Text.Percent.encodeChars := by
  apply List.splitOn_intercalate
  · intro piece mem slash
    obtain ⟨text, -, rfl⟩ := List.mem_map.1 mem
    exact (Text.Percent.kept_of_mem_encodeChars slash).1 rfl
  · simpa using some

/-- Texts are written without white space. -/
theorem isBlank_of_mem_joined {texts : List (List Char)} {c : Char} (mem : c ∈ joined texts) :
    Text.isBlank c = false := by
  unfold joined at mem
  induction texts with
  | nil => simp at mem
  | cons text rest ih =>
    cases rest with
    | nil =>
      simp only [List.map_cons, List.map_nil, List.intercalate_singleton] at mem
      exact (Text.Percent.kept_of_mem_encodeChars mem).2
    | cons next rest =>
      simp only [List.map_cons, List.intercalate_cons_cons, List.mem_append,
        List.mem_singleton] at mem
      rcases mem with (mem | slash) | mem
      · exact (Text.Percent.kept_of_mem_encodeChars mem).2
      · rw [slash]
        decide
      · exact ih mem

/-- Texts of which the first is not empty are written as something. -/
theorem joined_ne_nil {texts : List (List Char)} (first : texts.head? ≠ some [])
    (some : texts ≠ []) : joined texts ≠ [] := by
  intro none
  have pieces := splitOn_joined some
  cases texts with
  | nil => exact some rfl
  | cons text rest =>
    rw [none, List.splitOn_nil, List.map_cons, List.cons.injEq] at pieces
    rw [Text.Percent.encodeChars_eq_nil_iff.1 pieces.1.symm] at first
    exact first rfl

/-- Texts of which the first is not empty are written without a slash in front. -/
theorem head?_joined {texts : List (List Char)} (first : texts.head? ≠ some []) :
    (joined texts).head? ≠ some '/' := by
  intro slash
  cases texts with
  | nil => simp [joined] at slash
  | cons text rest =>
    obtain ⟨tail, split⟩ := List.head?_eq_some_iff.1 slash
    have pieces := splitOn_joined (List.cons_ne_nil text rest)
    rw [split, List.splitOn_cons_eq_if_modifyHead] at pieces
    simp only [beq_self_eq_true, if_true, List.map_cons, List.cons.injEq] at pieces
    rw [Text.Percent.encodeChars_eq_nil_iff.1 pieces.1.symm] at first
    exact first rfl

/-- What texts are written as ends with a slash only when the last is empty. -/
theorem getLast?_eq_nil_of_joined {texts : List (List Char)}
    (slash : (joined texts).getLast? = some '/') : texts.getLast? = some [] := by
  have some : texts ≠ [] := by
    rintro rfl
    simp [joined] at slash
  obtain ⟨front, split⟩ := List.getLast?_eq_some_iff.1 slash
  have pieces := splitOn_joined some
  rw [split, List.splitOn_append_cons_self] at pieces
  have last : (texts.map Text.Percent.encodeChars).getLast? = Option.some [] := by
    rw [← pieces]
    simp
  rw [List.getLast?_map, Option.map_eq_some_iff] at last
  obtain ⟨text, last, empty⟩ := last
  rw [last, Text.Percent.encodeChars_eq_nil_iff.1 empty]

/-- A path made from texts has no white space. -/
theorem isBlank_of_mem_ofTexts {texts : List (List Char)} {c : Char}
    (mem : c ∈ '/' :: (joined texts ++ closing texts)) : Text.isBlank c = false := by
  have slash : Text.isBlank '/' = false := by decide
  rcases List.mem_cons.1 mem with rfl | mem
  · exact slash
  rcases List.mem_append.1 mem with mem | mem
  · exact isBlank_of_mem_joined mem
  · unfold closing at mem
    split at mem
    · rwa [List.mem_singleton.1 mem]
    · contradiction

/-- A path made from texts of which the first is not empty has one slash in front. -/
theorem dropWhile_joined_append_closing {texts : List (List Char)}
    (first : texts.head? ≠ some []) :
    (joined texts ++ closing texts).dropWhile (· == '/') = joined texts ++ closing texts := by
  have start := head?_joined first
  cases written : joined texts with
  | nil =>
    have none : texts = [] := by
      by_contra some
      exact joined_ne_nil first some written
    simp [none, closing]
  | cons c rest =>
    rw [written, List.head?_cons, ne_eq, Option.some.injEq] at start
    simp [start]

/-- The body of a path made from texts is what the texts are written as. -/
theorem body_ofTexts {texts : List (List Char)} (first : texts.head? ≠ some []) :
    body (ofTexts texts).toList = joined texts := by
  unfold body ofTexts
  rw [String.toList_ofList, Text.strip_of_forall fun c => isBlank_of_mem_ofTexts,
    List.dropWhile_cons_of_pos (by rfl), dropWhile_joined_append_closing first]
  unfold closing dropLastSlash
  by_cases last : texts.getLast? = some []
  · rw [if_pos last, List.getLast?_concat, if_pos rfl, List.dropLast_concat]
  · rw [if_neg last, List.append_nil, if_neg fun slash => last (getLast?_eq_nil_of_joined slash)]

/-- Reading a path made from texts gives the texts, if the first is not empty. -/
theorem texts_ofTexts {texts : List (List Char)} (first : texts.head? ≠ some []) :
    Path.texts (normalize (ofTexts texts)) = texts := by
  have decoded : (texts.map Text.Percent.encodeChars).map Text.Percent.decodeChars = texts := by
    rw [List.map_map]
    exact (List.map_congr_left fun text _ => Text.Percent.decodeChars_encodeChars text).trans
      texts.map_id
  have pieces : segmentChars ('/' :: joined texts) = texts.map Text.Percent.encodeChars := by
    by_cases none : texts = []
    · rw [none]
      rfl
    · obtain ⟨c, rest, written⟩ := List.exists_cons_of_ne_nil (joined_ne_nil first none)
      rw [← splitOn_joined none, written]
      rfl
  rw [Path.texts, normalize, String.toList_ofList, normalizeChars, body_ofTexts first, pieces,
    decoded]

/-- The body of a path does not begin with a slash. -/
theorem head?_body (raw : List Char) : (body raw).head? ≠ some '/' := by
  have start := List.head?_dropWhile_not (· == '/') (Text.strip Text.isBlank raw)
  unfold body dropLastSlash
  generalize (Text.strip Text.isBlank raw).dropWhile (· == '/') = rest at start ⊢
  intro slash
  have front : rest.head? = some '/' := by
    split at slash
    · rw [List.head?_dropLast] at slash
      split at slash
      · exact slash
      · contradiction
    · exact slash
  simp [front] at start

/-- The first piece of a path with one slash in front is not empty. -/
theorem head?_segmentChars (raw : List Char) :
    (segmentChars (normalizeChars raw)).head? ≠ some [] := by
  have start := head?_body raw
  unfold normalizeChars
  cases rest : body raw with
  | nil => simp [segmentChars]
  | cons c tail =>
    rw [rest, List.head?_cons, ne_eq, Option.some.injEq] at start
    obtain ⟨piece, pieces, split⟩ := List.exists_cons_of_ne_nil (List.splitOn_ne_nil '/' tail)
    simp [segmentChars, List.splitOn_cons_eq_if_modifyHead, start, split]

end Path

/-! ## Templates -/

namespace Segment

/-- A text fills a segment if a literal takes it, or if it is the value for the slot. -/
def Filled (value : String → String) : Segment → List Char → Prop
  | literal lower, text => (literal lower).Takes text
  | slot name, text => String.ofList text = value name

/-- The text of a segment: that of a literal in lower case, or the value for a slot. -/
def text (value : String → String) : Segment → List Char
  | literal lower => lower.toList
  | slot name => (value name).toList

/-- The text of a segment as it is written, or the value for a slot. -/
def writtenText (value : String → String) (written : List Char) : List Char :=
  match slotName? written with
  | some name => (value (String.ofList name)).toList
  | none => written

/-- A segment as it is written fills the segment. -/
theorem filled_writtenText (value : String → String) (written : List Char) :
    (read written).Filled value (writtenText value written) := by
  unfold read writtenText
  cases slotName? written with
  | none => rfl
  | some name => exact String.ofList_toList

/-- A segment in lower case fills the segment. -/
theorem filled_text (value : String → String) (written : List Char) :
    (read written).Filled value ((read written).text value) := by
  unfold read
  cases slotName? written with
  | none =>
    change String.ofList (Text.lowercaseChars (String.ofList _).toList) = _
    rw [String.toList_ofList, Text.lowercaseChars_lowercaseChars]
  | some name => exact String.ofList_toList

end Segment

namespace Template

variable {value : String → String}

/-- The segments of a template as they are written. -/
def written (template : Template) : List (List Char) :=
  Path.segmentChars (Path.normalizeChars template.raw.toList)

/-- The path made from the segments of a template, with given values for its slots. -/
def reverse (template : Template) (value : String → String) : String :=
  Path.ofTexts (template.segments.map (Segment.text value))

/-- The path made from the segments of a template as they are written, with given values for its
slots. -/
def reverseWritten (template : Template) (value : String → String) : String :=
  Path.ofTexts (template.written.map (Segment.writtenText value))

/-- The segments of a template are those written. -/
theorem segments_eq (template : Template) :
    template.segments = template.written.map Segment.read :=
  template.compiled

/-- The first of the texts that a template fits is not empty. -/
theorem head?_ne_of_fits {template : Template} {texts : List (List Char)}
    (fits : template.Fits texts) : texts.head? ≠ some [] := by
  have start : template.written.head? ≠ some [] := Path.head?_segmentChars _
  unfold Fits at fits
  rw [segments_eq, List.forall₂_map_left_iff] at fits
  generalize template.written = pieces at start fits
  intro empty
  cases fits with
  | nil => contradiction
  | @cons piece text _ _ takes _ =>
    obtain rfl := Option.some.inj empty
    unfold Segment.read at takes
    split at takes
    · exact takes rfl
    · have blank : Text.lowercaseChars piece = Text.lowercaseChars [] :=
        (String.ofList_injective takes).symm
      exact start (congrArg some (Text.lowercaseChars_eq_nil_iff.1 blank))

/-- Segments take the texts that fill them, if no value is empty. -/
theorem takes_of_filled {segments : List Segment} {texts : List (List Char)}
    (filled : List.Forall₂ (Segment.Filled value) segments texts)
    (some : ∀ name ∈ segments.filterMap Segment.name?, value name ≠ "") :
    List.Forall₂ Segment.Takes segments texts := by
  induction filled with
  | nil => exact .nil
  | @cons segment text segments texts fills _ ih =>
    cases segment with
    | literal lower => exact .cons fills (ih some)
    | slot name =>
      have given := some name (by simp [Segment.name?])
      refine .cons ?_ (ih fun other mem => some other (by simp [Segment.name?, mem]))
      rintro rfl
      exact given fills.symm

/-- The entries made of texts that fill segments are the values for the slots. -/
theorem entries_of_filled {segments : List Segment} {texts : List (List Char)}
    (filled : List.Forall₂ (Segment.Filled value) segments texts) :
    entries segments texts =
      (segments.filterMap Segment.name?).map fun name => (Text.lowercase name, value name) := by
  induction filled with
  | nil => rfl
  | @cons segment text segments texts fills _ ih =>
    cases segment with
    | literal lower => exact ih
    | slot name =>
      have made : (Segment.slot name).binding? text = some (Text.lowercase name, value name) :=
        congrArg (fun value => some (Text.lowercase name, value)) fills
      simpa [entries, Segment.name?, made] using ih

/-- The segments of a template in lower case fill them. -/
theorem filled_segments (template : Template) (value : String → String) :
    List.Forall₂ (Segment.Filled value) template.segments
      (template.segments.map (Segment.text value)) := by
  rw [segments_eq, List.map_map, List.forall₂_map_left_iff, List.forall₂_map_right_iff]
  exact List.forall₂_same.2 fun piece _ => Segment.filled_text value piece

/-- The segments of a template as they are written fill them. -/
theorem filled_written (template : Template) (value : String → String) :
    List.Forall₂ (Segment.Filled value) template.segments
      (template.written.map (Segment.writtenText value)) := by
  rw [segments_eq, List.forall₂_map_left_iff, List.forall₂_map_right_iff]
  exact List.forall₂_same.2 fun piece _ => Segment.filled_writtenText value piece

/-- The names of the slots are distinct in lower case. -/
theorem nodup_keys (template : Template) :
    (template.parameters.map Text.lowercase).Nodup := by
  unfold parameters
  rw [List.map_filterMap]
  exact template.distinct

/-- Reading a path made from texts that fill the segments of a template gives the texts. -/
theorem texts_ofTexts {template : Template} {texts : List (List Char)}
    (filled : List.Forall₂ (Segment.Filled value) template.segments texts)
    (some : ∀ name ∈ template.parameters, value name ≠ "") :
    Path.texts (Path.normalize (Path.ofTexts texts)) = texts :=
  Path.texts_ofTexts (head?_ne_of_fits (takes_of_filled filled some))

/-- A template captures the values for its slots from a path made from texts that fill its
segments. -/
theorem capture?_ofTexts {template : Template} {texts : List (List Char)}
    (filled : List.Forall₂ (Segment.Filled value) template.segments texts)
    (some : ∀ name ∈ template.parameters, value name ≠ "") :
    template.capture? (Path.normalize (Path.ofTexts texts)) =
      Option.some (Dict.ofList (template.parameters.map fun name =>
        (Text.lowercase name, value name))) := by
  rw [capture?_eq_some_iff, texts_ofTexts filled some, entries_of_filled filled]
  exact ⟨takes_of_filled filled some, rfl⟩

end Template

/-! ## Tables of one route -/

namespace Table

variable {κ : Type}

/-- A table of one route finds it for the requests with its method whose path its template
captures. -/
theorem match?_singleton {route : Route κ} {method path : String} {parameters : Dict String}
    (same : route.method = normalizeMethod method)
    (captured : route.template.capture? (Path.normalize path) = some parameters) :
    (⟨[route]⟩ : Table κ).match? method path = some ⟨0, route, parameters⟩ := by
  rw [match?_eq_some_iff]
  refine ⟨rfl, Route.fit?_eq_some_iff.2 ⟨same, captured⟩, ?_⟩
  exact fun i before => absurd before (Nat.not_lt_zero i)

/-- A table with just one registered template finds its route for each path that is made from the
template with values for the slots, none of them empty, and with the literals in lower case or as
they are written. The parameters it captures are these values. -/
theorem match?_reverse (r : Registration κ) {template : Template} (value : String → String)
    (compiled : Template.compile r.path = .ok template)
    (filled : ∀ name ∈ template.parameters, value name ≠ "") :
    ∃ (route : Route κ) (parameters : Dict String),
      (∅ : Table κ).register r = .ok ⟨[route]⟩ ∧ route.template = template ∧
      (∀ method, normalizeMethod method = normalizeMethod r.method →
        (⟨[route]⟩ : Table κ).match? method (template.reverse value) =
            some ⟨0, route, parameters⟩ ∧
          (⟨[route]⟩ : Table κ).match? method (template.reverseWritten value) =
            some ⟨0, route, parameters⟩) ∧
      ∀ key text, parameters.get? key = some text ↔
        ∃ name ∈ template.parameters, Text.lowercase name = key ∧ value name = text := by
  obtain ⟨route, registered, method, rfl⟩ := exists_register (∅ : Table κ) compiled
  refine ⟨route, Dict.ofList (route.template.parameters.map fun name =>
    (Text.lowercase name, value name)), registered, rfl, ?_, ?_⟩
  · intro asked same
    have fits : route.method = normalizeMethod asked := method.trans same.symm
    exact ⟨match?_singleton fits
        (Template.capture?_ofTexts (route.template.filled_segments value) filled),
      match?_singleton fits
        (Template.capture?_ofTexts (route.template.filled_written value) filled)⟩
  · intro key text
    have distinct : ((route.template.parameters.map fun name =>
        (Text.lowercase name, value name)).map Prod.fst).Nodup := by
      rw [List.map_map]
      exact route.template.nodup_keys
    rw [Dict.get?_ofList_eq_some_iff distinct]
    simp only [List.mem_map, Prod.mk.injEq]

/-- A value with a slash, a blank and what looks like an escape comes back from between a literal
with a percent sign and an empty one. -/
theorem match?_reverse_escaped :
    ∃ (route : Route Unit) (parameters : Dict String),
      (∅ : Table Unit).register ⟨"get", "/Docs/100%/\x7bName\x7d//", .ok, fun _ => .ok (), []⟩ =
        .ok ⟨[route]⟩ ∧
      (⟨[route]⟩ : Table Unit).match? " Get " "/docs/100%25/%C3%A9%2F%20%252F//" =
        some ⟨0, route, parameters⟩ ∧
      parameters.get? "name" = some "é/ %2F" := by
  obtain ⟨template, compiled, segments⟩ : ∃ template,
      Template.compile "/Docs/100%/\x7bName\x7d//" = .ok template ∧
        template.segments = [.literal "docs", .literal "100%", .slot "Name", .literal ""] :=
    ⟨⟨_, _, by decide +kernel, by decide +kernel⟩, Template.compile_eq_ok_iff.2 rfl, rfl⟩
  have parameters : template.parameters = ["Name"] := by
    rw [Template.parameters, segments]
    rfl
  obtain ⟨route, captured, registered, -, found, values⟩ := match?_reverse (κ := Unit)
    ⟨"get", "/Docs/100%/\x7bName\x7d//", .ok, fun _ => .ok (), []⟩ (fun _ => "é/ %2F") compiled
    (by simp)
  have path : template.reverse (fun _ => "é/ %2F") = "/docs/100%25/%C3%A9%2F%20%252F//" := by
    rw [Template.reverse, segments]
    decide +kernel
  have asked := (found " Get " (by decide +kernel)).1
  rw [path] at asked
  exact ⟨route, captured, registered, asked,
    (values _ _).2 ⟨"Name", by simp [parameters], by decide +kernel, rfl⟩⟩

end Table

end HttpGateway
