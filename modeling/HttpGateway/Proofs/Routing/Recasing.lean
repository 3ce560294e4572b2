import HttpGateway.Proofs.Routing.Registration
import HttpGateway.Proofs.Routing.Selection
import HttpGateway.Proofs.Text.Recasing

/-!
# Requests and templates in another letter case

A route is found by the lower case of what a request and a template say, so the case of their ASCII
letters does not count. Bringing paths into their normal form, cutting them into pieces and decoding
the pieces follow a change of letter case (`Path.texts_recased`). A literal does not see it and a
slot hands it on, so a template fits the same requests and captures values that differ as the
requests do (`Template.captured_recased`). Of a template written in another letter case the slots
alone change, in the case of their names (`Template.folded_read_recased`), and nothing that is
captured depends on that. Both are one statement (`Table.match?_recased`).
-/

namespace HttpGateway

open Text (Recased)

namespace Path

/-- A character is a slash exactly when it is one in lower case. -/
theorem toLower_beq_slash (c : Char) : (c.toLower == '/') = (c == '/') :=
  Bool.eq_iff_iff.2 (by rw [beq_iff_eq, beq_iff_eq, Text.toLower_eq_iff (by decide)])

/-- A path in lower case loses its last slash as the path does. -/
theorem dropLastSlash_map_toLower (l : List Char) :
    dropLastSlash (l.map Char.toLower) = (dropLastSlash l).map Char.toLower := by
  have slash := Text.getLast?_map_toLower (d := '/') (by decide) l
  unfold dropLastSlash
  by_cases last : l.getLast? = some '/'
  · rw [if_pos last, if_pos (slash.2 last), List.map_dropLast]
  · rw [if_neg last, if_neg (mt slash.1 last)]

/-- The body of a path in lower case is its body in lower case. -/
theorem body_map_toLower (raw : List Char) :
    body (raw.map Char.toLower) = (body raw).map Char.toLower := by
  have same : (· == '/') ∘ Char.toLower = (· == '/') := funext toLower_beq_slash
  unfold body
  rw [Text.strip_map Text.isBlank_toLower, List.dropWhile_map, same, dropLastSlash_map_toLower]

/-- The segments of a path in lower case are its segments in lower case. -/
theorem segmentChars_map_toLower (l : List Char) :
    segmentChars (l.map Char.toLower) = (segmentChars l).map (List.map Char.toLower) := by
  rcases l with _ | ⟨c, _ | ⟨d, rest⟩⟩
  · rfl
  · rfl
  · exact Text.splitOn_map toLower_beq_slash (d :: rest)

/-- Paths that differ at most in the case of ASCII letters have segments that do so too. -/
theorem segments_recased {path other : String} (recased : Recased path other) :
    (segmentChars (normalizeChars path.toList)).map (List.map Char.toLower) =
      (segmentChars (normalizeChars other.toList)).map (List.map Char.toLower) := by
  have lowered : ∀ l : List Char, normalizeChars (l.map Char.toLower) =
      (normalizeChars l).map Char.toLower := by
    intro l
    unfold normalizeChars
    rw [body_map_toLower, List.map_cons]
    rfl
  rw [← segmentChars_map_toLower, ← segmentChars_map_toLower, ← lowered, ← lowered,
    Text.recased_iff.1 recased]

/-- The texts of paths that differ at most in the case of ASCII letters do so too. -/
theorem texts_recased {path other : String} (recased : Recased path other) :
    (texts (normalize path)).map (List.map Char.toLower) =
      (texts (normalize other)).map (List.map Char.toLower) := by
  have pieces : ∀ path : String, (texts (normalize path)).map (List.map Char.toLower) =
      ((segmentChars (normalizeChars path.toList)).map (List.map Char.toLower)).map
        fun piece => (Text.Percent.decodeChars piece).map Char.toLower := by
    intro path
    unfold texts normalize
    rw [String.toList_ofList, List.map_map, List.map_map]
    exact List.map_congr_left fun piece _ => (Text.Percent.decodeChars_map_toLower piece).symm
  rw [pieces, pieces, segments_recased recased]

end Path

namespace Segment

/-- A segment with the name of a slot in lower case. -/
def folded : Segment → Segment
  | literal text => literal text
  | slot name => slot (Text.lowercase name)

/-- A segment has the same key with the name of a slot in lower case. -/
theorem key?_folded (segment : Segment) : segment.folded.key? = segment.key? := by
  cases segment with
  | literal text => rfl
  | slot name => exact congrArg some (Text.lowercase_lowercase name)

/-- A segment takes a text when it takes it in lower case. -/
theorem takes_map_toLower (segment : Segment) (text : List Char) :
    segment.Takes (text.map Char.toLower) ↔ segment.Takes text := by
  cases segment with
  | literal lower =>
    unfold Takes
    dsimp only
    rw [Text.lowercaseChars_map_toLower]
  | slot name => exact not_congr List.map_eq_nil_iff

/-- The binding of a text in lower case is its binding with the value in lower case. -/
theorem binding?_map_toLower (segment : Segment) (text : List Char) :
    segment.binding? (text.map Char.toLower) =
      (segment.binding? text).map fun entry => (entry.1, asciiLowercase entry.2) := by
  cases segment with
  | literal lower => rfl
  | slot name => simp [binding?, asciiLowercase]

/-- What does not begin with a brace is no slot. -/
theorem slotName?_of_head {c : Char} (other : c ≠ '\x7b') (rest : List Char) :
    slotName? (c :: rest) = none := by
  unfold slotName?
  split
  · next same => exact absurd (List.cons.inj same).1 other
  · rfl

/-- What is written in lower case is a slot with the name in lower case, if it is one. -/
theorem slotName?_map_toLower (written : List Char) :
    slotName? (written.map Char.toLower) = (slotName? written).map (List.map Char.toLower) := by
  have opening : ∀ c : Char, c.toLower = '\x7b' ↔ c = '\x7b' := Text.toLower_eq_iff (by decide)
  have closing : ∀ l : List Char, (l.map Char.toLower).getLast? = some '\x7d' ↔
      l.getLast? = some '\x7d' := Text.getLast?_map_toLower (by decide)
  have names : isNameChar ∘ Char.toLower = isNameChar :=
    funext (Text.apply_toLower (by decide +kernel))
  cases written with
  | nil => rfl
  | cons c rest =>
    rw [List.map_cons]
    by_cases brace : c = '\x7b'
    · rw [(opening c).2 brace, brace]
      unfold slotName?
      simp only [closing, ← List.map_dropLast, List.all_map, names, List.isEmpty_map]
      split <;> rfl
    · rw [slotName?_of_head brace, slotName?_of_head (mt (opening c).1 brace), Option.map_none]

/-- What is written in lower case is read as the same segment, up to the case of the name of a
slot. -/
theorem folded_read_map_toLower (written : List Char) :
    (read (written.map Char.toLower)).folded = (read written).folded := by
  unfold read
  rw [slotName?_map_toLower]
  cases slotName? written with
  | none => simp [Text.lowercaseChars_map_toLower]
  | some name => simp [folded, Text.lowercase, Text.lowercaseChars_map_toLower]

end Segment

/-! ## Templates in another letter case -/

namespace Template

/-- Segments have the same keys with the names of their slots in lower case. -/
theorem filterMap_key?_folded (segments : List Segment) :
    (segments.map Segment.folded).filterMap Segment.key? = segments.filterMap Segment.key? := by
  rw [List.filterMap_map]
  exact List.filterMap_congr fun segment _ => segment.key?_folded

/-- Templates that differ at most in the case of ASCII letters are written as the same segments, up
to the case of the names of slots. -/
theorem folded_read_recased {raw other : String} (recased : Recased raw other) :
    ((Path.segmentChars (Path.normalizeChars raw.toList)).map Segment.read).map Segment.folded =
      ((Path.segmentChars (Path.normalizeChars other.toList)).map Segment.read).map
        Segment.folded := by
  have lowered : ∀ pieces : List (List Char), (pieces.map Segment.read).map Segment.folded =
      (pieces.map (List.map Char.toLower)).map fun written => (Segment.read written).folded := by
    intro pieces
    rw [List.map_map, List.map_map]
    exact List.map_congr_left fun written _ => (Segment.folded_read_map_toLower written).symm
  rw [lowered, lowered, Path.segments_recased recased]

/-- Templates that differ at most in the case of ASCII letters compile together. -/
theorem exists_compile_of_recased {raw other : String} (recased : Recased raw other)
    (compiles : ∃ template, compile raw = .ok template) :
    ∃ template, compile other = .ok template := by
  rw [exists_compile_iff] at compiles ⊢
  rwa [← filterMap_key?_folded, ← folded_read_recased recased, filterMap_key?_folded]

/-- A segment captures the same with the name of a slot in lower case. -/
theorem takePiece?_folded (segment : Segment) (piece : List Char) :
    takePiece? segment.folded piece = takePiece? segment piece := by
  cases segment with
  | literal text => rfl
  | slot name => simp only [takePiece?, Segment.folded, Text.lowercase_lowercase]

/-- Segments capture the same with the names of their slots in lower case. -/
theorem takePieces?_map_folded (segments : List Segment) (pieces : List (List Char)) :
    takePieces? (segments.map Segment.folded) pieces = takePieces? segments pieces := by
  induction segments generalizing pieces with
  | nil => rfl
  | cons segment rest ih =>
    cases pieces with
    | nil => rfl
    | cons piece pieces => rw [List.map_cons, takePieces?, takePieces?, takePiece?_folded, ih]

/-- Templates that differ at most in the case of ASCII letters capture the same of every path. -/
theorem capture?_eq_of_recased {template other : Template}
    (recased : Recased template.raw other.raw) (path : String) :
    template.capture? path = other.capture? path := by
  unfold capture?
  rw [← takePieces?_map_folded template.segments, ← takePieces?_map_folded other.segments,
    template.compiled, other.compiled, folded_read_recased recased]

/-! ## Paths in another letter case -/

variable {template : Template} {path other : String}

/-- A template fits texts when it fits them in lower case. -/
theorem fits_map_toLower {texts : List (List Char)} :
    template.Fits (texts.map (List.map Char.toLower)) ↔ template.Fits texts := by
  unfold Fits
  rw [List.forall₂_map_right_iff]
  simp only [Segment.takes_map_toLower]

/-- The entries of texts in lower case are their entries with the values in lower case. -/
theorem entries_map_toLower (segments : List Segment) (texts : List (List Char)) :
    entries segments (texts.map (List.map Char.toLower)) =
      (entries segments texts).map fun entry => (entry.1, asciiLowercase entry.2) := by
  unfold entries
  rw [List.zip_map_right, List.filterMap_map, List.map_filterMap]
  exact List.filterMap_congr fun place _ => Segment.binding?_map_toLower place.1 place.2

/-- A template fits the paths that differ at most in the case of ASCII letters from one it fits. -/
theorem fits_of_recased (recased : Recased path other)
    (fits : template.Fits (Path.texts (Path.normalize path))) :
    template.Fits (Path.texts (Path.normalize other)) := by
  rw [← fits_map_toLower] at fits ⊢
  rwa [← Path.texts_recased recased]

/-- What a template captures of paths that differ at most in the case of ASCII letters does so
too. -/
theorem captured_recased {captured others : Dict String} (recased : Recased path other)
    (first : template.capture? (Path.normalize path) = some captured)
    (second : template.capture? (Path.normalize other) = some others) :
    captured.map asciiLowercase = others.map asciiLowercase := by
  rw [(capture?_eq_some_iff.1 first).2, (capture?_eq_some_iff.1 second).2, ← Dict.ofList_map,
    ← Dict.ofList_map, ← entries_map_toLower, ← entries_map_toLower, Path.texts_recased recased]

end Template

/-! ## Requests in another letter case -/

/-- A route fits the requests that differ at most in the case of ASCII letters from one it fits. -/
theorem Route.Fits.of_recased {κ : Type} {route : Route κ}
    {method otherMethod path otherPath : String} (methods : Recased method otherMethod)
    (paths : Recased path otherPath) (fits : route.Fits method path) :
    route.Fits otherMethod otherPath := by
  have texts := Template.fits_of_recased paths
    (Template.fits_texts_iff.2 ⟨fits.number.symm, fits.takes⟩)
  obtain ⟨number, takes⟩ := Template.fits_texts_iff.1 texts
  exact ⟨fits.method.trans methods.uppercase_trim_eq, number.symm, takes⟩

/-- Two finds are alike: they are the same route, and what is captured for it differs at most in the
case of ASCII letters. -/
structure Match.Alike {κ : Type} (found other : Match κ) : Prop where
  /-- The routes have the same place in the table. -/
  index : found.index = other.index
  /-- The routes are the same. -/
  route : found.route = other.route
  /-- There are parameters of the same names. -/
  keys : found.parameters.keys = other.parameters.keys
  /-- Parameters of one name have values that differ at most in the case of ASCII letters. -/
  values : ∀ key, Option.Rel Recased (found.parameters.get? key) (other.parameters.get? key)

/-- Finds of one route are alike if what is captured is the same in lower case. -/
theorem Match.alike_of_map_eq {κ : Type} {found other : Match κ} (index : found.index = other.index)
    (route : found.route = other.route)
    (same : found.parameters.map asciiLowercase = other.parameters.map asciiLowercase) :
    found.Alike other := by
  refine ⟨index, route, ?_, fun key => ?_⟩
  · rw [← Dict.keys_map found.parameters, same, Dict.keys_map]
  · have values := congrArg (fun d => Dict.get? d key) same
    simp only [Dict.get?_map] at values
    cases own : found.parameters.get? key with
    | none =>
      rw [own, Option.map_none, eq_comm, Option.map_eq_none_iff] at values
      rw [values]
      exact .none
    | some value =>
      rw [own, Option.map_some, eq_comm, Option.map_eq_some_iff] at values
      obtain ⟨counterpart, held, lowered⟩ := values
      rw [held]
      exact .some lowered.symm

/-- A find has its parameters from a path as it is written: they are the pieces at the slots,
decoded one by one. -/
def Match.Captures {κ : Type} (found : Match κ) (path : String) : Prop :=
  ∀ key value, found.parameters.get? key = some value ↔
    ∃ (place : Nat) (name : String) (piece : List Char),
      found.route.template.segments[place]? = some (.slot name) ∧
      (Path.pieces path)[place]? = some piece ∧
      key = Text.lowercase name ∧ value = String.ofList (Text.Percent.decodeChars piece)

namespace Table

variable {κ : Type}

/-- The route that a request goes to has its parameters from the path. -/
theorem captures_of_match? {table : Table κ} {method path : String} {found : Match κ}
    (matched : table.match? method path = some found) : found.Captures path := by
  obtain ⟨-, fit, -⟩ := match?_eq_some_iff.1 matched
  obtain ⟨fits, captured⟩ := Template.capture?_eq_some_iff.1 (Route.fit?_eq_some_iff.1 fit).2
  intro key value
  rw [captured, Dict.get?_ofList_eq_some_iff fits.nodup_keys_entries, Template.mem_entries_iff]
  unfold Path.texts
  rw [Path.segmentChars_normalize]
  simp only [List.getElem?_map, Option.map_eq_some_iff]
  constructor
  · rintro ⟨place, segment, _, there, ⟨piece, written, rfl⟩, made⟩
    obtain ⟨name, rfl, entry⟩ := Segment.binding?_eq_some_iff.1 made
    exact ⟨place, name, piece, there, written, Prod.mk.inj entry⟩
  · rintro ⟨place, name, piece, there, written, rfl, rfl⟩
    exact ⟨place, .slot name, _, there, ⟨piece, written, rfl⟩, rfl⟩

/-- Requests that differ at most in the case of ASCII letters go to the same route or both nowhere,
with parameters that differ so too, each from its own path. -/
theorem match?_alike {table : Table κ} {method otherMethod path otherPath : String}
    (methods : Recased method otherMethod) (paths : Recased path otherPath) :
    Option.Rel (fun found other => found.Alike other ∧ found.Captures path ∧
        other.Captures otherPath)
      (table.match? method path) (table.match? otherMethod otherPath) := by
  have back : ∀ {route : Route κ}, route.Fits otherMethod otherPath → route.Fits method path :=
    fun fits => fits.of_recased methods.symm paths.symm
  cases first : table.match? method path with
  | none =>
    have nothing : table.match? otherMethod otherPath = none :=
      match?_eq_none_iff.2 fun route mem fits => match?_eq_none_iff.1 first route mem (back fits)
    rw [nothing]
    exact .none
  | some found =>
    obtain ⟨there, fits, before⟩ := exists_match?_eq_iff.1 ⟨found.parameters, first⟩
    obtain ⟨parameters, second⟩ := exists_match?_eq_iff.2 ⟨there, fits.of_recased methods paths,
      fun i below earlier at_i fits => before i below earlier at_i (back fits)⟩
    have captured := Route.fit?_eq_some_iff.1 (match?_eq_some_iff.1 first).2.1
    have otherCaptured := Route.fit?_eq_some_iff.1 (match?_eq_some_iff.1 second).2.1
    have same := Template.captured_recased paths captured.2 otherCaptured.2
    rw [second]
    exact .some ⟨Match.alike_of_map_eq rfl rfl same, captures_of_match? first,
      captures_of_match? second⟩

/-- The case of ASCII letters does not count in finding a route. Two requests whose methods and
paths differ at most in it, in the digits of escapes too, go to one route or both nowhere, with
parameters of the same names, whose values are as each request has written them. And two templates
that differ at most in it both compile or neither does, and capture the same of every path. -/
theorem match?_recased :
    (∀ {κ : Type} (table : Table κ) (method otherMethod path otherPath : String),
      Recased method otherMethod → Recased path otherPath →
      Option.Rel (fun found other =>
          found.Alike other ∧ found.Captures path ∧ other.Captures otherPath)
        (table.match? method path) (table.match? otherMethod otherPath)) ∧
    ∀ raw otherRaw, Recased raw otherRaw →
      ((∃ template, Template.compile raw = .ok template) ↔
        ∃ other, Template.compile otherRaw = .ok other) ∧
      ∀ template other, Template.compile raw = .ok template →
        Template.compile otherRaw = .ok other →
        ∀ path, template.capture? path = other.capture? path := by
  constructor
  · intro κ table method otherMethod path otherPath methods paths
    exact match?_alike methods paths
  · intro raw otherRaw recased
    refine ⟨⟨Template.exists_compile_of_recased recased,
      Template.exists_compile_of_recased recased.symm⟩, ?_⟩
    intro template other compiled otherCompiled path
    apply Template.capture?_eq_of_recased
    rwa [Template.compile_eq_ok_iff.1 compiled, Template.compile_eq_ok_iff.1 otherCompiled]

/-- A capital sigma at the end of a literal, after a letter in either case, and an escape with
digits in either case. -/
theorem match?_recased_sigma : ∃ (route : Route Unit) (other : Template)
      (found alike : Match Unit),
    Template.compile "/aΣ/\x7bId\x7d" = .ok route.template ∧
    Template.compile "/AΣ/\x7biD\x7d" = .ok other ∧
    (∀ path, route.template.capture? path = other.capture? path) ∧
    (⟨[route]⟩ : Table Unit).match? "Get" "/AΣ/%c3%A9X" = some found ∧
    (⟨[route]⟩ : Table Unit).match? "gET" "/aΣ/%C3%a9x" = some alike ∧
    found.Alike alike ∧ found.parameters.get? "id" = some "éX" ∧
    alike.parameters.get? "id" = some "éx" := by
  -- the two templates with the segments that they are compiled to
  let template : Template := ⟨"/aΣ/\x7bId\x7d", [.literal "aς", .slot "Id"],
    by decide +kernel, by decide +kernel⟩
  let other : Template := ⟨"/AΣ/\x7biD\x7d", [.literal "aς", .slot "iD"],
    by decide +kernel, by decide +kernel⟩
  let route : Route Unit := ⟨"GET", template, fun _ => .ok (), .ok, .authenticated, none, []⟩
  have compiled : Template.compile "/aΣ/\x7bId\x7d" = .ok template :=
    Template.compile_eq_ok_iff.2 rfl
  have otherCompiled : Template.compile "/AΣ/\x7biD\x7d" = .ok other :=
    Template.compile_eq_ok_iff.2 rfl
  have captures := (match?_recased.2 "/aΣ/\x7bId\x7d" "/AΣ/\x7biD\x7d" (by decide +kernel)).2
    template other compiled otherCompiled
  have finds := match?_recased.1 ⟨[route]⟩ "Get" "gET" "/AΣ/%c3%A9X" "/aΣ/%C3%a9x"
    (by decide +kernel) (by decide +kernel)
  have first : ((⟨[route]⟩ : Table Unit).match? "Get" "/AΣ/%c3%A9X").map
      (·.parameters.get? "id") = some (some "éX") := by
    decide +kernel
  have second : ((⟨[route]⟩ : Table Unit).match? "gET" "/aΣ/%C3%a9x").map
      (·.parameters.get? "id") = some (some "éx") := by
    decide +kernel
  obtain ⟨found, matched, value⟩ := Option.map_eq_some_iff.1 first
  obtain ⟨alike, otherMatched, otherValue⟩ := Option.map_eq_some_iff.1 second
  rw [matched, otherMatched] at finds
  cases finds with
  | some held =>
    exact ⟨route, other, found, alike, compiled, otherCompiled, captures, matched, otherMatched,
      held.1, value, otherValue⟩

end Table

end HttpGateway
