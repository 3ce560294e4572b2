import HttpGateway.Proofs.Dict
import HttpGateway.Routing.Table
import Mathlib.Data.List.Forall2

/-!
# What a template captures and which route is found

A path is seen as the list of its texts, the percent-decoded pieces between its slashes
(`Path.texts`). A template captures a path exactly when it fits its texts one by one
(`Template.Fits`), and what it captures are the texts at its slots. The route found for a
request is the one of least index that fits (`Table.match?_eq_some_iff`).
-/

namespace HttpGateway

/-! ## Texts and segments -/

/-- The texts of a path: what the pieces between its slashes stand for. -/
def Path.texts (path : String) : List (List Char) :=
  (segmentChars path.toList).map Text.Percent.decodeChars

namespace Segment

/-- A segment takes a text: a literal takes those with its own text as their lower case, a slot
all but the empty one. -/
def Takes : Segment → List Char → Prop
  | literal lower, text => String.ofList (Text.lowercaseChars text) = lower
  | slot _, text => text ≠ []

/-- The binding that a segment makes of the text that it takes. -/
def binding? : Segment → List Char → Option (String × String)
  | literal _, _ => none
  | slot name, text => some (Text.lowercase name, String.ofList text)

/-- The binding that is made is that of a slot. -/
theorem binding?_eq_some_iff {segment : Segment} {text : List Char} {entry : String × String} :
    segment.binding? text = some entry ↔
      ∃ name, segment = slot name ∧ entry = (Text.lowercase name, String.ofList text) := by
  cases segment with
  | literal lower => simp [binding?]
  | slot name => simp [binding?, eq_comm]

end Segment

namespace Template

/-- A template fits a list of texts: there are as many of them as segments, and each segment takes
the text at its place. -/
def Fits (template : Template) (texts : List (List Char)) : Prop :=
  List.Forall₂ Segment.Takes template.segments texts

/-- The entries that segments make of texts. -/
def entries (segments : List Segment) (texts : List (List Char)) : List (String × String) :=
  (segments.zip texts).filterMap fun place => place.1.binding? place.2

/-- The entries that segments make of texts are the bindings at each place. -/
theorem mem_entries_iff {segments : List Segment} {texts : List (List Char)}
    {entry : String × String} : entry ∈ entries segments texts ↔
      ∃ (place : Nat) (segment : Segment) (text : List Char), segments[place]? = some segment ∧
        texts[place]? = some text ∧ segment.binding? text = some entry := by
  unfold entries
  rw [List.mem_filterMap]
  constructor
  · rintro ⟨⟨segment, text⟩, mem, made⟩
    obtain ⟨place, there⟩ := List.mem_iff_getElem?.1 mem
    obtain ⟨segment_there, text_there⟩ := List.getElem?_zip_eq_some.1 there
    exact ⟨place, segment, text, segment_there, text_there, made⟩
  · rintro ⟨place, segment, text, segment_there, text_there, made⟩
    have there : (segments.zip texts)[place]? = some (segment, text) :=
      List.getElem?_zip_eq_some.2 ⟨segment_there, text_there⟩
    exact ⟨(segment, text), List.mem_iff_getElem?.2 ⟨place, there⟩, made⟩

/-- What a template captures has the keys of its slots, in their order. -/
theorem Fits.map_fst_entries {template : Template} {texts : List (List Char)}
    (fits : template.Fits texts) :
    (entries template.segments texts).map Prod.fst = template.segments.filterMap Segment.key? := by
  have key : ∀ place : Segment × List Char,
      (place.1.binding? place.2).map Prod.fst = place.1.key? := by
    rintro ⟨_ | _, _⟩ <;> rfl
  have segments : (template.segments.zip texts).map Prod.fst = template.segments :=
    List.map_fst_zip (Nat.le_of_eq fits.length_eq)
  unfold entries
  rw [List.map_filterMap, ← segments, List.filterMap_map, segments]
  simp only [key, Function.comp_def]

/-- What a template captures has one entry for each key. -/
theorem Fits.nodup_keys_entries {template : Template} {texts : List (List Char)}
    (fits : template.Fits texts) : ((entries template.segments texts).map Prod.fst).Nodup := by
  rw [fits.map_fst_entries]
  exact template.distinct

/-- A segment captures a piece that it takes when decoded, with the binding that it makes of it. -/
theorem takePiece?_eq_some_iff {segment : Segment} {piece : List Char}
    {captured : List (String × String)} :
    takePiece? segment piece = some captured ↔
      segment.Takes (Text.Percent.decodeChars piece) ∧
        captured = (segment.binding? (Text.Percent.decodeChars piece)).toList := by
  cases segment with
  | literal lower =>
    simp only [takePiece?, Segment.Takes, Segment.binding?, Option.toList_none,
      Option.ite_none_right_eq_some, Option.some.injEq]
    exact and_congr eq_comm eq_comm
  | slot name =>
    simp only [takePiece?, Segment.Takes, Segment.binding?, Option.toList_some,
      Option.ite_none_left_eq_some, Option.some.injEq, List.isEmpty_iff]
    exact and_congr Iff.rfl eq_comm

/-- Segments capture the pieces that they take when decoded, one by one, with the bindings that
they make of them. -/
theorem takePieces?_eq_some_iff {segments : List Segment} {pieces : List (List Char)}
    {captured : List (String × String)} :
    takePieces? segments pieces = some captured ↔
      List.Forall₂ Segment.Takes segments (pieces.map Text.Percent.decodeChars) ∧
        captured = entries segments (pieces.map Text.Percent.decodeChars) := by
  induction segments generalizing pieces captured with
  | nil =>
    cases pieces with
    | nil => simp [takePieces?, entries, eq_comm]
    | cons piece rest => simp [takePieces?]
  | cons segment segments ih =>
    cases pieces with
    | nil => simp [takePieces?]
    | cons piece pieces =>
      simp only [takePieces?, Option.bind_eq_bind, Option.bind_eq_some_iff, takePiece?_eq_some_iff,
        ih, List.map_cons, List.forall₂_cons, Option.some.injEq]
      constructor
      · rintro ⟨_, ⟨takes, rfl⟩, _, ⟨fits, rfl⟩, rfl⟩
        refine ⟨⟨takes, fits⟩, ?_⟩
        cases made : segment.binding? (Text.Percent.decodeChars piece) <;>
          simp [entries, made]
      · rintro ⟨⟨takes, fits⟩, rfl⟩
        refine ⟨_, ⟨takes, rfl⟩, _, ⟨fits, rfl⟩, ?_⟩
        cases made : segment.binding? (Text.Percent.decodeChars piece) <;>
          simp [entries, made]

/-- A template captures the paths whose texts it fits. -/
theorem capture?_eq_some_iff {template : Template} {path : String} {captured : Dict String} :
    template.capture? path = some captured ↔
      template.Fits (Path.texts path) ∧
        captured = Dict.ofList (entries template.segments (Path.texts path)) := by
  simp only [capture?, Option.map_eq_some_iff, takePieces?_eq_some_iff, Fits, Path.texts]
  constructor
  · rintro ⟨_, ⟨fits, rfl⟩, rfl⟩
    exact ⟨fits, rfl⟩
  · rintro ⟨fits, rfl⟩
    exact ⟨_, ⟨fits, rfl⟩, rfl⟩

/-- A template captures nothing of the paths whose texts it does not fit. -/
theorem capture?_eq_none_iff {template : Template} {path : String} :
    template.capture? path = none ↔ ¬ template.Fits (Path.texts path) := by
  rw [Option.eq_none_iff_forall_ne_some]
  constructor
  · exact fun nothing fits => nothing _ (capture?_eq_some_iff.2 ⟨fits, rfl⟩)
  · exact fun misfit captured found => misfit (capture?_eq_some_iff.1 found).1

end Template

/-! ## Routes and tables -/

/-- A route fits a request with its method whose path it captures. -/
theorem Route.fit?_eq_some_iff {κ : Type} {route : Route κ} {method path : String}
    {captured : Dict String} :
    route.fit? method path = some captured ↔
      route.method = method ∧ route.template.capture? path = some captured := by
  unfold fit?
  split
  · next same => simp [same]
  · next differ => simp [differ]

/-- A route does not fit a request if its template does not fit the texts of the path, or if its
method is another. -/
theorem Route.fit?_eq_none_iff {κ : Type} {route : Route κ} {method path : String} :
    route.fit? method path = none ↔
      (route.method = method → ¬ route.template.Fits (Path.texts path)) := by
  unfold fit?
  split
  · next same => simp [same, Template.capture?_eq_none_iff]
  · next differ => simp [differ]

namespace Table

variable {κ : Type}

/-- The first route of a list is found if it fits. -/
theorem firstFit?_cons_of_some {method path : String} {index : Nat} {route : Route κ}
    {captured : Dict String} (fits : route.fit? method path = some captured)
    (rest : List (Route κ)) :
    firstFit? method path index (route :: rest) = some ⟨index, route, captured⟩ := by
  simp only [firstFit?, fits]

/-- The first route of a list is passed over if it does not fit. -/
theorem firstFit?_cons_of_none {method path : String} {index : Nat} {route : Route κ}
    (misfit : route.fit? method path = none) (rest : List (Route κ)) :
    firstFit? method path index (route :: rest) = firstFit? method path (index + 1) rest := by
  simp only [firstFit?, misfit]

/-- A route that is found fits, has the number of its place, and has no fitting route before it. -/
theorem place_of_firstFit? {method path : String} {index : Nat} {routes : List (Route κ)}
    {found : Match κ} (first : firstFit? method path index routes = some found) :
    ∃ place, found.index = index + place ∧ routes[place]? = some found.route ∧
      found.route.fit? method path = some found.parameters ∧
      ∀ i < place, ∀ earlier, routes[i]? = some earlier → earlier.fit? method path = none := by
  induction routes generalizing index with
  | nil => simp [firstFit?] at first
  | cons route rest ih =>
    cases fit : route.fit? method path with
    | some captured =>
      rw [firstFit?_cons_of_some fit] at first
      obtain rfl := Option.some.inj first
      exact ⟨0, rfl, rfl, fit, fun i below => absurd below (Nat.not_lt_zero i)⟩
    | none =>
      rw [firstFit?_cons_of_none fit] at first
      obtain ⟨place, number, there, fits, before⟩ := ih first
      refine ⟨place + 1, by omega, there, fits, ?_⟩
      intro i below earlier at_i
      cases i with
      | zero =>
        obtain rfl := Option.some.inj at_i
        exact fit
      | succ i => exact before i (by omega) earlier at_i

/-- A route that fits is found if no route before it does. -/
theorem firstFit?_of_place {method path : String} {index place : Nat} {routes : List (Route κ)}
    {route : Route κ} {captured : Dict String} (there : routes[place]? = some route)
    (fits : route.fit? method path = some captured)
    (before : ∀ i < place, ∀ earlier, routes[i]? = some earlier →
      earlier.fit? method path = none) :
    firstFit? method path index routes = some ⟨index + place, route, captured⟩ := by
  induction routes generalizing index place with
  | nil => simp at there
  | cons head rest ih =>
    cases place with
    | zero =>
      obtain rfl := Option.some.inj there
      exact firstFit?_cons_of_some fits rest
    | succ place =>
      have misfit := before 0 (Nat.succ_pos place) head rfl
      have later : firstFit? method path (index + 1) rest = _ :=
        ih there fun i below earlier at_i => before (i + 1) (by omega) earlier at_i
      rw [firstFit?_cons_of_none misfit, later, Nat.add_right_comm, Nat.add_assoc]

/-- A request goes to the route of least index that fits its method and its path in normal form. -/
theorem match?_eq_some_iff {table : Table κ} {method path : String} {found : Match κ} :
    table.match? method path = some found ↔
      table.routes[found.index]? = some found.route ∧
        found.route.fit? (normalizeMethod method) (Path.normalize path) = some found.parameters ∧
        ∀ i < found.index, ∀ earlier, table.routes[i]? = some earlier →
          earlier.fit? (normalizeMethod method) (Path.normalize path) = none := by
  unfold match?
  constructor
  · intro first
    obtain ⟨place, number, there, fits, before⟩ := place_of_firstFit? first
    obtain rfl : found.index = place := by omega
    exact ⟨there, fits, before⟩
  · rintro ⟨there, fits, before⟩
    rw [firstFit?_of_place there fits before, Nat.zero_add]

/-- A route that a request goes to is one of the table. -/
theorem mem_routes_of_match? {table : Table κ} {method path : String} {found : Match κ}
    (matched : table.match? method path = some found) : found.route ∈ table.routes :=
  List.mem_of_getElem? (match?_eq_some_iff.1 matched).1

end Table

end HttpGateway
