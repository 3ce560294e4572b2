import HttpGateway.Proofs.Routing.Capture
import HttpGateway.Proofs.Text.Split
import HttpGateway.Proofs.Text.Strip

/-!
# Which route a request goes to

A route fits a request by what the request says as it is written (`Route.Fits`): the method up to
letter case and white space at its ends, and the pieces of the path, each decoded by itself. There
are as many pieces as literal slashes in the normal form of the path (`Path.length_pieces`), so an
encoded slash counts as any other character does (`Path.length_pieces_eq_of_unslashed`). The route
found is the first of the table that fits, whatever routes come after it
(`Table.match?_first_fit`).
-/

namespace HttpGateway

/-! ## The pieces of a path -/

namespace Path

/-- The pieces of a path: what stands between the slashes of its normal form. The root has none. -/
def pieces (path : String) : List (List Char) :=
  if normalize path = "/" then [] else (normalize path).toList.tail.splitOn '/'

/-- The characters of the normal form of a path are a slash and the body. -/
theorem toList_normalize (path : String) : (normalize path).toList = '/' :: body path.toList := by
  rw [normalize, String.toList_ofList, normalizeChars]

/-- The root is the path without a body. -/
theorem normalize_eq_root_iff {path : String} : normalize path = "/" ↔ body path.toList = [] := by
  rw [← String.toList_inj, toList_normalize]
  exact List.cons_inj_right '/'

/-- The pieces of a path are the segments of its normal form. -/
theorem segmentChars_normalize (path : String) :
    segmentChars (normalize path).toList = pieces path := by
  unfold pieces
  by_cases root : normalize path = "/"
  · rw [if_pos root, root]
    rfl
  · rw [if_neg root, toList_normalize, List.tail_cons]
    obtain ⟨c, rest, some⟩ := List.exists_cons_of_ne_nil (mt normalize_eq_root_iff.2 root)
    rw [some]
    rfl

/-- The pieces of a path are the segments of its characters in normal form. -/
theorem segmentChars_normalizeChars (path : String) :
    segmentChars (normalizeChars path.toList) = pieces path := by
  rw [← segmentChars_normalize, normalize, String.toList_ofList]

/-- A path has as many pieces as its normal form has slashes, unless it is the root. -/
theorem length_pieces (path : String) :
    (pieces path).length =
      if normalize path = "/" then 0 else (normalize path).toList.count '/' := by
  unfold pieces
  by_cases root : normalize path = "/"
  · rw [if_pos root, if_pos root, List.length_nil]
  · rw [if_neg root, if_neg root, toList_normalize, List.tail_cons, Text.length_splitOn,
      List.count_cons_self]

example : pieces "//a%2Fb//" = ["a%2Fb".toList, []] := by decide +kernel

/-- The last slash of a list is that of its end, if what is before the end ends with no slash. -/
theorem dropLastSlash_append {front : List Char} (last : front.getLast? ≠ some '/')
    (back : List Char) : dropLastSlash (front ++ back) = front ++ dropLastSlash back := by
  unfold dropLastSlash
  by_cases none : back = []
  · rw [none, List.append_nil, if_neg last]
    simp
  · rw [List.getLast?_append_of_ne_nil _ none]
    by_cases slash : back.getLast? = some '/'
    · rw [if_pos slash, if_pos slash, List.dropLast_append_of_ne_nil none]
    · rw [if_neg slash, if_neg slash]

/-- A text has characters, and none of them is a slash or white space. -/
structure Unslashed (text : String) : Prop where
  /-- There is a character. -/
  ne_nil : text.toList ≠ []
  /-- No character is a slash. -/
  slash : ∀ c ∈ text.toList, c ≠ '/'
  /-- No character is white space. -/
  blank : ∀ c ∈ text.toList, Text.isBlank c = false

/-- Around a part without slashes and white space, the body of a path has what stands before the
part without white space and slashes in front, and what stands after it without white space and one
slash at the end. -/
theorem body_append_append {part : List Char} (some : part ≠ []) (slash : ∀ c ∈ part, c ≠ '/')
    (blank : ∀ c ∈ part, Text.isBlank c = false) (before after : List Char) :
    body (before ++ part ++ after) =
      (before.dropWhile Text.isBlank).dropWhile (· == '/') ++ part ++
        dropLastSlash (Text.dropTailWhile Text.isBlank after) := by
  have head : ∀ c ∈ part.head?, Text.isBlank c = false :=
    fun c mem => blank c (List.mem_of_mem_head? mem)
  have last : ∀ c ∈ part.getLast?, Text.isBlank c = false :=
    fun c mem => blank c (List.mem_of_mem_getLast? mem)
  have start : ∀ c ∈ (part ++ Text.dropTailWhile Text.isBlank after).head?, (c == '/') = false := by
    rw [List.head?_append_of_ne_nil _ some]
    exact fun c mem => beq_eq_false_iff_ne.2 (slash c (List.mem_of_mem_head? mem))
  have ending : ∀ front : List Char, (front ++ part).getLast? ≠ Option.some '/' := by
    intro front closed
    rw [List.getLast?_append_of_ne_nil _ some] at closed
    exact slash '/' (List.mem_of_getLast? closed) rfl
  rw [body, Text.strip_append_append some head last, List.append_assoc,
    Text.dropWhile_append_of_head start, ← List.append_assoc, dropLastSlash_append (ending _)]

/-- The body of a path has the same characters around a text without slashes and white space,
whatever the text is. -/
theorem exists_body_eq (before after : String) : ∃ front back, ∀ {text : String},
    Unslashed text → body (before ++ text ++ after).toList = front ++ text.toList ++ back := by
  refine ⟨(before.toList.dropWhile Text.isBlank).dropWhile (· == '/'),
    dropLastSlash (Text.dropTailWhile Text.isBlank after.toList), fun plain => ?_⟩
  rw [String.toList_append, String.toList_append,
    body_append_append plain.ne_nil plain.slash plain.blank]

/-- Every text without slashes and white space makes as many pieces in its place. -/
theorem length_pieces_eq_of_unslashed {text other : String} (plain : Unslashed text)
    (plainOther : Unslashed other) (before after : String) :
    (pieces (before ++ text ++ after)).length = (pieces (before ++ other ++ after)).length := by
  obtain ⟨front, back, around⟩ := exists_body_eq before after
  have number : ∀ {text : String}, Unslashed text →
      (pieces (before ++ text ++ after)).length = front.count '/' + back.count '/' + 1 := by
    intro text plain
    have some : normalize (before ++ text ++ after) ≠ "/" := by
      rw [ne_eq, normalize_eq_root_iff, around plain]
      simp [plain.ne_nil]
    have unslashed : text.toList.count '/' = 0 :=
      List.count_eq_zero.2 fun mem => plain.slash '/' mem rfl
    rw [length_pieces, if_neg some, toList_normalize, around plain, List.count_cons_self,
      List.count_append, List.count_append]
    omega
  rw [number plain, number plainOther]

end Path

/-! ## Routes that fit -/

/-- A route fits a request. -/
structure Route.Fits {κ : Type} (route : Route κ) (method path : String) : Prop where
  /-- It has the method of the request, without white space at the ends and in upper case. -/
  method : route.method = Text.uppercase (Text.trim method)
  /-- The path has as many pieces as the template has segments. -/
  number : (Path.pieces path).length = route.template.segments.length
  /-- Each piece, decoded by itself, is taken by the segment at its place. -/
  takes : ∀ place ∈ route.template.segments.zip (Path.pieces path),
    place.1.Takes (Text.Percent.decodeChars place.2)

/-- The segments of a template are those it is written as. -/
theorem Template.segments_eq_map_pieces (template : Template) :
    template.segments = (Path.pieces template.raw).map Segment.read := by
  rw [template.compiled, Path.segmentChars_normalizeChars]

/-- A template fits the texts of a path when each piece is taken, decoded by itself. -/
theorem Template.fits_texts_iff {template : Template} {path : String} :
    template.Fits (Path.texts (Path.normalize path)) ↔
      template.segments.length = (Path.pieces path).length ∧
        ∀ place ∈ template.segments.zip (Path.pieces path),
          place.1.Takes (Text.Percent.decodeChars place.2) := by
  unfold Fits Path.texts
  rw [Path.segmentChars_normalize, List.forall₂_map_right_iff, List.forall₂_iff_zip, Prod.forall]

/-- A route fits a request when it captures its path. -/
theorem Route.exists_fit?_iff {κ : Type} {route : Route κ} {method path : String} :
    (∃ parameters, route.fit? (normalizeMethod method) (Path.normalize path) = some parameters) ↔
      route.Fits method path := by
  constructor
  · rintro ⟨parameters, captured⟩
    obtain ⟨same, captured⟩ := fit?_eq_some_iff.1 captured
    obtain ⟨number, takes⟩ := Template.fits_texts_iff.1 (Template.capture?_eq_some_iff.1 captured).1
    exact ⟨same, number.symm, takes⟩
  · intro fits
    have template := Template.fits_texts_iff.2 ⟨fits.number.symm, fits.takes⟩
    have captured := Template.capture?_eq_some_iff.2 ⟨template, rfl⟩
    exact ⟨_, fit?_eq_some_iff.2 ⟨fits.method, captured⟩⟩

/-- A route does not fit a request when it does not capture its path. -/
theorem Route.fit?_eq_none_iff_not_fits {κ : Type} {route : Route κ} {method path : String} :
    route.fit? (normalizeMethod method) (Path.normalize path) = none ↔
      ¬ route.Fits method path := by
  rw [← exists_fit?_iff, not_exists, Option.eq_none_iff_forall_ne_some]

/-! ## The first that fits -/

namespace Table

variable {κ : Type}

/-- A request goes to a route when it is the first of the table that fits. -/
theorem exists_match?_eq_iff {table : Table κ} {method path : String} {index : Nat}
    {route : Route κ} :
    (∃ parameters, table.match? method path = some ⟨index, route, parameters⟩) ↔
      table.routes[index]? = some route ∧ route.Fits method path ∧
        ∀ i < index, ∀ earlier, table.routes[i]? = some earlier → ¬ earlier.Fits method path := by
  constructor
  · rintro ⟨parameters, matched⟩
    obtain ⟨there, fits, before⟩ := match?_eq_some_iff.1 matched
    refine ⟨there, Route.exists_fit?_iff.1 ⟨parameters, fits⟩, ?_⟩
    exact fun i below earlier at_i =>
      Route.fit?_eq_none_iff_not_fits.1 (before i below earlier at_i)
  · rintro ⟨there, fits, before⟩
    obtain ⟨parameters, captured⟩ := Route.exists_fit?_iff.2 fits
    refine ⟨parameters, match?_eq_some_iff.2 ⟨there, captured, ?_⟩⟩
    exact fun i below earlier at_i =>
      Route.fit?_eq_none_iff_not_fits.2 (before i below earlier at_i)

/-- A request goes nowhere when no route of the table fits. -/
theorem match?_eq_none_iff {table : Table κ} {method path : String} :
    table.match? method path = none ↔ ∀ route ∈ table.routes, ¬ route.Fits method path := by
  -- The number of the first route changes with each one passed over, so it is kept general.
  have passes : ∀ (index : Nat) (routes : List (Route κ)),
      firstFit? (normalizeMethod method) (Path.normalize path) index routes = none ↔
        ∀ route ∈ routes, ¬ route.Fits method path := by
    intro index routes
    induction routes generalizing index with
    | nil => simp [firstFit?]
    | cons route rest ih =>
      rw [List.forall_mem_cons, ← Route.fit?_eq_none_iff_not_fits]
      cases fit : route.fit? (normalizeMethod method) (Path.normalize path) with
      | none => rw [firstFit?_cons_of_none fit, ih, and_iff_right rfl]
      | some captured => simp [firstFit?_cons_of_some fit]
  exact passes 0 table.routes

/-- Routes after those of a table do not change where a request goes that goes somewhere. -/
theorem match?_append_of_some {table : Table κ} {method path : String} {found : Match κ}
    (matched : table.match? method path = some found) (more : List (Route κ)) :
    (⟨table.routes ++ more⟩ : Table κ).match? method path = some found := by
  obtain ⟨there, fits, before⟩ := match?_eq_some_iff.1 matched
  have inside : found.index < table.routes.length := (List.getElem?_eq_some_iff.1 there).1
  have same : ∀ i < table.routes.length, (table.routes ++ more)[i]? = table.routes[i]? :=
    fun i below => List.getElem?_append_left below
  refine match?_eq_some_iff.2 ⟨(same _ inside).trans there, fits, ?_⟩
  intro i below earlier at_i
  rw [same i (below.trans inside)] at at_i
  exact before i below earlier at_i

/-- A request goes to the first route of the table that fits it, and nowhere if none does. So the
path has as many pieces as the template of that route has segments, and further routes change
nothing. There are as many pieces as slashes in the normal form, and an encoded slash makes as many
as any character in its place does that is neither a slash nor white space. -/
theorem match?_first_fit (table : Table κ) (method path : String) :
    (table.match? method path = none ↔ ∀ route ∈ table.routes, ¬ route.Fits method path) ∧
    (∀ index route, (∃ parameters,
        table.match? method path = some ⟨index, route, parameters⟩) ↔
      table.routes[index]? = some route ∧ route.Fits method path ∧
        ∀ i < index, ∀ earlier, table.routes[i]? = some earlier → ¬ earlier.Fits method path) ∧
    (∀ found, table.match? method path = some found →
      (Path.pieces path).length = found.route.template.segments.length ∧
      ∀ more, (⟨table.routes ++ more⟩ : Table κ).match? method path = some found) ∧
    ((Path.pieces path).length =
      if Path.normalize path = "/" then 0 else (Path.normalize path).toList.count '/') ∧
    ∀ encoded ∈ ["%2F", "%2f"], ∀ (before after : String) (c : Char),
      c ≠ '/' → Text.isBlank c = false →
      (Path.pieces (before ++ encoded ++ after)).length =
        (Path.pieces (before ++ String.singleton c ++ after)).length := by
  refine ⟨match?_eq_none_iff, fun index route => exists_match?_eq_iff, ?_, Path.length_pieces path,
    ?_⟩
  · intro found matched
    have fits := (exists_match?_eq_iff.1 ⟨found.parameters, matched⟩).2.1
    exact ⟨fits.number, match?_append_of_some matched⟩
  · intro encoded mem before after c slash blank
    have plain : Path.Unslashed encoded := by
      have checked : ∀ encoded ∈ ["%2F", "%2f"], encoded.toList ≠ [] ∧
          encoded.toList.all (fun c => c != '/' && !Text.isBlank c) = true := by
        decide
      obtain ⟨some, all⟩ := checked encoded mem
      simp only [List.all_eq_true, Bool.and_eq_true, bne_iff_ne, Bool.not_eq_true'] at all
      exact ⟨some, fun c held => (all c held).1, fun c held => (all c held).2⟩
    have single : Path.Unslashed (String.singleton c) := by
      constructor <;> simp [slash, blank]
    exact Path.length_pieces_eq_of_unslashed plain single before after

/-- An encoded slash keeps a path in a template with one slot, a literal one puts it in a template
with two. -/
theorem match?_first_fit_escaped : ∃ one two : Route Unit,
    one.template.raw = "/docs/\x7bname\x7d" ∧ two.template.raw = "/docs/\x7bname\x7d/\x7bpart\x7d" ∧
      (∃ parameters, (⟨[one, two]⟩ : Table Unit).match? " get " "/Docs/a%2Fb/" =
        some ⟨0, one, parameters⟩) ∧
      (∃ parameters, (⟨[one, two]⟩ : Table Unit).match? " get " "/Docs/a/b/" =
        some ⟨1, two, parameters⟩) := by
  -- the two templates with the segments that they are compiled to
  let single : Template := ⟨"/docs/\x7bname\x7d", [.literal "docs", .slot "name"],
    by decide +kernel, by decide +kernel⟩
  let double : Template := ⟨"/docs/\x7bname\x7d/\x7bpart\x7d",
    [.literal "docs", .slot "name", .slot "part"], by decide +kernel, by decide +kernel⟩
  let one : Route Unit := ⟨"GET", single, fun _ => .ok (), .ok, .authenticated, none, []⟩
  let two : Route Unit := ⟨"GET", double, fun _ => .ok (), .ok, .authenticated, none, []⟩
  have method : "GET" = Text.uppercase (Text.trim " get ") := by decide +kernel
  have encoded : Path.pieces "/Docs/a%2Fb/" = ["Docs".toList, "a%2Fb".toList] := by decide +kernel
  have parted : Path.pieces "/Docs/a/b/" = ["Docs".toList, ['a'], ['b']] := by decide +kernel
  have literal : (Segment.literal "docs").Takes (Text.Percent.decodeChars "Docs".toList) := by
    unfold Segment.Takes
    decide +kernel
  have first : one.Fits " get " "/Docs/a%2Fb/" := by
    refine ⟨method, by rw [encoded]; rfl, ?_⟩
    rw [encoded]
    have slot : (Segment.slot "name").Takes (Text.Percent.decodeChars "a%2Fb".toList) := by
      unfold Segment.Takes
      decide +kernel
    exact List.forall_mem_cons.2 ⟨literal, List.forall_mem_singleton.2 slot⟩
  have second : two.Fits " get " "/Docs/a/b/" := by
    refine ⟨method, by rw [parted]; rfl, ?_⟩
    rw [parted]
    have slots : (Segment.slot "name").Takes (Text.Percent.decodeChars ['a']) ∧
        (Segment.slot "part").Takes (Text.Percent.decodeChars ['b']) := by
      unfold Segment.Takes
      decide +kernel
    exact List.forall_mem_cons.2 ⟨literal, List.forall_mem_cons.2
      ⟨slots.1, List.forall_mem_singleton.2 slots.2⟩⟩
  have misfit : ¬ one.Fits " get " "/Docs/a/b/" := by
    intro fits
    have number := fits.number
    rw [parted] at number
    exact absurd number (by decide)
  refine ⟨one, two, rfl, rfl, ((match?_first_fit _ _ _).2.1 0 one).2 ⟨rfl, first, ?_⟩,
    ((match?_first_fit _ _ _).2.1 1 two).2 ⟨rfl, second, ?_⟩⟩
  · exact fun i below => absurd below (Nat.not_lt_zero i)
  · intro i below earlier there
    obtain rfl : i = 0 := by omega
    obtain rfl := Option.some.inj there
    exact misfit

end Table

end HttpGateway
