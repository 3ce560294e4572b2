import HttpGateway.Proofs.Routing.Registration
import HttpGateway.Proofs.Routing.Reverse
import HttpGateway.Proofs.Routing.Selection

/-!
# Slashes around a path

The normal form of a path has one slash in front, whatever the path begins with, and has lost one
slash at the end. Take a path without white space in front that ends with neither a slash nor white
space. Its spellings have any number of slashes more in front and at most one at the end, and they
all have its normal form (`Path.Spelling.normalize_eq`). Nothing but the normal form of a path and
of a template counts in finding a route, so a request goes where it goes in every spelling of its
path, and a registration comes out alike in every spelling of its template
(`Table.match?_spelling`).
-/

namespace HttpGateway

namespace Path

/-- A path has no white space in front and ends with neither a slash nor white space. -/
structure Bare (path : String) : Prop where
  /-- The first character is no white space. -/
  head : ∀ c ∈ path.toList.head?, Text.isBlank c = false
  /-- The last character is neither a slash nor white space. -/
  last : ∀ c ∈ path.toList.getLast?, c ≠ '/' ∧ Text.isBlank c = false

/-- As many slashes as given. -/
def slashes (number : Nat) : String := String.ofList (List.replicate number '/')

/-- The spellings of a path: with slashes in front, and with or without one at the end. -/
inductive Spelling (path : String) : String → Prop
  /-- There are slashes in front. -/
  | opened (number : Nat) : Spelling path (slashes number ++ path)
  /-- There are slashes in front, and one at the end. -/
  | closed (number : Nat) : Spelling path (slashes number ++ path ++ "/")

/-- A spelling has slashes in front and at most one slash at the end. -/
theorem Spelling.exists_toList_eq {path other : String} (spelled : Spelling path other) :
    ∃ number closing, (closing = [] ∨ closing = ['/']) ∧
      other.toList = List.replicate number '/' ++ path.toList ++ closing := by
  cases spelled with
  | opened number => exact ⟨number, [], .inl rfl, by simp [slashes]⟩
  | closed number => exact ⟨number, ['/'], .inr rfl, by simp [slashes]⟩

/-- Slashes alone have no body. -/
theorem body_replicate (number : Nat) : body (List.replicate number '/') = [] := by
  have kept : ∀ c ∈ List.replicate number '/', Text.isBlank c = false := by
    intro c mem
    rw [List.eq_of_mem_replicate mem]
    decide
  have gone : (List.replicate number '/').dropWhile (· == '/') = [] :=
    List.dropWhile_eq_nil_iff.2 fun c mem => by simp [List.eq_of_mem_replicate mem]
  rw [body, Text.strip_of_forall kept, gone]
  rfl

/-- Slashes before a list without white space in front are removed with those that it begins
with. -/
theorem dropWhile_replicate_append {front : List Char}
    (head : ∀ c ∈ front.head?, Text.isBlank c = false) (number : Nat) :
    ((List.replicate number '/' ++ front).dropWhile Text.isBlank).dropWhile (· == '/') =
      front.dropWhile (· == '/') := by
  have start : ∀ c ∈ (List.replicate number '/' ++ front).head?, Text.isBlank c = false := by
    cases number with
    | zero => exact head
    | succ number => exact fun c mem => Option.some.inj mem ▸ by decide
  have stays := Text.dropWhile_append_of_head start []
  rw [List.nil_append, List.dropWhile_nil, List.nil_append] at stays
  rw [stays]
  clear stays start
  induction number with
  | zero => rfl
  | succ number ih => rw [List.replicate_succ, List.cons_append, List.dropWhile_cons_of_pos rfl, ih]

/-- The body of a bare path is that of all its spellings. -/
theorem Spelling.body_eq {path other : String} (bare : Bare path) (spelled : Spelling path other) :
    body other.toList = body path.toList := by
  obtain ⟨number, closing, ends, chars⟩ := spelled.exists_toList_eq
  rw [chars]
  rcases List.eq_nil_or_concat' path.toList with empty | ⟨front, c, whole⟩
  · have all : List.replicate number '/' ++ [] ++ closing =
        List.replicate (number + closing.length) '/' := by
      rcases ends with rfl | rfl <;> simp [List.replicate_succ']
    rw [empty, all, body_replicate]
    rfl
  · obtain ⟨noSlash, noBlank⟩ := bare.last c (by simp [whole])
    have head : ∀ d ∈ front.head?, Text.isBlank d = false := by
      intro d mem
      refine bare.head d ?_
      rw [whole, List.head?_append, Option.mem_def.1 mem]
      rfl
    -- The last character stops the removal from both sides, and a slash after it is removed.
    have around : ∀ number closing, closing = [] ∨ closing = ['/'] →
        body (List.replicate number '/' ++ (front ++ [c]) ++ closing) =
          front.dropWhile (· == '/') ++ [c] := by
      intro number closing ends
      have lost : dropLastSlash (Text.dropTailWhile Text.isBlank closing) = [] := by
        rcases ends with rfl | rfl <;> decide
      rw [← List.append_assoc, body_append_append (List.cons_ne_nil c [])
        (by simpa using noSlash) (by simpa using noBlank), dropWhile_replicate_append head, lost,
        List.append_nil]
    have own := around 0 [] (.inl rfl)
    rw [List.replicate_zero, List.nil_append, List.append_nil] at own
    rw [whole, around number closing ends, own]

/-- The normal form of a bare path is that of all its spellings. -/
theorem Spelling.normalize_eq {path other : String} (bare : Bare path)
    (spelled : Spelling path other) : normalize other = normalize path := by
  rw [normalize, normalizeChars, spelled.body_eq bare]
  rfl

/-- The normal form of a text has one slash in front. -/
theorem exists_normalize_eq (text : String) :
    ∃ rest, normalize text = "/" ++ rest ∧ ∀ more, rest ≠ "/" ++ more := by
  refine ⟨String.ofList (body text.toList), ?_, fun more slash => ?_⟩
  · rw [← String.toList_inj, toList_normalize]
    simp
  · have chars := congrArg String.toList slash
    rw [String.toList_ofList, String.toList_append] at chars
    exact head?_body text.toList (by rw [chars]; rfl)

/-- The first segment of a normal form is not empty. -/
theorem exists_segments_normalize {text : String} (some : normalize text ≠ "/") :
    ∃ first others, segments (normalize text) = first :: others ∧ first ≠ "" := by
  have start := head?_segmentChars text.toList
  have written : (normalize text).toList = normalizeChars text.toList := String.toList_ofList
  unfold segments
  rw [written]
  cases pieces : segmentChars (normalizeChars text.toList) with
  | nil =>
    have root := normalize_eq_root_iff.not.1 some
    unfold normalizeChars at pieces
    cases whole : body text.toList with
    | nil => exact absurd whole root
    | cons c rest =>
      rw [whole] at pieces
      exact absurd pieces (List.splitOn_ne_nil '/' (c :: rest))
  | cons first others =>
    refine ⟨_, _, rfl, fun empty => start ?_⟩
    rw [pieces, List.head?_cons, String.ofList_eq_empty_iff.1 empty]

end Path

/-! ## Templates in other spellings -/

/-- What two registrations come to is alike: both are refused for a slot of the same name, or the
routes differ in their templates alone, which capture the same of every path. -/
inductive Registration.Alike {κ : Type} :
    Except DuplicateParameter (Route κ) → Except DuplicateParameter (Route κ) → Prop
  /-- Both are refused. -/
  | refused {fault other : DuplicateParameter} (same : fault.name = other.name) :
    Alike (.error fault) (.error other)
  /-- Both are routes. -/
  | made {route : Route κ} {template : Template}
    (captures : ∀ path, route.template.capture? path = template.capture? path) :
    Alike (.ok route) (.ok { route with template })

/-- Configuring a route does not look at its template. -/
theorem Route.configure_withTemplate {κ : Type} (route : Route κ) (template : Template)
    (steps : List Step) :
    ({ route with template } : Route κ).configure steps =
      { route.configure steps with template } := by
  induction steps generalizing route with
  | nil => rfl
  | cons step rest ih =>
    have once : ({ route with template } : Route κ).apply step =
        { route.apply step with template } := by
      cases step <;> rfl
    change (({ route with template } : Route κ).apply step).configure rest = _
    rw [once, ih]
    rfl

/-- Templates with the same normal form come to routes that are alike. -/
theorem Registration.alike_of_normalize_eq {κ : Type} (r : Registration κ) {first second : String}
    (same : Path.normalize first = Path.normalize second) :
    Alike ({ r with path := first } : Registration κ).route?
      ({ r with path := second } : Registration κ).route? := by
  have written : Path.normalizeChars first.toList = Path.normalizeChars second.toList :=
    String.ofList_injective same
  cases compiled : Template.compile first with
  | error fault =>
    obtain ⟨-, repeated⟩ := Template.compile_eq_error_iff.1 compiled
    rw [written] at repeated
    have refused : Template.compile second = .error ⟨second, fault.name⟩ :=
      Template.compile_eq_error_iff.2 ⟨rfl, repeated⟩
    simp only [route?, plainRoute?, compiled, refused, Except.map]
    exact .refused rfl
  | ok template =>
    have distinct := Template.exists_compile_iff.1 ⟨template, compiled⟩
    rw [written] at distinct
    obtain ⟨other, otherCompiled⟩ := Template.exists_compile_iff.2 distinct
    have segments : template.segments = other.segments := by
      rw [template.compiled, other.compiled, Template.compile_eq_ok_iff.1 compiled,
        Template.compile_eq_ok_iff.1 otherCompiled, written]
    let plain : Route κ :=
      ⟨normalizeMethod r.method, template, r.build, r.shape, .authenticated, none, []⟩
    simp only [route?, plainRoute?, compiled, otherCompiled, Except.map]
    change Alike (.ok (plain.configure r.steps))
      (.ok (({ plain with template := other } : Route κ).configure r.steps))
    rw [Route.configure_withTemplate]
    refine .made fun path => ?_
    rw [(plain.configure_method_template r.steps).2]
    unfold Template.capture?
    rw [segments]

namespace Table

/-- A request goes nowhere else for another path with the same normal form. -/
theorem match?_of_normalize_eq {κ : Type} (table : Table κ) (method : String)
    {first second : String} (same : Path.normalize first = Path.normalize second) :
    table.match? method first = table.match? method second := by
  unfold match?
  rw [same]

/-- Slashes around a path do not count. Take a path without white space in front that ends with
neither a slash nor white space, and any two of its spellings: it may have any number of slashes in
front, and one at the end. A request with any method goes to the same route of a table in both, with
the same parameters, or nowhere in both. And a registration with the one in place of the other as
its template is refused for the same slot, or it gives a route that captures the same of every path
and is the same in all other parts. The normal form of any text has exactly one slash in front, and
its first segment is not empty unless it is the root. -/
theorem match?_spelling :
    (∀ path, Path.Bare path → ∀ first second, Path.Spelling path first →
      Path.Spelling path second →
      (∀ {κ : Type} (table : Table κ) (method : String),
        table.match? method first = table.match? method second) ∧
      ∀ {κ : Type} (r : Registration κ), Registration.Alike
        ({ r with path := first } : Registration κ).route?
        ({ r with path := second } : Registration κ).route?) ∧
    ∀ text, (∃ rest, Path.normalize text = "/" ++ rest ∧ ∀ more, rest ≠ "/" ++ more) ∧
      (Path.normalize text ≠ "/" →
        ∃ segment others, Path.segments (Path.normalize text) = segment :: others ∧
          segment ≠ "") := by
  constructor
  · intro path bare first second spelled spelledToo
    have same : Path.normalize first = Path.normalize second :=
      (spelled.normalize_eq bare).trans (spelledToo.normalize_eq bare).symm
    exact ⟨fun table method => table.match?_of_normalize_eq method same,
      fun r => r.alike_of_normalize_eq same⟩
  · exact fun text => ⟨Path.exists_normalize_eq text, Path.exists_segments_normalize⟩

/-- Slashes in front of a blank that does not stand at an end, and one slash at the end. -/
theorem match?_spelling_blank : Path.Bare "/ x//y" ∧
    Path.Spelling "/ x//y" "//// x//y/" ∧ Path.normalize "//// x//y/" = "/ x//y" ∧
    ((∀ {κ : Type} (table : Table κ) (method : String),
        table.match? method "//// x//y/" = table.match? method "/ x//y") ∧
      ∀ {κ : Type} (r : Registration κ), Registration.Alike
        ({ r with path := "//// x//y/" } : Registration κ).route?
        ({ r with path := "/ x//y" } : Registration κ).route?) ∧
    ∃ segment others,
      Path.segments (Path.normalize "//// x//y/") = segment :: others ∧ segment ≠ "" := by
  have bare : Path.Bare "/ x//y" := by
    have chars : "/ x//y".toList = ['/', ' ', 'x', '/', '/', 'y'] := by decide +kernel
    constructor <;> rw [chars]
    · rintro c ⟨⟩
      decide
    · rintro c ⟨⟩
      decide
  have spelled : Path.Spelling "/ x//y" "//// x//y/" := .closed 3
  have own : Path.Spelling "/ x//y" "/ x//y" := .opened 0
  exact ⟨bare, spelled, by decide +kernel, match?_spelling.1 _ bare _ _ spelled own,
    (match?_spelling.2 _).2 (by decide +kernel)⟩

end Table

end HttpGateway
