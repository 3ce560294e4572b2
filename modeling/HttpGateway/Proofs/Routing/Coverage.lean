import HttpGateway.Proofs.Routing.Reverse

/-!
# Which routes can be found

A template subsumes another if it has as many segments and each of them covers the other's at its
place. It then fits whatever the other fits, so behind a route with the same method the other is
never found. Behind routes that do not subsume it a route is found: the path made from its template
with a fresh value in every slot, one that is no literal of the table, is fitted by none of them
(`Table.exists_match?_iff`).
-/

namespace HttpGateway

namespace Segment

/-- A segment covers another: a literal the same literal, and a slot every slot and every literal
but the empty one. -/
def Covers : Segment → Segment → Prop
  | literal lower, literal other => lower = other
  | literal _, slot _ => False
  | slot _, literal other => other ≠ ""
  | slot _, slot _ => True

instance : DecidableRel Covers
  | literal lower, literal other => inferInstanceAs (Decidable (lower = other))
  | literal _, slot _ => inferInstanceAs (Decidable False)
  | slot _, literal other => inferInstanceAs (Decidable (other ≠ ""))
  | slot _, slot _ => inferInstanceAs (Decidable True)

/-- A segment takes the texts that one takes which it covers. -/
theorem Covers.takes {segment other : Segment} {text : List Char} (covers : segment.Covers other)
    (takes : other.Takes text) : segment.Takes text := by
  cases segment with
  | literal lower =>
    cases other with
    | literal same =>
      obtain rfl : lower = same := covers
      exact takes
    | slot name => exact covers.elim
  | slot name =>
    cases other with
    | literal lower =>
      rintro rfl
      exact covers takes.symm
    | slot name => exact takes

/-- A segment that takes the text of another covers it, if the value for slots is no literal's
lower case. -/
theorem covers_of_takes_text {segment other : Segment} {fresh : String}
    (own : other.Filled (fun _ => fresh) (other.text fun _ => fresh))
    (unused : segment ≠ .literal (Text.lowercase fresh))
    (takes : segment.Takes (other.text fun _ => fresh)) : segment.Covers other := by
  cases segment with
  | literal lower =>
    cases other with
    | literal same =>
      have mine : String.ofList (Text.lowercaseChars same.toList) = lower := takes
      have its : String.ofList (Text.lowercaseChars same.toList) = same := own
      exact mine.symm.trans its
    | slot name =>
      have mine : Text.lowercase fresh = lower := takes
      exact unused (congrArg literal mine.symm)
  | slot name =>
    cases other with
    | literal lower =>
      rintro rfl
      exact takes rfl
    | slot name => exact trivial

/-- The number of characters of a literal. -/
def size : Segment → Nat
  | literal lower => lower.length
  | slot _ => 0

/-- Some value is not empty and has a lower case that is no literal among given segments. -/
theorem exists_fresh (segments : List Segment) :
    ∃ fresh : String, fresh ≠ "" ∧ ∀ segment ∈ segments,
      segment ≠ .literal (Text.lowercase fresh) := by
  let bound := (segments.map size).max?.getD 0
  have settled : Text.lowercaseChars (List.replicate (bound + 1) '0') =
      List.replicate (bound + 1) '0' := by
    apply Text.lowercaseAfter_of_isSettled
    intro c mem
    rw [List.eq_of_mem_replicate mem]
    decide
  refine ⟨String.ofList (List.replicate (bound + 1) '0'), ?_, ?_⟩
  · intro empty
    simpa using congrArg String.length empty
  · rintro segment mem rfl
    have short := List.le_max?_getD_of_mem (k := 0) (List.mem_map_of_mem (f := size) mem)
    have long : size (.literal (Text.lowercase (String.ofList (List.replicate (bound + 1) '0')))) =
        bound + 1 := by
      simp only [size, Text.lowercase, String.toList_ofList, settled, String.length_ofList,
        List.length_replicate]
    omega

end Segment

namespace Template

/-- A template subsumes another if its segments cover the other's one by one. -/
def Subsumes (template other : Template) : Prop :=
  List.Forall₂ Segment.Covers template.segments other.segments

/-- Subsumption is a check of the segments at each place. -/
theorem subsumes_iff {template other : Template} :
    template.Subsumes other ↔ template.segments.length = other.segments.length ∧
      ∀ place ∈ template.segments.zip other.segments, place.1.Covers place.2 := by
  unfold Subsumes
  rw [List.forall₂_iff_zip, Prod.forall]

instance (template other : Template) : Decidable (template.Subsumes other) :=
  decidable_of_iff _ subsumes_iff.symm

/-- Segments take the texts that segments take which they cover. -/
theorem takes_of_covers {segments others : List Segment} {texts : List (List Char)}
    (covers : List.Forall₂ Segment.Covers segments others)
    (takes : List.Forall₂ Segment.Takes others texts) :
    List.Forall₂ Segment.Takes segments texts := by
  induction covers generalizing texts with
  | nil => exact takes
  | cons covers _ ih =>
    cases takes with
    | cons takes rest => exact .cons (covers.takes takes) (ih rest)

/-- A template fits the texts that one fits which it subsumes. -/
theorem Subsumes.fits {template other : Template} {texts : List (List Char)}
    (subsumes : template.Subsumes other) (fits : other.Fits texts) : template.Fits texts :=
  takes_of_covers subsumes fits

/-- A template that fits the texts of another with a fresh value in every slot subsumes it. -/
theorem subsumes_of_fits {template other : Template} {fresh : String}
    (unused : ∀ segment ∈ template.segments, segment ≠ .literal (Text.lowercase fresh))
    (fits : template.Fits (other.segments.map (Segment.text fun _ => fresh))) :
    template.Subsumes other := by
  have own := other.filled_segments fun _ => fresh
  unfold Fits at fits
  rw [List.forall₂_map_right_iff] at own fits
  obtain ⟨lengths, takes⟩ := List.forall₂_iff_zip.1 fits
  refine List.forall₂_iff_zip.2 ⟨lengths, fun mem => ?_⟩
  obtain ⟨mine, its⟩ := List.of_mem_zip mem
  exact Segment.covers_of_takes_text (List.forall₂_same.1 own _ its) (unused _ mine) (takes mem)

end Template

namespace Table

variable {κ : Type}

/-- A route is found for no request behind one with its method that subsumes it. -/
theorem match?_ne_of_subsumes {table : Table κ} {i j : Nat} (before : i < j)
    (bound : j < table.routes.length) (same : table.routes[i].method = table.routes[j].method)
    (subsumes : table.routes[i].template.Subsumes table.routes[j].template)
    (method path : String) (parameters : Dict String) :
    table.match? method path ≠ some ⟨j, table.routes[j], parameters⟩ := by
  intro found
  obtain ⟨-, fits, first⟩ := match?_eq_some_iff.1 found
  obtain ⟨own, captured⟩ := Route.fit?_eq_some_iff.1 fits
  have reached := subsumes.fits (Template.capture?_eq_some_iff.1 captured).1
  have missed := first i before _ (List.getElem?_eq_getElem (Nat.lt_trans before bound))
  exact Route.fit?_eq_none_iff.1 missed (same.trans own) reached

/-- A route behind none with its method that subsumes it is found for the path that is made from its
template with a fresh value in every slot. -/
theorem exists_match?_of_not_subsumes {table : Table κ} (built : table.Built) {j : Nat}
    (bound : j < table.routes.length)
    (uncovered : ∀ (i : Nat) (before : i < j),
      ¬ (table.routes[i].method = table.routes[j].method ∧
        table.routes[i].template.Subsumes table.routes[j].template)) :
    ∃ method path parameters,
      table.match? method path = some ⟨j, table.routes[j], parameters⟩ := by
  obtain ⟨r, method, -⟩ := built.registered (List.getElem_mem bound)
  obtain ⟨fresh, given, unused⟩ :=
    Segment.exists_fresh (table.routes.flatMap fun route => route.template.segments)
  have filled := table.routes[j].template.filled_segments fun _ => fresh
  have captured := Template.capture?_ofTexts filled fun _ _ => given
  refine ⟨r.method, table.routes[j].template.reverse fun _ => fresh, _,
    match?_eq_some_iff.2 ⟨List.getElem?_eq_getElem bound,
      Route.fit?_eq_some_iff.2 ⟨method, captured⟩, ?_⟩⟩
  intro i before earlier at_i
  obtain ⟨within, rfl⟩ := List.getElem?_eq_some_iff.1 at_i
  have other : ∀ segment ∈ table.routes[i].template.segments,
      segment ≠ .literal (Text.lowercase fresh) := fun segment mem =>
    unused segment (List.mem_flatMap.2 ⟨_, List.getElem_mem within, mem⟩)
  rw [Route.fit?_eq_none_iff, Template.reverse, Template.texts_ofTexts filled fun _ _ => given]
  intro same fits
  exact uncovered i before ⟨same.trans method.symm, Template.subsumes_of_fits other fits⟩

/-- A route of a built table is found for some request if and only if no earlier route with its
method has a template that subsumes its own. -/
theorem exists_match?_iff {table : Table κ} (built : table.Built) {j : Nat}
    (bound : j < table.routes.length) :
    (∃ method path parameters,
        table.match? method path = some ⟨j, table.routes[j], parameters⟩) ↔
      ∀ (i : Nat) (before : i < j),
        ¬ (table.routes[i].method = table.routes[j].method ∧
          table.routes[i].template.Subsumes table.routes[j].template) := by
  constructor
  · rintro ⟨method, path, parameters, found⟩ i before ⟨same, subsumes⟩
    exact match?_ne_of_subsumes before bound same subsumes method path parameters found
  · exact exists_match?_of_not_subsumes built bound

/-- Behind a route with two slots no request finds one with two literals, unless a literal is
empty. -/
theorem exists_match?_iff_slots :
    ∃ slots full short : Route Unit, (⟨[slots, full, short]⟩ : Table Unit).Built ∧
      full.template.raw = "/x/y" ∧ short.template.raw = "/x//" ∧
      (¬ ∃ method path parameters, (⟨[slots, full, short]⟩ : Table Unit).match? method path =
        some ⟨1, full, parameters⟩) ∧
      ∃ method path parameters, (⟨[slots, full, short]⟩ : Table Unit).match? method path =
        some ⟨2, short, parameters⟩ := by
  obtain ⟨slots, done₀, method₀, own₀⟩ := exists_register (∅ : Table Unit)
    (r := ⟨"get", "/\x7bA\x7d/\x7bB\x7d", .ok, fun _ => .ok (), []⟩)
    (Template.compile_eq_ok_iff.2 rfl : Template.compile _ =
      .ok ⟨_, [.slot "A", .slot "B"], by decide +kernel, by decide +kernel⟩)
  obtain ⟨full, done₁, method₁, own₁⟩ := exists_register (⟨[slots]⟩ : Table Unit)
    (r := ⟨"GET", "/x/y", .ok, fun _ => .ok (), []⟩)
    (Template.compile_eq_ok_iff.2 rfl : Template.compile _ =
      .ok ⟨_, [.literal "x", .literal "y"], by decide +kernel, by decide +kernel⟩)
  obtain ⟨short, done₂, method₂, own₂⟩ := exists_register (⟨[slots, full]⟩ : Table Unit)
    (r := ⟨"Get", "/x//", .ok, fun _ => .ok (), []⟩)
    (Template.compile_eq_ok_iff.2 rfl : Template.compile _ =
      .ok ⟨_, [.literal "x", .literal ""], by decide +kernel, by decide +kernel⟩)
  have built : (⟨[slots, full, short]⟩ : Table Unit).Built :=
    ((Built.empty.register _ done₀).register _ done₁).register _ done₂
  refine ⟨slots, full, short, built, by rw [own₁], by rw [own₂], ?_, ?_⟩
  · intro found
    have same : normalizeMethod "get" = normalizeMethod "GET" := by decide +kernel
    have covered : slots.template.Subsumes full.template := by
      rw [own₀, own₁]
      decide +kernel
    exact (exists_match?_iff built (j := 1) (by simp)).1 found 0 (by decide)
      ⟨method₀.trans (same.trans method₁.symm), covered⟩
  · refine (exists_match?_iff built (j := 2) (by simp)).2 ?_
    rintro i before ⟨-, covers⟩
    have first : ¬ slots.template.Subsumes short.template := by
      rw [own₀, own₂]
      decide +kernel
    have second : ¬ full.template.Subsumes short.template := by
      rw [own₁, own₂]
      decide +kernel
    obtain rfl | rfl : i = 0 ∨ i = 1 := by omega
    · exact first covers
    · exact second covers

end Table

end HttpGateway
