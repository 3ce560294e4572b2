import HttpGateway.Proofs.Dict
import HttpGateway.Proofs.Routing.Registration
import Mathlib.Data.List.Induction
import Mathlib.Data.List.Nodup

/-!
# Configured routes

A configured route has the method, the template and the builder of its registration, and the shape
and the media type that its steps set last (`Route.configure_eq`). The header fields are set under
their names in lower case. A name stands where it came first (`Route.map_fst_setFields_nil`), with
the value that came last (`Route.lookup_setFields`).
-/

namespace HttpGateway

namespace Route

/-! ## Routes by their steps -/

variable {κ : Type}

/-- The shape that a step sets. -/
def Step.shape? : Step → Option Shape
  | .respondWith shape => some shape
  | _ => none

/-- The media type that a step sets. -/
def Step.type? : Step → Option String
  | .produce contentType => some contentType
  | _ => none

/-- The header field that a step sets. -/
def Step.field? : Step → Option (String × String)
  | .respondHeader name value => some (name, value)
  | _ => none

/-- The fields after several of them are set one after the other. -/
def setFields (fields set : List (String × String)) : List (String × String) :=
  set.foldl (fun fields field => setField (asciiLowercase field.1) field.2 fields) fields

/-- A configured route has the method, the template and the builder that it had, the shape and the
media type that were set last, and the header fields set in order. -/
theorem configure_eq (route : Route κ) (steps : List Step) :
    route.configure steps =
      ⟨route.method, route.template, route.build,
        (steps.filterMap Step.shape?).getLast?.getD route.shape,
        route.requirement.applyAll (steps.flatMap Step.access),
        (steps.filterMap Step.type?).getLast?.or route.contentType,
        setFields route.headers (steps.filterMap Step.field?)⟩ := by
  induction steps generalizing route with
  | nil => rfl
  | cons step rest ih =>
    change (route.apply step).configure rest = _
    rw [ih]
    cases step <;>
      simp [apply, Step.shape?, Step.type?, Step.field?, Step.access, setFields,
        Requirement.applyAll, List.filterMap_cons, List.getLast?_cons]

/-! ## Setting fields -/

variable {fields : List (String × String)} {name key value : String}

/-- A look-up after setting a field. -/
theorem lookup_setField : (setField name value fields).lookup key =
    if key = name then some value else fields.lookup key := by
  induction fields with
  | nil => rw [setField, Dict.lookup_cons_eq_if]
  | cons field rest ih =>
    obtain ⟨other, text⟩ := field
    unfold setField
    by_cases there : other = name
    · rw [if_pos there, Dict.lookup_cons_eq_if, Dict.lookup_cons_eq_if, there]
      split <;> rfl
    · rw [if_neg there, Dict.lookup_cons_eq_if, Dict.lookup_cons_eq_if, ih]
      by_cases same : key = other
      · rw [if_pos same, if_pos same, if_neg (same ▸ there)]
      · rw [if_neg same, if_neg same]

/-- The fields after setting one are that one and those there were. -/
theorem mem_setField {field : String × String} (mem : field ∈ setField name value fields) :
    field = (name, value) ∨ field ∈ fields := by
  induction fields with
  | nil => exact .inl (List.mem_singleton.1 mem)
  | cons first rest ih =>
    unfold setField at mem
    split at mem
    · exact (List.mem_cons.1 mem).imp_right (List.mem_cons_of_mem _)
    · rcases List.mem_cons.1 mem with rfl | mem
      · exact .inr List.mem_cons_self
      · exact (ih mem).imp_right (List.mem_cons_of_mem _)

/-- Setting a field adds its name at the end, unless it is there. -/
theorem map_fst_setField : (setField name value fields).map Prod.fst =
    if name ∈ fields.map Prod.fst then fields.map Prod.fst else fields.map Prod.fst ++ [name] := by
  induction fields with
  | nil => rfl
  | cons first rest ih =>
    unfold setField
    by_cases there : first.1 = name
    · rw [if_pos there, if_pos (by simp [there]), List.map_cons, List.map_cons, there]
    · rw [if_neg there, List.map_cons, ih, List.map_cons]
      by_cases later : name ∈ rest.map Prod.fst
      · rw [if_pos later, if_pos (List.mem_cons_of_mem _ later)]
      · have absent : name ∉ first.1 :: rest.map Prod.fst := by
          rw [List.mem_cons, not_or]
          exact ⟨Ne.symm there, later⟩
        rw [if_neg later, if_neg absent, List.cons_append]

/-- Setting a field keeps the names distinct. -/
theorem nodup_setField (distinct : (fields.map Prod.fst).Nodup) :
    ((setField name value fields).map Prod.fst).Nodup := by
  rw [map_fst_setField]
  split
  · exact distinct
  · next absent =>
    rw [← List.concat_eq_append]
    exact distinct.concat absent

variable {set : List (String × String)}

/-- Setting fields keeps the names distinct. -/
theorem nodup_setFields (distinct : (fields.map Prod.fst).Nodup) :
    ((setFields fields set).map Prod.fst).Nodup := by
  induction set generalizing fields with
  | nil => exact distinct
  | cons field rest ih => exact ih (nodup_setField distinct)

/-- The fields after setting several are these in lower case and those there were. -/
theorem mem_setFields {field : String × String} (mem : field ∈ setFields fields set) :
    field ∈ fields ∨ ∃ given ∈ set, field = (asciiLowercase given.1, given.2) := by
  induction set generalizing fields with
  | nil => exact .inl mem
  | cons first rest ih =>
    rcases ih mem with there | ⟨given, mem, same⟩
    · rcases mem_setField there with same | there
      · exact .inr ⟨first, List.mem_cons_self, same⟩
      · exact .inl there
    · exact .inr ⟨given, List.mem_cons_of_mem _ mem, same⟩

/-- A look-up after setting fields takes the last of those with the name. -/
theorem lookup_setFields : (setFields fields set).lookup key =
    ((set.filter fun field => asciiLowercase field.1 == key).getLast?.map Prod.snd).or
      (fields.lookup key) := by
  induction set generalizing fields with
  | nil => rfl
  | cons field rest ih =>
    obtain ⟨name, value⟩ := field
    change (setFields (setField (asciiLowercase name) value fields) rest).lookup key = _
    rw [ih, lookup_setField]
    by_cases same : key = asciiLowercase name
    · rw [List.filter_cons_of_pos (by simp [same]), List.getLast?_cons, if_pos same]
      cases (rest.filter fun field => asciiLowercase field.1 == key).getLast? <;> rfl
    · rw [List.filter_cons_of_neg (by simpa using Ne.symm same), if_neg same]

/-- The names of the fields set on a route without any are those given, in lower case, each where it
is given first. -/
theorem map_fst_setFields_nil : (setFields [] set).map Prod.fst =
    (set.map fun field => asciiLowercase field.1).eraseDups := by
  induction set using List.reverseRecOn with
  | nil => rfl
  | append_singleton front field ih =>
    have last : setFields [] (front ++ [field]) =
        setField (asciiLowercase field.1) field.2 (setFields [] front) := List.foldl_concat ..
    rw [last, map_fst_setField, ih, List.map_append, List.eraseDups_append]
    by_cases there : asciiLowercase field.1 ∈ front.map fun field => asciiLowercase field.1
    · rw [if_pos (List.mem_eraseDups.2 there), List.map_singleton, List.cons_removeAll,
        if_neg (by simpa using there), List.nil_removeAll, List.eraseDups_nil, List.append_nil]
    · rw [if_neg (mt List.mem_eraseDups.1 there), List.map_singleton, List.cons_removeAll,
        if_pos (by simpa using there), List.nil_removeAll]
      rfl

end Route

namespace Registration

variable {κ : Type} {r : Registration κ}

/-- The route of a registration has its builder, the shape and the media type that its steps set
last, and the header fields set in order. -/
theorem parts_of_route? {route : Route κ} (made : r.route? = .ok route) :
    route.build = r.build ∧
      route.shape = (r.steps.filterMap Route.Step.shape?).getLast?.getD r.shape ∧
      route.contentType = (r.steps.filterMap Route.Step.type?).getLast? ∧
      route.headers = Route.setFields [] (r.steps.filterMap Route.Step.field?) := by
  obtain ⟨template, -, rfl⟩ := route?_eq_ok_iff.1 made
  rw [Route.configure_eq]
  exact ⟨rfl, rfl, Option.or_none, rfl⟩

end Registration

end HttpGateway
