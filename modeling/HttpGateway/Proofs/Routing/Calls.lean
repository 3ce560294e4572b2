import HttpGateway.Proofs.Access.Building
import HttpGateway.Proofs.Routing.Configuring
import HttpGateway.Proofs.Text.Recasing
import HttpGateway.Proofs.Text.Uppercase
import HttpGateway.Routing.Call
import Mathlib.Data.List.Forall2

/-!
# Tables that calls build

A call with the steps after it does what its registration does: it adds the registered route or
nothing (`Table.perform_eq`), so what holds of tables that registrations have built holds of these
(`Table.Built.performAll`). A table has one entry for each call that did not fail, in order, and
every entry is determined by its own call and its own steps (`Registration.Entry`,
`Table.performAll_entries`). A step changes the route at its place and no other.
-/

namespace HttpGateway

/-! ## Entries -/

/-- What a table holds for a registration. -/
structure Registration.Entry {κ : Type} (r : Registration κ) (route : Route κ) : Prop where
  /-- The template is that of the registration. -/
  template : Template.compile r.path = .ok route.template
  /-- The method is that of the registration, without white space at the ends and in upper case. -/
  method : route.method = Text.uppercase (Text.trim r.method)
  /-- The method has no white space at its ends. -/
  trimmed : Text.trim route.method = route.method
  /-- The method is in upper case. -/
  capital : Text.uppercase route.method = route.method
  /-- The builder is that of the registration. -/
  build : route.build = r.build
  /-- The shape is the last that a step sets, or that of the registration. -/
  shape : route.shape = (r.steps.filterMap Route.Step.shape?).getLast?.getD r.shape
  /-- The media type is the last that a step sets. -/
  contentType : route.contentType = (r.steps.filterMap Route.Step.type?).getLast?
  /-- The requirement is what the steps build. -/
  requirement : route.requirement = .ofSteps (r.steps.flatMap Route.Step.access)
  /-- The requirement needs an identity. -/
  needsIdentity : route.requirement.needsIdentity = true
  /-- The names of the header fields are those of the steps in lower case, each where it came
  first. -/
  names : route.headers.map Prod.fst =
    ((r.steps.filterMap Route.Step.field?).map fun field => asciiLowercase field.1).eraseDups
  /-- The names are distinct. -/
  distinct : (route.headers.map Prod.fst).Nodup
  /-- The names are in lower case. -/
  lower : ∀ name ∈ route.headers.map Prod.fst, asciiLowercase name = name
  /-- Each name has the value that came last. -/
  values : ∀ name, route.headers.lookup name =
    ((r.steps.filterMap Route.Step.field?).filter
      fun field => asciiLowercase field.1 == name).getLast?.map Prod.snd

namespace Registration

variable {κ : Type} {r : Registration κ}

/-- The route of a registration is its entry. -/
theorem entry_of_route? {route : Route κ} (made : r.route? = .ok route) : r.Entry route := by
  obtain ⟨method, template⟩ := method_template_of_route? made
  obtain ⟨build, shape, contentType, headers⟩ := parts_of_route? made
  have requirement := requirement_of_route? made
  have names : route.headers.map Prod.fst = ((r.steps.filterMap Route.Step.field?).map
      fun field => asciiLowercase field.1).eraseDups := by
    rw [headers]
    exact Route.map_fst_setFields_nil
  refine ⟨template, method, ?trimmed, ?capital, build, shape, contentType, requirement,
    ?needsIdentity, names, ?distinct, ?lower, ?values⟩
  case trimmed =>
    rw [method]
    exact Text.trim_uppercase_trim r.method
  case capital =>
    rw [method]
    exact Text.uppercase_uppercase _
  case needsIdentity =>
    have asked : (Requirement.ofSteps _).requiresAuthentication = true :=
      Requirement.requiresAuthentication_applyAll (r.steps.flatMap Route.Step.access) rfl
    rw [requirement, Requirement.needsIdentity, asked]
    rfl
  case distinct =>
    rw [headers]
    exact Route.nodup_setFields .nil
  case lower =>
    rw [names]
    intro name mem
    obtain ⟨field, -, rfl⟩ := List.mem_map.1 (List.mem_eraseDups.1 mem)
    exact Text.recased_asciiLowercase field.1
  case values =>
    intro name
    rw [headers, Route.lookup_setFields]
    exact Option.or_none

end Registration

/-! ## Single calls -/

/-- The path of a call. -/
def Call.path {κ : Type} (call : Call κ) : String := (call.registration []).path

/-- The registration of a call has its path, whatever steps follow. -/
theorem Call.path_registration {κ : Type} (call : Call κ) (steps : List Route.Step) :
    (call.registration steps).path = call.path := by
  cases call <;> rfl

namespace Table

variable {κ : Type} {call : Call κ}

/-- A call adds what its registration says, whatever steps follow. -/
theorem call_eq_map (table : Table κ) (call : Call κ) (steps : List Route.Step) :
    table.call call = table.map (call.registration steps).method call.path
      (call.registration steps).shape (call.registration steps).build := by
  cases call <;> rfl

/-- A call whose template does not compile answers with the fault and leaves the table. -/
theorem call_of_error {fault : DuplicateParameter}
    (failed : Template.compile call.path = .error fault) (table : Table κ) :
    table.call call = (.error fault, table) := by
  rw [call_eq_map table call [], map, failed]

/-- A call whose template compiles adds a route, which is the registered one without the steps, and
answers with its place. -/
theorem exists_call_of_ok {template : Template}
    (compiled : Template.compile call.path = .ok template) (table : Table κ) : ∃ plain : Route κ,
      table.call call = (.ok table.routes.length, ⟨table.routes ++ [plain]⟩) ∧
        ∀ steps, (call.registration steps).route? = .ok (plain.configure steps) := by
  refine ⟨⟨normalizeMethod (call.registration []).method, template, (call.registration []).build,
    (call.registration []).shape, .authenticated, none, []⟩, ?_, fun steps => ?_⟩
  · rw [call_eq_map table call [], map, compiled]
  · refine Registration.route?_eq_ok_iff.2 ⟨template, ?_, ?_⟩
    · rw [Call.path_registration, compiled]
    · cases call <;> rfl

/-- The answer to a call is the fault of its template, or the number of routes before it. -/
theorem call_fst (table : Table κ) (call : Call κ) :
    (table.call call).1 = (Template.compile call.path).map fun _ => table.routes.length := by
  cases compiled : Template.compile call.path with
  | error fault =>
    rw [call_of_error compiled]
    rfl
  | ok template =>
    obtain ⟨plain, answered, -⟩ := exists_call_of_ok compiled table
    rw [answered]
    rfl

/-! ## Steps at a place -/

/-- A step at a place keeps the number of routes and each route at another place. -/
theorem configureAt_frame (table : Table κ) (place : Nat) (step : Route.Step) :
    (table.configureAt place step).routes.length = table.routes.length ∧
      ∀ other ≠ place, (table.configureAt place step).routes[other]? = table.routes[other]? := by
  refine ⟨List.length_modify .., fun other differ => ?_⟩
  rw [configureAt, List.getElem?_modify]
  simp only [Ne.symm differ, ↓reduceIte, Option.map_eq_map, Option.map_id']

/-- Steps at the last place configure the last route. -/
theorem foldl_configureAt_last (front : List (Route κ)) (plain : Route κ)
    (steps : List Route.Step) :
    steps.foldl (fun table step => table.configureAt front.length step)
      (⟨front ++ [plain]⟩ : Table κ) = ⟨front ++ [plain.configure steps]⟩ := by
  induction steps generalizing plain with
  | nil => rfl
  | cons step rest ih =>
    have last : (⟨front ++ [plain]⟩ : Table κ).configureAt front.length step =
        ⟨front ++ [plain.apply step]⟩ := by
      unfold configureAt
      rw [List.modify_eq_take_cons_drop (by simp)]
      simp
    rw [List.foldl_cons, last, ih]
    rfl

/-! ## Calls with their steps -/

/-- A call whose template does not compile leaves the table, and no steps are made. -/
theorem perform_of_error {fault : DuplicateParameter}
    (failed : Template.compile call.path = .error fault) (table : Table κ)
    (steps : List Route.Step) : table.perform call steps = table := by
  rw [perform, call_of_error failed]

/-- The steps after a call that adds a route configure this route. -/
theorem perform_of_call {table : Table κ} {plain : Route κ}
    (answered : table.call call = (.ok table.routes.length, ⟨table.routes ++ [plain]⟩))
    (steps : List Route.Step) :
    table.perform call steps = ⟨table.routes ++ [plain.configure steps]⟩ := by
  rw [perform, answered]
  exact foldl_configureAt_last table.routes plain steps

/-- A call that answers with a fault leaves the table, and no steps are made. -/
theorem perform_of_fault {table : Table κ} {fault : DuplicateParameter}
    (answered : (table.call call).1 = .error fault) :
    (table.call call).2 = table ∧ ∀ steps, table.perform call steps = table := by
  cases compiled : Template.compile call.path with
  | error other => exact ⟨by rw [call_of_error compiled], perform_of_error compiled table⟩
  | ok template =>
    rw [call_fst, compiled] at answered
    contradiction

/-- A call that answers with a place adds a route, and the steps that follow configure this
route. -/
theorem exists_perform_of_place {table : Table κ} {place : Nat}
    (answered : (table.call call).1 = .ok place) : ∃ plain : Route κ,
      (table.call call).2 = ⟨table.routes ++ [plain]⟩ ∧
        ∀ steps, table.perform call steps = ⟨table.routes ++ [plain.configure steps]⟩ := by
  cases compiled : Template.compile call.path with
  | error fault =>
    rw [call_fst, compiled] at answered
    contradiction
  | ok template =>
    obtain ⟨plain, added, -⟩ := exists_call_of_ok compiled table
    exact ⟨plain, by rw [added], perform_of_call added⟩

/-- A call and the steps after it do what their registration does, if it does not fail. -/
theorem perform_eq (table : Table κ) (call : Call κ) (steps : List Route.Step) :
    table.perform call steps =
      match table.register (call.registration steps) with
      | .ok next => next
      | .error _ => table := by
  cases compiled : Template.compile call.path with
  | error fault =>
    have failed := Registration.route?_eq_error_iff.2
      ((congrArg _ (call.path_registration steps)).trans compiled)
    rw [perform_of_error compiled, register, failed]
    rfl
  | ok template =>
    obtain ⟨plain, answered, registered⟩ := exists_call_of_ok compiled table
    have done : table.register (call.registration steps) = _ :=
      register_eq_ok_iff.2 ⟨_, registered steps, rfl⟩
    rw [perform_of_call answered, done]

/-! ## Runs of calls -/

/-- A call and the steps after it make a built table of a built table. -/
theorem Built.perform {table : Table κ} (built : table.Built) (call : Call κ)
    (steps : List Route.Step) : (table.perform call steps).Built := by
  rw [perform_eq]
  cases registered : table.register (call.registration steps) with
  | error fault => exact built
  | ok next => exact .register built _ registered

/-- Several calls make a built table of a built table. -/
theorem Built.performAll {table : Table κ} (built : table.Built)
    (calls : List (Call κ × List Route.Step)) : (table.performAll calls).Built := by
  induction calls generalizing table with
  | nil => exact built
  | cons made rest ih => exact ih (built.perform made.1 made.2)

/-- Several calls add the registered route of each whose template compiles, in order. -/
theorem routes_performAll (table : Table κ) (calls : List (Call κ × List Route.Step)) :
    ∃ added, (table.performAll calls).routes = table.routes ++ added ∧
      List.Forall₂ (fun made route => (made.1.registration made.2).route? = .ok route)
        (calls.filter fun made => (Template.compile made.1.path).isOk) added := by
  induction calls generalizing table with
  | nil => exact ⟨[], (List.append_nil _).symm, .nil⟩
  | cons made rest ih =>
    obtain ⟨added, eq, all⟩ := ih (table.perform made.1 made.2)
    change (table.performAll (made :: rest)).routes = _ at eq
    cases compiled : Template.compile made.1.path with
    | error fault =>
      rw [perform_of_error compiled] at eq
      refine ⟨added, eq, ?_⟩
      rwa [List.filter_cons_of_neg (by simp [compiled, Except.isOk, Except.toBool])]
    | ok template =>
      obtain ⟨plain, answered, registered⟩ := exists_call_of_ok compiled table
      rw [perform_of_call answered made.2, List.append_assoc, List.singleton_append] at eq
      refine ⟨plain.configure made.2 :: added, eq, ?_⟩
      rw [List.filter_cons_of_pos (by simp [compiled, Except.isOk, Except.toBool])]
      exact .cons (registered made.2) all

/-- A table holds one entry for each of the calls that have built it, apart from those that failed,
in the order of the calls, and further calls keep these entries. A call fails when its template does
not compile. It then answers with the fault, and the table stays as it is. Else it adds one route
and answers with its place; the steps that follow change this route and no other. -/
theorem performAll_entries :
    (∀ calls : List (Call κ × List Route.Step),
      List.Forall₂ (fun made route => (made.1.registration made.2).Entry route)
        (calls.filter fun made => (Template.compile made.1.path).isOk)
        ((∅ : Table κ).performAll calls).routes) ∧
    (∀ (table : Table κ) calls, table.routes <+: (table.performAll calls).routes) ∧
    (∀ (table : Table κ) (call : Call κ),
      (table.call call).1 = (Template.compile call.path).map (fun _ => table.routes.length) ∧
      (∀ fault, (table.call call).1 = .error fault →
        (table.call call).2 = table ∧ ∀ steps, table.perform call steps = table) ∧
      ∀ place, (table.call call).1 = .ok place → ∃ plain : Route κ,
        (table.call call).2 = ⟨table.routes ++ [plain]⟩ ∧
          ∀ steps, table.perform call steps = ⟨table.routes ++ [plain.configure steps]⟩) ∧
    ∀ (table : Table κ) place step,
      (table.configureAt place step).routes.length = table.routes.length ∧
        ∀ other ≠ place, (table.configureAt place step).routes[other]? = table.routes[other]? := by
  refine ⟨fun calls => ?_, fun table calls => ?_, fun table call => ?_, configureAt_frame⟩
  · obtain ⟨added, eq, all⟩ := routes_performAll ∅ calls
    have whole : ((∅ : Table κ).performAll calls).routes = added := eq
    rw [whole]
    exact all.imp fun made route => Registration.entry_of_route?
  · obtain ⟨added, eq, -⟩ := routes_performAll table calls
    exact ⟨added, eq.symm⟩
  · exact ⟨call_fst table call, fun fault => perform_of_fault, fun place => exists_perform_of_place⟩

/-- Of three calls the second fails. The first sets a field twice, which keeps its place and has the
value that came last. -/
theorem performAll_entries_repeated : ∃ calls : List (Call Unit × List Route.Step),
    calls.map (fun made => (made.1.path, made.2)) =
      [("/items", [.respondHeader "X-Cache" "miss", .respondHeader "Age" "1",
          .respondHeader "x-cache" "bypass"]),
        ("/\x7bid\x7d/\x7bID\x7d", [.produce "text/plain"]),
        ("/\x7bid\x7d", [.allowAnonymous])] ∧
    ∃ first last, ((∅ : Table Unit).performAll calls).routes = [first, last] ∧
      first.headers.map Prod.fst = ["x-cache", "age"] ∧
      first.headers.lookup "x-cache" = some "bypass" ∧
      last.method = "PATCH" ∧ last.requirement.needsIdentity = true ∧ last.headers = [] := by
  let build : Context → Except Failure Unit := fun _ => .ok ()
  let calls : List (Call Unit × List Route.Step) :=
    [(.mapVerb .get "/items" build, [.respondHeader "X-Cache" "miss", .respondHeader "Age" "1",
        .respondHeader "x-cache" "bypass"]),
      (.map "put" "/\x7bid\x7d/\x7bID\x7d" .ok build, [.produce "text/plain"]),
      (.map " patch " "/\x7bid\x7d" .noContent build, [.allowAnonymous])]
  have compiled : (Template.compile "/items").isOk = true ∧
      (Template.compile "/\x7bid\x7d/\x7bID\x7d").isOk = false ∧
      (Template.compile "/\x7bid\x7d").isOk = true := by
    decide +kernel
  have entries := performAll_entries.1 calls
  refine ⟨calls, rfl, ?_⟩
  generalize ((∅ : Table Unit).performAll calls).routes = routes at entries ⊢
  simp only [calls, List.filter_cons, Call.path, Call.registration, compiled] at entries
  obtain _ | ⟨first, _ | ⟨last, _ | _⟩⟩ := entries
  refine ⟨_, _, rfl, first.names.trans ?_, (first.values "x-cache").trans ?_, last.method.trans ?_,
    last.needsIdentity, List.map_eq_nil_iff.1 (last.names.trans ?_)⟩
  all_goals decide +kernel

end Table

end HttpGateway
