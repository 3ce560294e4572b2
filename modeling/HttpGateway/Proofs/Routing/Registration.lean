import HttpGateway.Routing.Table

/-!
# Registered routes

A template compiles exactly when no two of its slots have one name, and a compiled template is
determined by what it was written as. The steps that configure a route change neither its method
nor its template, so each route of a table that registrations have built answers to the method and
the template of its registration (`Table.Built.registered`).
-/

namespace HttpGateway

namespace Template

/-- No slot repeats an earlier one or one seen before if and only if the keys of the slots are
distinct and none was seen before. -/
theorem firstRepeat?_eq_none_iff {seen : List String} {segments : List Segment} :
    firstRepeat? seen segments = none ↔
      (segments.filterMap Segment.key?).Nodup ∧
        ∀ key ∈ segments.filterMap Segment.key?, key ∉ seen := by
  refine ⟨nodup_of_firstRepeat?_eq_none, ?_⟩
  rintro ⟨distinct, fresh⟩
  induction segments generalizing seen with
  | nil => rfl
  | cons segment rest ih =>
    cases segment with
    | literal text => exact ih distinct fresh
    | slot name =>
      simp only [List.filterMap_cons, Segment.key?_slot, List.nodup_cons] at distinct fresh
      have unseen := fresh _ List.mem_cons_self
      unfold firstRepeat?
      rw [if_neg (by simpa using unseen)]
      apply ih distinct.2
      intro key mem
      rw [List.mem_cons, not_or]
      refine ⟨?_, fresh key (List.mem_cons_of_mem _ mem)⟩
      rintro rfl
      exact distinct.1 mem

/-- Templates that are written alike are equal. -/
theorem eq_of_raw_eq {template other : Template} (same : template.raw = other.raw) :
    template = other := by
  obtain ⟨raw, segments, compiled, distinct⟩ := template
  obtain ⟨raw', segments', compiled', distinct'⟩ := other
  subst same compiled compiled'
  rfl

/-- Compiling gives the template that is written so, if there is one. -/
theorem compile_eq_ok_iff {raw : String} {template : Template} :
    compile raw = .ok template ↔ template.raw = raw := by
  constructor
  · intro compiled
    unfold compile at compiled
    dsimp only at compiled
    split at compiled
    · contradiction
    · obtain rfl := Except.ok.inj compiled
      rfl
  · rintro rfl
    have fresh : firstRepeat? [] ((Path.segmentChars (Path.normalizeChars
        template.raw.toList)).map Segment.read) = none := by
      rw [← template.compiled]
      exact firstRepeat?_eq_none_iff.2 ⟨template.distinct, fun _ _ => List.not_mem_nil⟩
    unfold compile
    dsimp only
    split
    · next repeated => simp [fresh] at repeated
    · exact congrArg Except.ok (eq_of_raw_eq rfl)

/-- Compiling fails when a slot repeats an earlier one, and names the template and the slot. -/
theorem compile_eq_error_iff {raw : String} {fault : DuplicateParameter} :
    compile raw = .error fault ↔ fault.template = raw ∧
      firstRepeat? [] ((Path.segmentChars (Path.normalizeChars raw.toList)).map Segment.read) =
        some fault.name := by
  obtain ⟨template, name⟩ := fault
  unfold compile
  dsimp only
  split
  · next other repeated =>
    rw [repeated, Except.error.injEq, DuplicateParameter.mk.injEq, Option.some.injEq]
    exact and_congr_left fun _ => eq_comm
  · next fresh => simp [fresh]

/-- A template compiles when the keys of the segments that it is written as are distinct. -/
theorem exists_compile_iff {raw : String} : (∃ template, compile raw = .ok template) ↔
    (((Path.segmentChars (Path.normalizeChars raw.toList)).map Segment.read).filterMap
      Segment.key?).Nodup := by
  constructor
  · rintro ⟨template, compiled⟩
    have written := template.compiled
    rw [compile_eq_ok_iff.1 compiled] at written
    exact written ▸ template.distinct
  · exact fun distinct => ⟨⟨raw, _, rfl, distinct⟩, compile_eq_ok_iff.2 rfl⟩

end Template

namespace Route

variable {κ : Type}

/-- A step in configuring a route keeps its method and its template. -/
theorem apply_method_template (route : Route κ) (step : Step) :
    (route.apply step).method = route.method ∧ (route.apply step).template = route.template := by
  cases step <;> exact ⟨rfl, rfl⟩

/-- Configuring a route keeps its method and its template. -/
theorem configure_method_template (route : Route κ) (steps : List Step) :
    (route.configure steps).method = route.method ∧
      (route.configure steps).template = route.template := by
  unfold configure
  induction steps generalizing route with
  | nil => exact ⟨rfl, rfl⟩
  | cons step steps ih =>
    obtain ⟨method, template⟩ := ih (route.apply step)
    obtain ⟨method', template'⟩ := apply_method_template route step
    exact ⟨method.trans method', template.trans template'⟩

/-- A step in configuring a route takes its steps in building the requirement. -/
theorem requirement_apply (route : Route κ) (step : Step) :
    (route.apply step).requirement = route.requirement.applyAll step.access := by
  cases step <;> rfl

/-- Configuring a route takes the steps in building the requirement one after the other. -/
theorem requirement_configure (route : Route κ) (steps : List Step) :
    (route.configure steps).requirement =
      route.requirement.applyAll (steps.flatMap Step.access) := by
  induction steps generalizing route with
  | nil => rfl
  | cons step rest ih =>
    change ((route.apply step).configure rest).requirement = _
    rw [ih, requirement_apply, List.flatMap_cons]
    simp only [Requirement.applyAll, List.foldl_append]

end Route

namespace Registration

variable {κ : Type} {r : Registration κ}

/-- The route of a registration is a plain one configured by its steps. -/
theorem route?_eq_ok_iff {route : Route κ} :
    r.route? = .ok route ↔ ∃ template, Template.compile r.path = .ok template ∧
      route = (Route.mk (normalizeMethod r.method) template r.build r.shape .authenticated none
        []).configure r.steps := by
  unfold route? plainRoute?
  cases Template.compile r.path with
  | error fault => simp [Except.map]
  | ok template => simp [Except.map, eq_comm]

/-- A registration stands for no route when its template does not compile. -/
theorem route?_eq_error_iff {fault : DuplicateParameter} :
    r.route? = .error fault ↔ Template.compile r.path = .error fault := by
  unfold route? plainRoute?
  cases Template.compile r.path <;> simp [Except.map]

/-- A route has the method and the template of its registration. -/
theorem method_template_of_route? {route : Route κ} (made : r.route? = .ok route) :
    route.method = normalizeMethod r.method ∧ Template.compile r.path = .ok route.template := by
  obtain ⟨template, compiled, rfl⟩ := route?_eq_ok_iff.1 made
  obtain ⟨method, same⟩ := Route.configure_method_template (κ := κ)
    ⟨normalizeMethod r.method, template, r.build, r.shape, .authenticated, none, []⟩ r.steps
  exact ⟨method, compiled.trans (congrArg Except.ok same.symm)⟩

/-- The requirement of a route is built by the steps of its registration from one that asks for a
claim of any kind. -/
theorem requirement_of_route? {route : Route κ} (made : r.route? = .ok route) :
    route.requirement = .ofSteps (r.steps.flatMap Route.Step.access) := by
  obtain ⟨template, -, rfl⟩ := route?_eq_ok_iff.1 made
  exact Route.requirement_configure _ r.steps

/-- A registration whose template compiles stands for a route. -/
theorem exists_route? {template : Template} (compiled : Template.compile r.path = .ok template) :
    ∃ route, r.route? = .ok route :=
  ⟨_, route?_eq_ok_iff.2 ⟨template, compiled, rfl⟩⟩

end Registration

namespace Table

variable {κ : Type}

/-- Registering a route appends it to the table. -/
theorem register_eq_ok_iff {table next : Table κ} {r : Registration κ} :
    table.register r = .ok next ↔
      ∃ route, r.route? = .ok route ∧ next = ⟨table.routes ++ [route]⟩ := by
  unfold register
  cases made : r.route? with
  | error fault => simp [Except.map]
  | ok route => simp [Except.map, eq_comm]

/-- A registration whose template compiles appends a route with its method and its template. -/
theorem exists_register (table : Table κ) {r : Registration κ} {template : Template}
    (compiled : Template.compile r.path = .ok template) :
    ∃ route, table.register r = .ok ⟨table.routes ++ [route]⟩ ∧
      route.method = normalizeMethod r.method ∧ route.template = template := by
  obtain ⟨route, made⟩ := Registration.exists_route? compiled
  obtain ⟨method, own⟩ := Registration.method_template_of_route? made
  exact ⟨route, register_eq_ok_iff.2 ⟨route, made, rfl⟩, method,
    Except.ok.inj (own.symm.trans compiled)⟩

/-- Tables that registrations have built. -/
inductive Built : Table κ → Prop
  /-- The empty table is built. -/
  | empty : Built ∅
  /-- A built table with one more route is built. -/
  | register {table next : Table κ} (built : Built table) (r : Registration κ)
      (done : table.register r = .ok next) : Built next

/-- Each route of a built table is that of a registration. -/
theorem Built.exists_registration {table : Table κ} (built : table.Built) {route : Route κ}
    (mem : route ∈ table.routes) : ∃ r : Registration κ, r.route? = .ok route := by
  induction built with
  | empty => cases mem
  | register built r done ih =>
    obtain ⟨added, made, rfl⟩ := register_eq_ok_iff.1 done
    rcases List.mem_append.1 mem with mem | mem
    · exact ih mem
    · obtain rfl := List.mem_singleton.1 mem
      exact ⟨r, made⟩

/-- Each route of a built table has the method and the template of a registration. -/
theorem Built.registered {table : Table κ} (built : table.Built) {route : Route κ}
    (mem : route ∈ table.routes) :
    ∃ r : Registration κ, route.method = normalizeMethod r.method ∧
      Template.compile r.path = .ok route.template := by
  obtain ⟨r, made⟩ := built.exists_registration mem
  exact ⟨r, Registration.method_template_of_route? made⟩

end Table

end HttpGateway
