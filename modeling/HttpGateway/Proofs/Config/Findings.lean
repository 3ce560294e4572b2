import Mathlib.Data.List.Nodup
import HttpGateway.Config.Check
import HttpGateway.Proofs.Text.Strip

/-!
# What a check finds

A configuration has places at which something may be wrong: a policy, the method, the command and
the template of a route, each policy that a route asks for, each header field that it declares, the
number of attempts and the URL of the backend. `Config.Defect` says what is wrong at a place, by
what stands there. The findings of a check are the defects in the order of their places, each once
(`Config.findings_exact`), and there are none exactly when the configuration is sound.
-/

namespace HttpGateway

/-! ## Places and their order -/

/-- A place in a configuration at which something may be wrong. Policies, routes, and what a route
asks for or declares, are numbered from zero. -/
inductive Place
  /-- A policy. -/
  | policy (index : Nat)
  /-- The method of a route. -/
  | method (route : Nat)
  /-- The command of a route. -/
  | command (route : Nat)
  /-- The template of a route. -/
  | template (route : Nat)
  /-- A policy that a route asks for. -/
  | reference (route index : Nat)
  /-- A header field that a route declares. -/
  | header (route index : Nat)
  /-- The number of attempts. -/
  | attempts
  /-- The URL of the backend. -/
  | backend
deriving DecidableEq, Repr

namespace Place

/-- The numbers that tell where a place stands: the part of the configuration, and the position
inside it. -/
def position : Place → List Nat
  | policy index => [0, index]
  | method route => [1, route, 0]
  | command route => [1, route, 1]
  | template route => [1, route, 2]
  | reference route index => [1, route, 3, index]
  | header route index => [1, route, 4, index]
  | attempts => [2]
  | backend => [3]

instance : LT Place := ⟨fun first second => first.position < second.position⟩

/-- A place comes before another when its position does. -/
theorem lt_iff {first second : Place} : first < second ↔ first.position < second.position :=
  Iff.rfl

end Place

/-! ## Defects -/

/-- Something is wrong at a place of a configuration. -/
inductive Config.Defect (config : Config) : Place → Finding → Prop
  /-- The name of a policy is blank. -/
  | emptyPolicyName {index : Nat} {policy : PolicyConfig}
      (there : config.policies[index]? = some policy) (blank : Text.trim policy.name = "") :
      Defect config (.policy index) .emptyPolicyName
  /-- The name of a policy is not blank, and an earlier policy has it. -/
  | duplicatePolicy {index : Nat} {policy : PolicyConfig}
      (there : config.policies[index]? = some policy) (filled : Text.trim policy.name ≠ "")
      (earlier : policy.name ∈ (config.policies.take index).map PolicyConfig.name) :
      Defect config (.policy index) (.duplicatePolicy policy.name)
  /-- The method of a route is none of the seven that are known. -/
  | unknownMethod {index : Nat} {route : RouteConfig} (there : config.routes[index]? = some route)
      (unknown : normalizeMethod route.method ∉
        ["GET", "POST", "PUT", "DELETE", "PATCH", "HEAD", "OPTIONS"]) :
      Defect config (.method index) (.unknownMethod index route.method)
  /-- The command of a route is blank. -/
  | emptyCommand {index : Nat} {route : RouteConfig} (there : config.routes[index]? = some route)
      (blank : Text.trim route.command = "") : Defect config (.command index) (.emptyCommand index)
  /-- The template of a route does not compile. -/
  | invalidTemplate {index : Nat} {route : RouteConfig} {fault : DuplicateParameter}
      (there : config.routes[index]? = some route)
      (failed : Template.compile route.path = .error fault) :
      Defect config (.template index) (.invalidTemplate index fault)
  /-- A route asks for a policy under a name that is blank or that no policy has. -/
  | undefinedPolicy {index number : Nat} {route : RouteConfig} {name : String}
      (there : config.routes[index]? = some route) (asked : route.policies[number]? = some name)
      (unfit : Text.trim name = "" ∨ name ∉ config.policies.map PolicyConfig.name) :
      Defect config (.reference index number) (.undefinedPolicy index name)
  /-- A route declares a header field whose name or value is not legal. -/
  | invalidHeader {index number : Nat} {route : RouteConfig} {name value : String}
      (there : config.routes[index]? = some route)
      (declared : route.headers.entries[number]? = some (name, value))
      (illegal : FieldName.read? name = none ∨ FieldValue.read? value = none) :
      Defect config (.header index number) (.invalidHeader index name)
  /-- Not even one attempt may be made. -/
  | zeroAttempts (none : config.retries.maxAttempts = 0) : Defect config .attempts .zeroAttempts
  /-- There are routes, and the URL of the backend has not the scheme `http`. -/
  | invalidBackendUrl (some : config.routes ≠ [])
      (invalid : Url.isHttp config.backend.url = false) :
      Defect config .backend (.invalidBackendUrl config.backend.url)

/-- Nothing is wrong with a configuration. -/
structure Config.Sound (config : Config) : Prop where
  /-- The names of policies are not blank. -/
  named : ∀ policy ∈ config.policies, Text.trim policy.name ≠ ""
  /-- The names of policies are pairwise distinct. -/
  distinct : (config.policies.map PolicyConfig.name).Nodup
  /-- The methods of routes are among the seven that are known. -/
  methods : ∀ route ∈ config.routes, normalizeMethod route.method ∈
    ["GET", "POST", "PUT", "DELETE", "PATCH", "HEAD", "OPTIONS"]
  /-- The commands of routes are not blank. -/
  commands : ∀ route ∈ config.routes, Text.trim route.command ≠ ""
  /-- The templates of routes compile. -/
  templates : ∀ route ∈ config.routes, ∃ template, Template.compile route.path = .ok template
  /-- Routes ask for policies under names that are not blank and that a policy has. -/
  references : ∀ route ∈ config.routes, ∀ name ∈ route.policies,
    Text.trim name ≠ "" ∧ ∃ policy ∈ config.policies, policy.name = name
  /-- The names and values of the header fields that routes declare are legal. -/
  headers : ∀ route ∈ config.routes, ∀ field ∈ route.headers.entries,
    (∃ name, FieldName.read? field.1 = some name) ∧ ∃ value, FieldValue.read? field.2 = some value
  /-- At least one attempt may be made. -/
  attempts : 1 ≤ config.retries.maxAttempts.toNat
  /-- There are no routes, or the URL of the backend has the scheme `http`. -/
  backend : config.routes = [] ∨ Url.isHttp config.backend.url = true

/-! ## Lists of findings -/

/-- A list of findings holds what a relation tells of places, in the order of the places, and each
once. -/
def Lists (findings : List Finding) (defect : Place → Finding → Prop) : Prop :=
  ∃ listed : List (Place × Finding), findings = listed.map Prod.snd ∧
    listed.Pairwise (fun first second => first.1 < second.1) ∧
    ∀ place finding, (place, finding) ∈ listed ↔ defect place finding

namespace Lists

variable {findings others : List Finding} {defect other : Place → Finding → Prop}

/-- What is listed depends on what the relation tells alone. -/
theorem congr (lists : Lists findings defect)
    (same : ∀ place finding, defect place finding ↔ other place finding) :
    Lists findings other := by
  obtain ⟨listed, eq, ordered, mem⟩ := lists
  exact ⟨listed, eq, ordered, fun place finding => (mem place finding).trans (same place finding)⟩

/-- Where nothing is told, nothing is listed. -/
theorem nil (nothing : ∀ place finding, ¬ defect place finding) : Lists [] defect :=
  ⟨[], rfl, .nil, fun place finding => by simp [nothing place finding]⟩

/-- A single defect is listed alone. -/
theorem single (place : Place) (finding : Finding) :
    Lists [finding] fun spot found => spot = place ∧ found = finding :=
  ⟨[(place, finding)], rfl, List.pairwise_singleton _ _, by simp⟩

/-- A defect that there is under a condition is listed under the condition. -/
theorem ite {condition : Prop} [Decidable condition] (place : Place) (finding : Finding) :
    Lists (if condition then [finding] else [])
      fun spot found => condition ∧ spot = place ∧ found = finding := by
  by_cases holds : condition
  · rw [if_pos holds]
    exact (single place finding).congr fun _ _ => by simp [holds]
  · rw [if_neg holds]
    exact nil fun _ _ told => holds told.1

/-- Two lists make up one if the places of the first come before those of the second. -/
theorem append (first : Lists findings defect) (second : Lists others other)
    (ordered : ∀ place finding later another, defect place finding → other later another →
      place < later) :
    Lists (findings ++ others) fun place finding =>
      defect place finding ∨ other place finding := by
  obtain ⟨listed, rfl, sorted, mem⟩ := first
  obtain ⟨further, rfl, sorted', mem'⟩ := second
  refine ⟨listed ++ further, List.map_append.symm, List.pairwise_append.2 ⟨sorted, sorted', ?_⟩, ?_⟩
  · rintro ⟨place, finding⟩ here ⟨later, another⟩ there
    exact ordered place finding later another ((mem _ _).1 here) ((mem' _ _).1 there)
  · intro place finding
    rw [List.mem_append, mem, mem']

/-- Nothing is listed exactly where nothing is told. -/
theorem eq_nil_iff (lists : Lists findings defect) :
    findings = [] ↔ ∀ place finding, ¬ defect place finding := by
  obtain ⟨listed, rfl, -, mem⟩ := lists
  rw [List.map_eq_nil_iff, List.eq_nil_iff_forall_not_mem]
  constructor
  · exact fun nothing place finding told => nothing (place, finding) ((mem _ _).2 told)
  · exact fun nothing entry listed => nothing entry.1 entry.2 ((mem _ _).1 listed)

section

variable {α : Type} {items : List α} {item : α} {told : Nat → α → Place → Finding → Prop}

/-- What the first item of a list shows and what the others show make up what the whole list
shows. -/
theorem cons (head : Lists findings (told 0 item))
    (tail : Lists others fun place finding =>
      ∃ index next, items[index]? = some next ∧ told (index + 1) next place finding)
    (ordered : ∀ place finding later another index next, told 0 item place finding →
      told (index + 1) next later another → place < later) :
    Lists (findings ++ others) fun place finding =>
      ∃ index next, (item :: items)[index]? = some next ∧ told index next place finding := by
  refine (head.append tail ?_).congr fun place finding => ?_
  · rintro place finding later another here ⟨index, next, -, there⟩
    exact ordered place finding later another index next here there
  · constructor
    · rintro (here | ⟨index, next, there, shows⟩)
      · exact ⟨0, item, rfl, here⟩
      · exact ⟨index + 1, next, there, shows⟩
    · rintro ⟨_ | index, next, there, shows⟩
      · obtain rfl := Option.some.inj there
        exact .inl shows
      · exact .inr ⟨index, next, there, shows⟩

/-- The bad items of a list are listed one by one, in their order. -/
theorem filter {bad : α → Bool} {finding : α → Finding} (place : Nat → Place)
    (ordered : ∀ first second, first < second → place first < place second) :
    Lists ((items.filter bad).map finding) fun spot found => ∃ index next,
      items[index]? = some next ∧ bad next = true ∧ spot = place index ∧ found = finding next := by
  induction items generalizing place with
  | nil => exact nil (by simp)
  | cons item items ih =>
    have tail := ih (fun index => place (index + 1)) fun first second below =>
      ordered _ _ (Nat.succ_lt_succ below)
    let told : Nat → α → Place → Finding → Prop := fun index next spot found =>
      bad next = true ∧ spot = place index ∧ found = finding next
    have head : Lists (if bad item = true then [finding item] else []) (told 0 item) :=
      ite (place 0) (finding item)
    have split : ((item :: items).filter bad).map finding =
        (if bad item = true then [finding item] else []) ++ (items.filter bad).map finding := by
      by_cases fault : bad item = true <;> simp [fault]
    rw [split]
    refine head.cons tail ?_
    rintro _ _ _ _ index next ⟨-, rfl, -⟩ ⟨-, rfl, -⟩
    exact ordered _ _ (Nat.succ_pos index)

end

end Lists

/-! ## Policies -/

/-- A text is blank exactly when nothing is left of it without the white space at its ends. -/
theorem isBlankText_iff {s : String} : isBlankText s = true ↔ Text.trim s = "" := by
  unfold isBlankText Text.trim
  rw [List.all_eq_true, ← String.ofList_nil, String.ofList_inj]
  constructor
  · intro blank
    have gone : s.toList.dropWhile Text.isBlank = [] := List.dropWhile_eq_nil_iff.2 blank
    rw [Text.strip, gone]
    rfl
  · intro nothing c mem
    refine Bool.of_not_eq_false fun stays => ?_
    have kept := Text.mem_strip_of_not stays mem
    rw [nothing] at kept
    exact List.not_mem_nil kept

/-- A name is blank, or it was seen before. -/
def NameDefect (seen : List String) (name : String) (finding : Finding) : Prop :=
  (Text.trim name = "" ∧ finding = .emptyPolicyName) ∨
    (Text.trim name ≠ "" ∧ name ∈ seen ∧ finding = .duplicatePolicy name)

/-- What is wrong with a name depends only on whether it was seen, and not even on that if it is
blank. -/
theorem nameDefect_congr {seen known : List String} {name : String} {finding : Finding}
    (same : Text.trim name ≠ "" → (name ∈ seen ↔ name ∈ known)) :
    NameDefect seen name finding ↔ NameDefect known name finding :=
  or_congr Iff.rfl (and_congr_right fun filled => and_congr_left fun _ => same filled)

/-- The name of the first policy is listed if it is blank or was seen before, and after it a name
that is not blank was seen if it was before or is that of the first policy. -/
theorem exists_policyFindings_cons (seen : List String) (policy : PolicyConfig)
    (rest : List PolicyConfig) :
    ∃ head known, policyFindings seen (policy :: rest) = head ++ policyFindings known rest ∧
      (∀ place, Lists head fun spot finding =>
        spot = place ∧ NameDefect seen policy.name finding) ∧
      ∀ name, Text.trim name ≠ "" → (name ∈ known ↔ name ∈ seen ++ [policy.name]) := by
  by_cases blank : Text.trim policy.name = ""
  · refine ⟨[.emptyPolicyName], seen, ?_, fun place => ?_, fun name filled => ?_⟩
    · rw [policyFindings, if_pos (isBlankText_iff.2 blank)]
      rfl
    · exact (Lists.single place _).congr fun spot finding => by simp [NameDefect, blank]
    · have other : name ≠ policy.name := fun same => filled (same ▸ blank)
      simp [other]
  by_cases repeated : policy.name ∈ seen
  · refine ⟨[.duplicatePolicy policy.name], seen, ?_, fun place => ?_, fun name _ => ?_⟩
    · rw [policyFindings, if_neg (mt isBlankText_iff.1 blank), if_pos (by simpa using repeated)]
      rfl
    · exact (Lists.single place _).congr fun spot finding => by
        simp [NameDefect, blank, repeated]
    · constructor
      · exact List.mem_append_left _
      · intro before
        rcases List.mem_append.1 before with before | same
        · exact before
        · exact List.mem_singleton.1 same ▸ repeated
  · refine ⟨[], policy.name :: seen, ?_, fun place => ?_, fun name _ => ?_⟩
    · rw [policyFindings, if_neg (mt isBlankText_iff.1 blank), if_neg (by simpa using repeated)]
      rfl
    · exact .nil fun spot finding told => by simp [NameDefect, blank, repeated] at told
    · rw [List.mem_cons, List.mem_append, List.mem_singleton, or_comm]

/-- Policies are listed by what is wrong with their names, given those of the policies before. -/
theorem lists_policyFindings (seen : List String) (start : Nat) (policies : List PolicyConfig) :
    Lists (policyFindings seen policies) fun place finding => ∃ index policy,
      policies[index]? = some policy ∧ place = .policy (start + index) ∧
        NameDefect (seen ++ (policies.take index).map PolicyConfig.name) policy.name finding := by
  induction policies generalizing seen start with
  | nil => exact .nil (by simp)
  | cons policy rest ih =>
    obtain ⟨head, known, split, first, names⟩ := exists_policyFindings_cons seen policy rest
    let told : Nat → PolicyConfig → Place → Finding → Prop := fun index next place finding =>
      place = .policy (start + index) ∧
        NameDefect (seen ++ ((policy :: rest).take index).map PolicyConfig.name) next.name finding
    have here : Lists head (told 0 policy) := by
      refine (first (.policy start)).congr fun place finding => ?_
      simp [told]
    have later : Lists (policyFindings known rest) fun place finding =>
        ∃ index next, rest[index]? = some next ∧ told (index + 1) next place finding := by
      refine (ih known (start + 1)).congr fun place finding => ?_
      refine exists_congr fun index => exists_congr fun next => and_congr_right fun _ => ?_
      have shift : start + 1 + index = start + (index + 1) := by omega
      rw [shift]
      refine and_congr_right fun _ => nameDefect_congr fun filled => ?_
      have before := names next.name filled
      rw [List.mem_append, before, List.take_succ_cons, List.map_cons, ← List.mem_append,
        List.append_assoc, List.singleton_append]
    rw [split]
    refine here.cons later ?_
    rintro _ _ _ _ index next ⟨rfl, -⟩ ⟨rfl, -⟩
    simp [Place.lt_iff, Place.position, List.cons_lt_cons_iff]

/-! ## Routes -/

namespace Config

variable {config : Config}

/-- A policy is not there under a name that is blank or that no policy has. -/
theorem defines_eq_false_iff {name : String} :
    config.defines name = false ↔
      Text.trim name = "" ∨ name ∉ config.policies.map PolicyConfig.name := by
  rw [defines, Bool.and_eq_false_iff, Bool.not_eq_false', isBlankText_iff, List.any_eq_false,
    List.mem_map]
  simp

/-- What is wrong with a route, part by part. -/
def RouteDefect (config : Config) (index : Nat) (route : RouteConfig) (place : Place)
    (finding : Finding) : Prop :=
  ((((normalizeMethod route.method ∉ knownMethods ∧ place = .method index ∧
          finding = .unknownMethod index route.method) ∨
        (Text.trim route.command = "" ∧ place = .command index ∧ finding = .emptyCommand index)) ∨
      ∃ fault, Template.compile route.path = .error fault ∧ place = .template index ∧
        finding = .invalidTemplate index fault) ∨
    ∃ number name, route.policies[number]? = some name ∧
      (Text.trim name = "" ∨ name ∉ config.policies.map PolicyConfig.name) ∧
      place = .reference index number ∧ finding = .undefinedPolicy index name) ∨
  ∃ number field, route.headers.entries[number]? = some field ∧
    (FieldName.read? field.1 = none ∨ FieldValue.read? field.2 = none) ∧
    place = .header index number ∧ finding = .invalidHeader index field.1

end Config

/-- The template of a route is listed if it does not compile. -/
theorem lists_templateFindings (index : Nat) (path : String) :
    Lists (templateFindings index path) fun place finding => ∃ fault,
      Template.compile path = .error fault ∧ place = .template index ∧
        finding = .invalidTemplate index fault := by
  unfold templateFindings
  cases compiled : Template.compile path with
  | ok template => exact .nil (by simp)
  | error fault => exact (Lists.single (.template index) _).congr fun _ _ => by simp

/-- The parts of a route are listed one after the other. -/
theorem lists_routeFindings (config : Config) (index : Nat) (route : RouteConfig) :
    Lists (config.routeFindings index route) (config.RouteDefect index route) := by
  have methods : Lists (if knownMethods.contains (normalizeMethod route.method) then []
      else [.unknownMethod index route.method]) fun place finding =>
        normalizeMethod route.method ∉ knownMethods ∧ place = .method index ∧
          finding = .unknownMethod index route.method := by
    rw [← ite_not]
    exact (Lists.ite (.method index) _).congr fun _ _ => by simp
  have commands : Lists (if isBlankText route.command then [.emptyCommand index] else [])
      fun place finding => Text.trim route.command = "" ∧ place = .command index ∧
        finding = .emptyCommand index :=
    (Lists.ite (.command index) _).congr fun _ _ => and_congr_left fun _ => isBlankText_iff
  have references : Lists ((route.policies.filter (!config.defines ·)).map
      (.undefinedPolicy index)) fun place finding => ∃ number name,
        route.policies[number]? = some name ∧
          (Text.trim name = "" ∨ name ∉ config.policies.map PolicyConfig.name) ∧
          place = .reference index number ∧ finding = .undefinedPolicy index name := by
    refine (Lists.filter (Place.reference index) fun _ _ below => ?_).congr fun _ _ => ?_
    · simp [Place.lt_iff, Place.position, List.cons_lt_cons_iff, below]
    · simp only [Bool.not_eq_true', Config.defines_eq_false_iff]
  have headers : Lists ((route.headers.entries.filter (!isLegalField ·)).map fun field =>
      .invalidHeader index field.1) fun place finding => ∃ number field,
        route.headers.entries[number]? = some field ∧
          (FieldName.read? field.1 = none ∨ FieldValue.read? field.2 = none) ∧
          place = .header index number ∧ finding = .invalidHeader index field.1 := by
    refine (Lists.filter (Place.header index) fun _ _ below => ?_).congr fun _ _ => ?_
    · simp [Place.lt_iff, Place.position, List.cons_lt_cons_iff, below]
    · simp only [isLegalField, Bool.not_eq_true', Bool.and_eq_false_iff,
        Option.isSome_eq_false_iff, Option.isNone_iff_eq_none]
  refine (((methods.append commands ?_).append (lists_templateFindings index _) ?_).append
    references ?_).append headers ?_
  · rintro _ _ _ _ ⟨-, rfl, -⟩ ⟨-, rfl, -⟩
    simp [Place.lt_iff, Place.position, List.cons_lt_cons_iff]
  · rintro _ _ _ _ (⟨-, rfl, -⟩ | ⟨-, rfl, -⟩) ⟨_, -, rfl, -⟩ <;>
      simp [Place.lt_iff, Place.position, List.cons_lt_cons_iff]
  · rintro _ _ _ _ ((⟨-, rfl, -⟩ | ⟨-, rfl, -⟩) | ⟨_, -, rfl, -⟩) ⟨_, _, -, -, rfl, -⟩ <;>
      simp [Place.lt_iff, Place.position, List.cons_lt_cons_iff]
  · rintro _ _ _ _ (((⟨-, rfl, -⟩ | ⟨-, rfl, -⟩) | ⟨_, -, rfl, -⟩) | ⟨_, _, -, -, rfl, -⟩)
      ⟨_, _, -, -, rfl, -⟩ <;>
      simp [Place.lt_iff, Place.position, List.cons_lt_cons_iff]

/-- A place at which something is wrong with a route is one of the route's own. -/
theorem Config.RouteDefect.position {config : Config} {index : Nat} {route : RouteConfig}
    {place : Place} {finding : Finding} (defect : config.RouteDefect index route place finding) :
    ∃ rest, place.position = 1 :: index :: rest := by
  rcases defect with (((⟨-, rfl, -⟩ | ⟨-, rfl, -⟩) | ⟨_, -, rfl, -⟩) | ⟨_, _, -, -, rfl, -⟩) |
    ⟨_, _, -, -, rfl, -⟩ <;> exact ⟨_, rfl⟩

/-- Routes are listed one after the other. -/
theorem lists_routesFindings (config : Config) (start : Nat) (routes : List RouteConfig) :
    Lists (config.routesFindings start routes) fun place finding => ∃ index route,
      routes[index]? = some route ∧ config.RouteDefect (start + index) route place finding := by
  induction routes generalizing start with
  | nil => exact .nil (by simp)
  | cons route rest ih =>
    let told : Nat → RouteConfig → Place → Finding → Prop := fun index next =>
      config.RouteDefect (start + index) next
    have here : Lists (config.routeFindings start route) (told 0 route) :=
      lists_routeFindings config start route
    have later : Lists (config.routesFindings (start + 1) rest) fun place finding =>
        ∃ index next, rest[index]? = some next ∧ told (index + 1) next place finding := by
      refine (ih (start + 1)).congr fun place finding => ?_
      refine exists_congr fun index => exists_congr fun next => and_congr_right fun _ => ?_
      have shift : start + 1 + index = start + (index + 1) := by omega
      rw [shift]
    rw [Config.routesFindings]
    refine here.cons later ?_
    intro place finding place' another index next first second
    obtain ⟨_, position⟩ := first.position
    obtain ⟨_, position'⟩ := second.position
    rw [Place.lt_iff, position, position']
    simp [List.cons_lt_cons_iff]

/-! ## The whole check -/

namespace Config

variable {config : Config}

/-- What is wrong with one of the routes is a defect of the configuration. -/
theorem RouteDefect.defect {index : Nat} {route : RouteConfig} {place : Place} {finding : Finding}
    (wrong : config.RouteDefect index route place finding)
    (there : config.routes[index]? = some route) : config.Defect place finding := by
  rcases wrong with (((⟨unknown, rfl, rfl⟩ | ⟨blank, rfl, rfl⟩) | ⟨_, failed, rfl, rfl⟩) |
    ⟨_, _, asked, unfit, rfl, rfl⟩) | ⟨_, _, declared, illegal, rfl, rfl⟩
  · exact .unknownMethod there unknown
  · exact .emptyCommand there blank
  · exact .invalidTemplate there failed
  · exact .undefinedPolicy there asked unfit
  · exact .invalidHeader there declared illegal

/-- The parts of a configuration are listed one after the other. -/
theorem lists_findings (config : Config) : Lists config.findings config.Defect := by
  have policies := lists_policyFindings [] 0 config.policies
  have routes := lists_routesFindings config 0 config.routes
  have attempts : Lists (if config.retries.maxAttempts = 0 then [.zeroAttempts] else [])
      fun place finding => config.retries.maxAttempts = 0 ∧ place = .attempts ∧
        finding = .zeroAttempts := Lists.ite .attempts _
  have backend : Lists (if !config.routes.isEmpty && !Url.isHttp config.backend.url then
        [.invalidBackendUrl config.backend.url] else [])
      fun place finding => (config.routes ≠ [] ∧ Url.isHttp config.backend.url = false) ∧
        place = .backend ∧ finding = .invalidBackendUrl config.backend.url :=
    (Lists.ite .backend _).congr fun _ _ => and_congr_left fun _ => by simp
  refine (((policies.append routes ?_).append attempts ?_).append backend ?_).congr
    fun place finding => ?_
  · rintro _ _ _ _ ⟨_, _, -, rfl, -⟩ ⟨_, _, -, wrong⟩
    obtain ⟨_, position⟩ := wrong.position
    rw [Place.lt_iff, position]
    simp [Place.position, List.cons_lt_cons_iff]
  · rintro _ _ _ _ (⟨_, _, -, rfl, -⟩ | ⟨_, _, -, wrong⟩) ⟨-, rfl, -⟩
    · simp [Place.lt_iff, Place.position, List.cons_lt_cons_iff]
    · obtain ⟨_, position⟩ := wrong.position
      rw [Place.lt_iff, position]
      simp [Place.position, List.cons_lt_cons_iff]
  · rintro _ _ _ _ ((⟨_, _, -, rfl, -⟩ | ⟨_, _, -, wrong⟩) | ⟨-, rfl, -⟩) ⟨-, rfl, -⟩
    · simp [Place.lt_iff, Place.position, List.cons_lt_cons_iff]
    · obtain ⟨_, position⟩ := wrong.position
      rw [Place.lt_iff, position]
      simp [Place.position, List.cons_lt_cons_iff]
    · simp [Place.lt_iff, Place.position, List.cons_lt_cons_iff]
  simp only [Nat.zero_add, List.nil_append]
  constructor
  · rintro (((⟨index, policy, there, rfl, ⟨blank, rfl⟩ | ⟨filled, earlier, rfl⟩⟩ |
      ⟨index, route, there, wrong⟩) | ⟨none, rfl, rfl⟩) | ⟨⟨some, invalid⟩, rfl, rfl⟩)
    · exact .emptyPolicyName there blank
    · exact .duplicatePolicy there filled earlier
    · exact wrong.defect there
    · exact .zeroAttempts none
    · exact .invalidBackendUrl some invalid
  · intro defect
    cases defect with
    | emptyPolicyName there blank => exact .inl (.inl (.inl ⟨_, _, there, rfl, .inl ⟨blank, rfl⟩⟩))
    | duplicatePolicy there filled earlier =>
      exact .inl (.inl (.inl ⟨_, _, there, rfl, .inr ⟨filled, earlier, rfl⟩⟩))
    | unknownMethod there unknown =>
      exact .inl (.inl (.inr ⟨_, _, there, .inl (.inl (.inl (.inl ⟨unknown, rfl, rfl⟩)))⟩))
    | emptyCommand there blank =>
      exact .inl (.inl (.inr ⟨_, _, there, .inl (.inl (.inl (.inr ⟨blank, rfl, rfl⟩)))⟩))
    | invalidTemplate there failed =>
      exact .inl (.inl (.inr ⟨_, _, there, .inl (.inl (.inr ⟨_, failed, rfl, rfl⟩))⟩))
    | undefinedPolicy there asked unfit =>
      exact .inl (.inl (.inr ⟨_, _, there, .inl (.inr ⟨_, _, asked, unfit, rfl, rfl⟩)⟩))
    | invalidHeader there declared illegal =>
      exact .inl (.inl (.inr ⟨_, _, there, .inr ⟨_, _, declared, illegal, rfl, rfl⟩⟩))
    | zeroAttempts none => exact .inl (.inr ⟨none, rfl, rfl⟩)
    | invalidBackendUrl some invalid => exact .inr ⟨⟨some, invalid⟩, rfl, rfl⟩

/-- The names of policies are pairwise distinct exactly when no policy has the name of an earlier
one. -/
theorem nodup_names_iff {policies : List PolicyConfig} :
    (policies.map PolicyConfig.name).Nodup ↔ ∀ index policy, policies[index]? = some policy →
      policy.name ∉ (policies.take index).map PolicyConfig.name := by
  rw [List.nodup_iff_getElem?_ne_getElem?]
  constructor
  · intro distinct index policy there earlier
    obtain ⟨place, below, same⟩ := List.mem_iff_getElem.1 earlier
    rw [List.length_map, List.length_take] at below
    obtain ⟨inside, -⟩ := List.getElem?_eq_some_iff.1 there
    refine distinct place index (by omega) (by rwa [List.length_map]) ?_
    rw [List.getElem_map, List.getElem_take] at same
    rw [List.getElem?_map, List.getElem?_map, there, List.getElem?_eq_getElem (by omega)]
    exact congrArg some same
  · intro unseen first second before inside same
    rw [List.length_map] at inside
    have there : policies[second]? = some policies[second] := List.getElem?_eq_getElem inside
    refine unseen second policies[second] there (List.mem_map.2 ⟨policies[first], ?_, ?_⟩)
    · exact List.mem_take_iff_getElem.2 ⟨first, by omega, rfl⟩
    · rw [List.getElem?_map, List.getElem?_map, there, List.getElem?_eq_getElem (by omega)] at same
      exact Option.some.inj same

/-- A check finds nothing exactly when the configuration is sound. -/
theorem findings_eq_nil_iff : config.findings = [] ↔ config.Sound := by
  rw [(lists_findings config).eq_nil_iff]
  constructor
  · intro nothing
    have filled : ∀ policy ∈ config.policies, Text.trim policy.name ≠ "" := by
      intro policy mem
      obtain ⟨index, there⟩ := List.mem_iff_getElem?.1 mem
      exact fun blank => nothing _ _ (.emptyPolicyName there blank)
    constructor
    case named => exact filled
    case distinct =>
      refine nodup_names_iff.2 fun index policy there earlier => ?_
      exact nothing _ _
        (.duplicatePolicy there (filled policy (List.mem_of_getElem? there)) earlier)
    case methods =>
      intro route mem
      obtain ⟨index, there⟩ := List.mem_iff_getElem?.1 mem
      exact by_contra fun unknown => nothing _ _ (.unknownMethod there unknown)
    case commands =>
      intro route mem blank
      obtain ⟨index, there⟩ := List.mem_iff_getElem?.1 mem
      exact nothing _ _ (.emptyCommand there blank)
    case templates =>
      intro route mem
      obtain ⟨index, there⟩ := List.mem_iff_getElem?.1 mem
      cases compiled : Template.compile route.path with
      | ok template => exact ⟨template, rfl⟩
      | error fault => exact (nothing _ _ (.invalidTemplate there compiled)).elim
    case references =>
      intro route mem name asked
      obtain ⟨index, there⟩ := List.mem_iff_getElem?.1 mem
      obtain ⟨number, asked⟩ := List.mem_iff_getElem?.1 asked
      have fit := mt (Defect.undefinedPolicy there asked) (nothing _ _)
      rw [not_or, not_not, List.mem_map] at fit
      exact fit
    case headers =>
      rintro route mem ⟨name, value⟩ declared
      obtain ⟨index, there⟩ := List.mem_iff_getElem?.1 mem
      obtain ⟨number, declared⟩ := List.mem_iff_getElem?.1 declared
      have legal := mt (Defect.invalidHeader there declared) (nothing _ _)
      rw [not_or] at legal
      exact ⟨Option.ne_none_iff_exists'.1 legal.1, Option.ne_none_iff_exists'.1 legal.2⟩
    case attempts =>
      have some : config.retries.maxAttempts ≠ 0 := fun none => nothing _ _ (.zeroAttempts none)
      have positive : config.retries.maxAttempts.toNat ≠ 0 := fun zero =>
        some (UInt32.toNat_inj.1 zero)
      omega
    case backend =>
      by_cases none : config.routes = []
      · exact .inl none
      · refine .inr (Bool.of_not_eq_false fun invalid => ?_)
        exact nothing _ _ (.invalidBackendUrl none invalid)
  · intro sound place finding defect
    cases defect with
    | emptyPolicyName there blank => exact sound.named _ (List.mem_of_getElem? there) blank
    | duplicatePolicy there filled earlier =>
      exact nodup_names_iff.1 sound.distinct _ _ there earlier
    | unknownMethod there unknown => exact unknown (sound.methods _ (List.mem_of_getElem? there))
    | emptyCommand there blank => exact sound.commands _ (List.mem_of_getElem? there) blank
    | invalidTemplate there failed =>
      obtain ⟨template, compiled⟩ := sound.templates _ (List.mem_of_getElem? there)
      rw [compiled] at failed
      cases failed
    | undefinedPolicy there asked unfit =>
      obtain ⟨filled, policy, mem, name⟩ :=
        sound.references _ (List.mem_of_getElem? there) _ (List.mem_of_getElem? asked)
      rcases unfit with blank | absent
      · exact filled blank
      · exact absent (List.mem_map.2 ⟨policy, mem, name⟩)
    | invalidHeader there declared illegal =>
      obtain ⟨⟨name, legal⟩, value, legal'⟩ :=
        sound.headers _ (List.mem_of_getElem? there) _ (List.mem_of_getElem? declared)
      rcases illegal with illegal | illegal
      · rw [legal] at illegal
        cases illegal
      · rw [legal'] at illegal
        cases illegal
    | zeroAttempts none =>
      have some := sound.attempts
      rw [none] at some
      contradiction
    | invalidBackendUrl some invalid =>
      rcases sound.backend with none | valid
      · exact some none
      · rw [valid] at invalid
        cases invalid

/-- The findings of a check are the defects of the configuration, in the order of their places and
each once, and there are none exactly when the configuration is sound. -/
theorem findings_exact (config : Config) :
    (config.findings = [] ↔ config.Sound) ∧
      ∃ listed : List (Place × Finding), config.findings = listed.map Prod.snd ∧
        listed.Pairwise (fun first second => first.1 < second.1) ∧
        ∀ place finding, (place, finding) ∈ listed ↔ config.Defect place finding :=
  ⟨findings_eq_nil_iff, lists_findings config⟩

end Config

end HttpGateway
