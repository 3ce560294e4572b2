import HttpGateway.Routing.Route

/-!
# The table of routes

Routes are kept in the order of their registration. A request goes to the first route that has
its method and whose template fits its path; routes that overlap are no error.
-/

namespace HttpGateway

/-- A route to be registered. -/
structure Registration (κ : Type) where
  /-- The method in any letter case. -/
  method : String
  /-- The template of the path. -/
  path : String
  /-- How a success is answered. -/
  shape : Shape
  /-- Builds the command for a request. -/
  build : Context → Except Failure κ
  /-- The steps that configure the route. -/
  steps : List Route.Step

/-- The route that a registration without its steps stands for. -/
def Registration.plainRoute? {κ : Type} (r : Registration κ) :
    Except DuplicateParameter (Route κ) :=
  (Template.compile r.path).map fun template =>
    ⟨normalizeMethod r.method, template, r.build, r.shape, .authenticated, none, []⟩

/-- The route that a registration stands for. -/
def Registration.route? {κ : Type} (r : Registration κ) : Except DuplicateParameter (Route κ) :=
  r.plainRoute?.map (·.configure r.steps)

/-- Routes in the order of their registration. -/
structure Table (κ : Type) where
  /-- The routes. -/
  routes : List (Route κ)

/-- A route that was found for a request. -/
structure Match (κ : Type) where
  /-- The number of routes before it in the table. -/
  index : Nat
  /-- The route. -/
  route : Route κ
  /-- The values of the path parameters, by parameter name in lower case. -/
  parameters : Dict String

namespace Table

variable {κ : Type}

/-- No routes. -/
def empty : Table κ := ⟨[]⟩

instance : EmptyCollection (Table κ) := ⟨empty⟩

instance : Inhabited (Table κ) := ⟨empty⟩

/-- The table with one more route at the end. -/
def register (table : Table κ) (r : Registration κ) : Except DuplicateParameter (Table κ) :=
  r.route?.map fun route => ⟨table.routes ++ [route]⟩

/-- The first route that fits a method and a path in normal form, with the routes numbered from
`index`. -/
def firstFit? (method path : String) (index : Nat) : List (Route κ) → Option (Match κ)
  | [] => none
  | route :: rest =>
    match route.fit? method path with
    | some parameters => some ⟨index, route, parameters⟩
    | none => firstFit? method path (index + 1) rest

/-- The route that a request goes to. -/
def match? (table : Table κ) (method path : String) : Option (Match κ) :=
  firstFit? (normalizeMethod method) (Path.normalize path) 0 table.routes

end Table

end HttpGateway
