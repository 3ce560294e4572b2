import HttpGateway.Routing.Table

/-!
# Building a table call by call

A call adds a plain route at the end of a table and answers with the place of the route. If the
template does not compile it answers with the fault and adds nothing. The route is then configured
at its place, one step with each further call. A registration is a call with the steps that follow.
-/

namespace HttpGateway

/-- The methods with a call of their own. -/
inductive Verb
  /-- Read something. -/
  | get
  /-- Send something. -/
  | post
  /-- Replace something. -/
  | put
  /-- Remove something. -/
  | delete
  /-- Change something in part. -/
  | patch
deriving DecidableEq, Repr

/-- The method of a verb. -/
def Verb.method : Verb → String
  | get => "GET"
  | post => "POST"
  | put => "PUT"
  | delete => "DELETE"
  | patch => "PATCH"

/-- A call that adds a route to a table. -/
inductive Call (κ : Type)
  /-- Add a route with any method and any shape. -/
  | map (method path : String) (shape : Shape) (build : Context → Except Failure κ)
  /-- Add a route with the method of a verb, which is answered with a body. -/
  | mapVerb (verb : Verb) (path : String) (build : Context → Except Failure κ)

/-- The registration that a call and the steps after it make up. -/
def Call.registration {κ : Type} (steps : List Route.Step) : Call κ → Registration κ
  | map method path shape build => ⟨method, path, shape, build, steps⟩
  | mapVerb verb path build => ⟨verb.method, path, .ok, build, steps⟩

namespace Table

variable {κ : Type}

/-- Add a plain route, and answer with its place or with the fault of its template. -/
def map (table : Table κ) (method path : String) (shape : Shape)
    (build : Context → Except Failure κ) : Except DuplicateParameter Nat × Table κ :=
  match Template.compile path with
  | .error fault => (.error fault, table)
  | .ok template =>
    (.ok table.routes.length,
      ⟨table.routes ++
        [⟨normalizeMethod method, template, build, shape, .authenticated, none, []⟩]⟩)

/-- Add a plain route with the method of a verb. -/
def mapVerb (table : Table κ) (verb : Verb) (path : String) (build : Context → Except Failure κ) :
    Except DuplicateParameter Nat × Table κ :=
  table.map verb.method path .ok build

/-- The answer to a call, and the table after it. -/
def call (table : Table κ) : Call κ → Except DuplicateParameter Nat × Table κ
  | .map method path shape build => table.map method path shape build
  | .mapVerb verb path build => table.mapVerb verb path build

/-- The table after a step in configuring the route at a place. -/
def configureAt (table : Table κ) (place : Nat) (step : Route.Step) : Table κ :=
  ⟨table.routes.modify place (·.apply step)⟩

/-- The table after a call and the steps in configuring the route, if the call adds one. -/
def perform (table : Table κ) (call : Call κ) (steps : List Route.Step) : Table κ :=
  match table.call call with
  | (.error _, same) => same
  | (.ok place, more) => steps.foldl (fun table step => table.configureAt place step) more

/-- The table after several calls, each with the steps that follow it. -/
def performAll (table : Table κ) (calls : List (Call κ × List Route.Step)) : Table κ :=
  calls.foldl (fun table made => table.perform made.1 made.2) table

end Table

end HttpGateway
