import RequestDispatch.Routing.Outline
import RequestDispatch.Routing.Path
import RequestDispatch.Http.Status

/-!
# The router

A router keeps one tree for all methods beside the flat list of its routes.  `Router.add` refuses
templates that cannot be parsed and a second route of one method and shape; `Router.lookup` tells a
path that no route matches from one that only other methods match.
-/

namespace RequestDispatch.Routing

/-- What is known of a registered route. -/
structure RouteDescription where
  method : Method
  template : String
  /-- Names of the parameters and the catch-all, in template order. -/
  paramNames : List String
  handlerName : String
  deriving DecidableEq, Repr

/-- A registered route together with what is to be done for it. -/
structure Endpoint (α : Type) where
  route : RouteDescription
  action : α

/-- One entry of the flat list of routes. -/
structure Route where
  method : Method
  path : String
  handlerName : String
  deriving DecidableEq, Repr

inductive Lookup (α : Type) where
  | found (endpoint : Endpoint α)
  /-- The path matches under these methods only, in the order in which they were met. -/
  | methodNotAllowed (allowed : List Method)
  | notFound

namespace Lookup

variable {α : Type}

/-- The status with which the outcome is answered when nothing else decides. -/
def status : Lookup α → Status
  | .found _ => .ok
  | .methodNotAllowed _ => .methodNotAllowed
  | .notFound => .notFound

def allowed : Lookup α → List Method
  | .methodNotAllowed methods => methods
  | _ => []

end Lookup

structure Router (α : Type) where
  root : Node (Endpoint α)
  /-- All routes, in order of registration. -/
  routes : List Route
  /-- The largest number of parameters of any route. -/
  maxParams : Nat

namespace Router

variable {α : Type}

def empty : Router α := ⟨.empty, [], 0⟩

/-- Registers an action.  The template must be in canonical form. -/
def add (router : Router α) (method : Method) (path handlerName : String) (action : α) :
    Except RouteError (RouteDescription × Router α) := do
  let segments ← Template.parse path
  let names := paramNames segments
  let route : RouteDescription := ⟨method, path, names, handlerName⟩
  match router.root.insert method ⟨route, action⟩ (shape segments) with
  | .error owner => .error (.duplicateRoute method path owner.route.template)
  | .ok root =>
    .ok (route, ⟨root, router.routes ++ [⟨method, path, handlerName⟩],
      max router.maxParams names.length⟩)

/-- Resolves a method and a path as it stands.  The buffer is cleared first; afterwards it holds the
captures of the endpoint found, and nothing otherwise. -/
def lookup (router : Router α) (method : Method) (path : String) (buffer : Captures) :
    Lookup α × Captures :=
  match router.root.search method path.toList 0 ⟨buffer.clear, []⟩ with
  | (some endpoint, f) => (.found endpoint, f.captures)
  | (none, f) =>
    (if f.allowed.isEmpty then .notFound else .methodNotAllowed f.allowed, f.captures)

/-- The tree as text, one point per line. -/
def render (router : Router α) : String := router.root.render

/-- Applies a function to every action. -/
def map {β : Type} (g : α → β) (router : Router α) : Router β :=
  { router with root := router.root.map fun e => ⟨e.route, g e.action⟩ }

end Router

end RequestDispatch.Routing
