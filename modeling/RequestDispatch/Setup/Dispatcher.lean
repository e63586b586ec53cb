import RequestDispatch.Config.Settings
import RequestDispatch.Serving.Builtin

/-!
# Dispatchers

A dispatcher collects routes, middleware and handlers.  Groups share a path and a stack of middleware
that is kept as a numbered scope; a route remembers the scope that owns it, so that middleware which a
group adds later still wraps its routes.  `build` composes every chain anew and freezes the result.

Setup steps run in `Setup`: they change the dispatcher, report events, and may fail with what they did
before left in place.
-/

namespace RequestDispatch

open Routing (Router Lookup RouteDescription Captures)

/-- The action of a route: its handler, the group scope that owns it, and the middleware around the
handler as it was last composed. -/
structure Mount where
  scope : Option Nat
  chain : Chain

structure Dispatcher where
  router : Router Mount
  notFound : Handler
  methodNotAllowed : Handler
  /-- Global middleware, outermost first. -/
  middleware : List Middleware
  /-- The middleware stack of every group, by scope number. -/
  scopes : List (List Middleware)
  errorHandler : ErrorHandler
  hook : Option Hook
  config : DispatchSettings

/-- A frozen pipeline: composed chains, and nothing that later registrations could reach. -/
structure Service where
  router : Router Mount
  notFound : Chain
  methodNotAllowed : Chain
  errorHandler : ErrorHandler
  hook : Option Hook
  debug : Bool

namespace Dispatcher

def create (config : DispatchSettings) : Dispatcher where
  router := .empty
  notFound := .notFound
  methodNotAllowed := .methodNotAllowed
  middleware := []
  scopes := []
  errorHandler := .standard
  hook := none
  config := config

def middlewareNames (d : Dispatcher) : List String := d.middleware.map Middleware.name

/-- The stack of a scope; a number that is no scope has none. -/
def scope (d : Dispatcher) (id : Nat) : List Middleware := (d.scopes[id]?).getD []

/-- The middleware around a handler that a scope owns. -/
def layers (d : Dispatcher) (owner : Option Nat) : List Middleware :=
  d.middleware ++ (owner.map d.scope).getD []

/-- Composes the chain of a route from its handler, whatever was composed before. -/
def compose (d : Dispatcher) (mount : Mount) : Mount :=
  { mount with chain := ⟨d.layers mount.scope, mount.chain.handler⟩ }

def build (d : Dispatcher) : Service where
  router := d.router.map d.compose
  notFound := ⟨d.middleware, d.notFound⟩
  methodNotAllowed := ⟨d.middleware, d.methodNotAllowed⟩
  errorHandler := d.errorHandler
  hook := d.hook
  debug := d.config.debug

/-- What building reports. -/
def builtEvent (d : Dispatcher) : Event :=
  .tableComposed d.router.routes.length d.middleware.length d.router.maxParams

end Dispatcher

namespace Service

/-- The chain for a context's method and path, and the context with what the lookup found.  Where no
route matches, a fallback takes its place. -/
def find (s : Service) (c : Context) : Chain × Context :=
  let (found, captures) := s.router.lookup c.method c.path c.captures
  let c := { c with captures := captures }
  match found with
  | .found endpoint => (endpoint.action.chain, { c with route := some endpoint.route })
  | .methodNotAllowed methods => (s.methodNotAllowed, { c with allowed := methods })
  | .notFound => (s.notFound, c)

end Service

/-- A dispatcher under construction and the events reported so far, the latest first. -/
structure SetupState where
  dispatcher : Dispatcher
  events : List Event

abbrev Setup := ExceptT SetupError (StateM SetupState)

/-- Where routes are registered: outside groups, or in the group of a scope. -/
structure Site where
  path : String
  scope : Option Nat

def Site.outside : Site := ⟨"", none⟩

namespace Setup

def report (e : Event) : Setup Unit :=
  modify fun s => { s with events := e :: s.events }

def change (f : Dispatcher → Dispatcher) : Setup Unit :=
  modify fun s => { s with dispatcher := f s.dispatcher }

def dispatcher : Setup Dispatcher := do return (← get).dispatcher

/-- Runs a setup on a dispatcher.  Whether or not it fails, the dispatcher as it was left and the
events in order come back. -/
def on {α : Type} (d : Dispatcher) (setup : Setup α) :
    Except SetupError α × Dispatcher × List Event :=
  let (result, s) := setup.run ⟨d, []⟩
  (result, s.dispatcher, s.events.reverse)

/-- Registers a handler that a scope owns for one method and a template. -/
def mount (scope : Option Nat) (method : Method) (template : String) (handler : Handler) :
    Setup Unit := do
  let d ← dispatcher
  match d.router.add method template handler.name ⟨scope, ⟨[], handler⟩⟩ with
  | .error e => throw (.route e)
  | .ok (route, router) =>
    change fun d => { d with router := router }
    report (.routeRegistered method template route.handlerName route.paramNames.length)

/-- Registers a handler for one method.  The path is joined to the path of the site. -/
def add (site : Site) (method : Method) (path : String) (handler : Handler) : Setup Unit :=
  mount site.scope method (Routing.join "" (Routing.join site.path path)) handler

/-- Registers a handler for each method in order and stops at the first that is refused; no method
means `GET`. -/
def route (site : Site) (methods : List Method) (path : String) (handler : Handler) : Setup Unit :=
  match methods with
  | [] => add site .get path handler
  | methods => methods.forM fun method => add site method path handler

/-- Adds middleware to the group of the site, or global middleware outside groups. -/
def use (site : Site) (middleware : Middleware) : Setup Unit := do
  match site.scope with
  | none =>
    let d ← dispatcher
    report (.middlewareAdded middleware.name d.middleware.length)
    change fun d => { d with middleware := d.middleware ++ [middleware] }
  | some id =>
    report (.groupMiddlewareAdded site.path middleware.name)
    change fun d => { d with scopes := d.scopes.modify id (· ++ [middleware]) }

/-- Opens a group under the site's path.  Its stack starts as a copy of the enclosing group's. -/
def openGroup (site : Site) (path : String) : Setup Site := do
  let d ← dispatcher
  let inherited := (site.scope.map d.scope).getD []
  let inner : Site := ⟨Routing.join site.path path, some d.scopes.length⟩
  change fun d => { d with scopes := d.scopes ++ [inherited] }
  report (.groupCreated inner.path inherited.length)
  return inner

end Setup

end RequestDispatch
