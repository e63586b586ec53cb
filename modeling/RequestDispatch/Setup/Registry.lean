import RequestDispatch.Setup.Dispatcher

/-!
# Registries

Handlers and middleware by name, so that tables of routes can refer to them.
-/

namespace RequestDispatch

structure Registry where
  handlers : List (String × Handler)
  middleware : List (String × Middleware)
  /-- The counters that the `metrics` middleware of the registry feeds. -/
  counters : Nat

namespace Registry

def empty (counters : Nat) : Registry := ⟨[], [], counters⟩

/-- Sets the entry of a name, in place of an earlier one. -/
def setEntry {α : Type} (name : String) (value : α) (entries : List (String × α)) :
    List (String × α) :=
  entries.filter (·.1 ≠ name) ++ [(name, value)]

/-- Registers a handler, which takes the name. -/
def setHandler (r : Registry) (name : String) (handler : Handler) : Registry :=
  { r with handlers := setEntry name (handler.named name) r.handlers }

/-- Registers a middleware, which takes the name. -/
def setMiddleware (r : Registry) (name : String) (middleware : Middleware) : Registry :=
  { r with middleware := setEntry name (middleware.named name) r.middleware }

/-- A registry that knows the built-in handlers and middleware. -/
def builtin (counters : Nat) : Registry :=
  (((((((empty counters).setHandler "ok" .statusOk).setHandler "echo" .echo).setHandler
    "no_content" .noContent).setMiddleware "request_logger" .requestLogger).setMiddleware
    "recover" .recover).setMiddleware "request_id" .requestId).setMiddleware
    "metrics" (.metrics counters)

def handler (r : Registry) (name : String) : Except RouteError Handler :=
  match r.handlers.lookup name with
  | some handler => .ok handler
  | none => .error (.unknownHandler name)

def middlewareNamed (r : Registry) (name : String) : Except RouteError Middleware :=
  match r.middleware.lookup name with
  | some middleware => .ok middleware
  | none => .error (.unknownMiddleware name)

def handlerNames (r : Registry) : List String := sortNames (r.handlers.map Prod.fst)

def middlewareNames (r : Registry) : List String := sortNames (r.middleware.map Prod.fst)

end Registry

end RequestDispatch
