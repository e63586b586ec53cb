import RequestDispatch.Script.Action

/-!
# Scripted middleware, error handlers and hooks
-/

namespace RequestDispatch.Script

/-- A middleware that runs actions around any number of calls of what comes next. -/
structure Wrapping where
  before : List Action
  /-- How often what comes next is called; the last result counts, and no call counts as success. -/
  calls : Nat
  after : List Action
  /-- Whether a failure of the calls is turned into success. -/
  swallow : Bool

/-- Calls what comes next several times and goes on with the last result. -/
def callNext : Nat → HandlerResult → Context → (HandlerResult → Context → Program) → Program
  | 0, result, c, resume => resume result c
  | n + 1, _, c, resume => .next c fun result c => callNext n result c resume

namespace Wrapping

/-- Runs the closing actions; their failure takes the place of the result. -/
def close (w : Wrapping) (result : HandlerResult) (c : Context) : Program :=
  Action.runAll w.after c fun closing c =>
    match closing with
    | .ok => .done result.toOutcome c
    | .error failure => .fail failure c

def program (w : Wrapping) (c : Context) : Program :=
  Action.runAll w.before c fun opening c =>
    match opening with
    | .error failure => .fail failure c
    | .ok => callNext w.calls .ok c fun result c =>
      match result with
      | .ok => w.close .ok c
      | .error failure =>
        .observe (.caught failure) (w.close (if w.swallow then .ok else result) c)

end Wrapping

/-- A middleware that notes its name on the way in and, unless a panic passes, on the way out. -/
def trace (name : String) : Middleware :=
  .wrap name fun c => .observe (.text (name ++ ">"))
    (.next c fun result c => .observe (.text ("<" ++ name)) (.done result.toOutcome c))

/-- An error handler that notes the failure, runs actions and perhaps the standard handler. -/
def errorHandler (actions : List Action) (thenStandard : Bool) : ErrorHandler := fun f c =>
  .observe (.handled f) (Action.runAll actions c fun result c =>
    let finish := if thenStandard then ErrorHandler.standard f c else .ok c
    match result with
    | .ok => finish
    | .error failure => .observe (.handlerFailed failure) finish)

/-- A hook that notes the request, moves it from path to path, and may change its method or panic. -/
structure Relocation where
  moves : List (String × Target)
  method : Option Method
  panics : Bool

/-- Each move in order takes a request on its first path to its target. -/
def Relocation.target (r : Relocation) (target : Target) : Target :=
  r.moves.foldl (fun current move => if current.path = move.1 then move.2 else current) target

def Relocation.hook (r : Relocation) : Hook := fun request =>
  { notes := [.hook request.method request.target.path]
    result :=
      if r.panics then .error (.text "hook panic")
      else .ok { request with
        target := r.target request.target
        method := r.method.getD request.method } }

end RequestDispatch.Script
