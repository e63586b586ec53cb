import RequestDispatch.Serving.Event
import RequestDispatch.Serving.Observation
import RequestDispatch.Text.Quoted

/-!
# Handlers and middleware as programs

A `Program` says step by step what a handler or a middleware does with its context: report something,
call what comes next in the chain, call a live service or change one, and finish.  Between these steps
it computes by ordinary functions, so any function of the context is a handler.

Handlers, middleware and registrations refer to each other (a handler may register handlers on a
live service), hence one mutual definition.
-/

namespace RequestDispatch

/-- How a handler ends when it does not panic. -/
inductive HandlerResult where
  | ok
  | error (failure : Failure)
  deriving DecidableEq, Repr

/-- How a run of a handler or of a whole chain ends. -/
inductive Outcome where
  | ok
  | error (failure : Failure)
  | panic (payload : Payload)
  deriving DecidableEq, Repr

def HandlerResult.toOutcome : HandlerResult → Outcome
  | .ok => .ok
  | .error failure => .error failure

/-- Reports that change nothing a handler can see. -/
inductive Effect where
  | observe (observation : Observation)
  | log (event : Event)
  /-- Opens a span that lasts until the program ends. -/
  | openSpan (span : Span)
  | recordStatus (status : Status)
  /-- Counts a finished request in a set of counters. -/
  | count (counters : Nat) (status : Status) (failed : Bool)
  deriving DecidableEq, Repr

/-- A run of a plain request and response function: the response it leaves, its reports in order, and
the panic that cut it short. -/
structure Exchange where
  response : Response
  effects : List Effect
  panic : Option Payload

/-- A run of a hook: its notes, and the request it leaves or the panic that cut it short. -/
structure HookRun where
  notes : List Observation
  result : Except Payload Request

abbrev Hook := Request → HookRun

mutual

inductive Program where
  | done (outcome : Outcome) (context : Context)
  | emit (effect : Effect) (rest : Program)
  /-- Calls what comes next; a panic there passes through. -/
  | next (context : Context) (resume : HandlerResult → Context → Program)
  /-- Calls what comes next and goes on after a panic too. -/
  | attempt (context : Context) (resume : Outcome → Context → Program)
  /-- Calls a live service; a panic there passes through. -/
  | serve (live : String) (request : Except RequestError Request) (context : Context)
      (resume : Reply → Program)
  | update (live : String) (change : List Registration) (resume : UpdateReply → Program)

inductive Handler where
  | context (name : String) (run : Context → Program)
  /-- Sees the request and the response only. -/
  | exchange (name : String) (run : Request → Response → Exchange)

inductive Middleware where
  /-- Decides itself whether and when to call what comes next. -/
  | wrap (name : String) (run : Context → Program)
  /-- Runs before what comes next; its failure ends the chain. -/
  | before (name : String) (run : Context → Program)
  /-- Runs before what comes next unless the response is committed. -/
  | exchange (name : String) (run : Request → Response → Exchange)

/-- One step of setting up a dispatcher or a group. -/
inductive Registration where
  | route (methods : List Method) (path : String) (handler : Handler)
  | use (middleware : Middleware)
  /-- A group and the steps inside it, all of which run.  A strict group fails with the last failure
  inside, any other never does. -/
  | group (path : String) (strict : Bool) (body : List Registration)
  | debug (on : Bool)
  | notFound (handler : Handler)
  | methodNotAllowed (handler : Handler)
  | errorHandler (run : Failure → Context → Program)
  | hook (run : Hook)
  /-- Gives up for a reason. -/
  | refuse (reason : String)

end

abbrev ErrorHandler := Failure → Context → Program

namespace Program

/-- Reports in order, then goes on. -/
def emits (effects : List Effect) (rest : Program) : Program :=
  effects.foldr .emit rest

def observe (o : Observation) (rest : Program) : Program := .emit (.observe o) rest

def log (e : Event) (rest : Program) : Program := .emit (.log e) rest

def ok (c : Context) : Program := .done .ok c

def fail (f : Failure) (c : Context) : Program := .done (.error f) c

end Program

namespace Handler

def name : Handler → String
  | .context name _ => name
  | .exchange name _ => name

def named (name : String) : Handler → Handler
  | .context _ run => .context name run
  | .exchange _ run => .exchange name run

def kind : Handler → String
  | .context .. => "Context"
  | .exchange .. => "Http"

/-- A diagnostic description. -/
def describe (h : Handler) : String :=
  "Handler \x7b kind: " ++ Text.quoted h.kind ++ ", name: " ++ Text.quoted h.name ++ " \x7d"

end Handler

namespace Exchange

/-- A plain function as a program on the context around it. -/
def toProgram (run : Request → Response → Exchange) (c : Context) : Program :=
  let x := run c.request c.response
  .emits x.effects (.done (match x.panic with | some p => .panic p | none => .ok)
    { c with response := x.response })

end Exchange

/-- What a handler does with a context. -/
def Handler.program : Handler → Context → Program
  | .context _ run => run
  | .exchange _ run => Exchange.toProgram run

namespace Middleware

def name : Middleware → String
  | .wrap name _ => name
  | .before name _ => name
  | .exchange name _ => name

def named (name : String) : Middleware → Middleware
  | .wrap _ run => .wrap name run
  | .before _ run => .before name run
  | .exchange _ run => .exchange name run

def kind : Middleware → String
  | .wrap .. => "Wrap"
  | .before .. => "Before"
  | .exchange .. => "Http"

/-- A diagnostic description. -/
def describe (m : Middleware) : String :=
  "Middleware \x7b kind: " ++ Text.quoted m.kind ++ ", name: " ++ Text.quoted m.name ++ " \x7d"

end Middleware

/-- A handler inside its middleware, outermost first. -/
structure Chain where
  layers : List Middleware
  handler : Handler

end RequestDispatch
