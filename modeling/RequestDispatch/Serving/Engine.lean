import RequestDispatch.Serving.Pool
import RequestDispatch.Setup.Dispatcher

/-!
# Serving requests

An `Engine` is what all services of one family share while they run: the context pool, the live
services by name, the counters, the open spans, and the records of what happened.  A request is served
by one lease of a context: hook, lookup, chain, error handler, answer, release.

Handlers may call live services.  How such calls are answered is a parameter (`Nested`), and
`Nested.upTo` answers them by serving, down to a given depth.
-/

namespace RequestDispatch

/-- Counts of the requests that passed a `metrics` middleware. -/
structure Counters where
  requests : Nat
  clientErrors : Nat
  serverErrors : Nat
  handlerErrors : Nat
  deriving DecidableEq, Repr

namespace Counters

def zero : Counters := ⟨0, 0, 0, 0⟩

def record (n : Counters) (status : Status) (failed : Bool) : Counters :=
  { requests := n.requests + 1
    clientErrors := n.clientErrors + status.isClientError.toNat
    serverErrors := n.serverErrors + status.isServerError.toNat
    handlerErrors := n.handlerErrors + failed.toNat }

end Counters

/-- A live service: the dispatcher that updates continue from, the service built last, and the number
of updates that succeeded. -/
structure Live where
  setup : Dispatcher
  current : Service
  version : Nat

structure Engine where
  pool : Pool
  lives : List (String × Live)
  counters : Nat → Counters
  /-- Open spans, innermost first. -/
  spans : List Span
  /-- Logged events, the latest first. -/
  records : List LogRecord
  /-- Notes of handlers and middleware, the latest first. -/
  observations : List Observation
  /-- The supply of identifiers, and how many have been given out. -/
  ids : Nat → Ulid
  issued : Nat

namespace Engine

def create (pool : Pool) (ids : Nat → Ulid) : Engine :=
  ⟨pool, [], fun _ => .zero, [], [], [], ids, 0⟩

def log (e : Engine) (event : Event) : Engine :=
  { e with records := ⟨event, e.spans⟩ :: e.records }

def logAll (e : Engine) (events : List Event) : Engine := events.foldl log e

def observe (e : Engine) (o : Observation) : Engine :=
  { e with observations := o :: e.observations }

/-- Sets the status of the innermost span. -/
def recordStatus (e : Engine) (status : Status) : Engine :=
  match e.spans with
  | [] => e
  | span :: outer => { e with spans := { span with status := some status } :: outer }

def count (e : Engine) (id : Nat) (status : Status) (failed : Bool) : Engine :=
  { e with
    counters := fun n => if n = id then (e.counters n).record status failed else e.counters n }

def perform (e : Engine) : Effect → Engine
  | .observe o => e.observe o
  | .log event => e.log event
  | .openSpan span => { e with spans := span :: e.spans }
  | .recordStatus status => e.recordStatus status
  | .count id status failed => e.count id status failed

def live? (e : Engine) (name : String) : Option Live := e.lives.lookup name

/-- Stores a live service under a name, in place of an earlier one. -/
def setLive (e : Engine) (name : String) (live : Live) : Engine :=
  { e with lives := (name, live) :: e.lives.filter (·.1 ≠ name) }

/-- Makes the pool fit a number of parameters and reports it when that took effect. -/
def reserveCaptures (e : Engine) (params : Nat) : Engine :=
  let pool := e.pool.reserveCaptures params
  let raised := { e with pool := pool }
  if params ≤ e.pool.paramCapacity then raised
  else raised.log
    (.capacityIncreased e.pool.paramCapacity params pool.generation e.pool.idle.length)

/-- Builds a service and prepares the pool for it. -/
def build (e : Engine) (d : Dispatcher) : Service × Engine :=
  (d.build, (e.log d.builtEvent).reserveCaptures d.router.maxParams)

/-- Puts a live service under a name, built from a dispatcher that nothing else changes. -/
def goLive (e : Engine) (name : String) (d : Dispatcher) : Engine :=
  let (service, e) := e.build d
  e.setLive name ⟨d, service, 0⟩

/-- Applies a change to a copy of a live service's dispatcher.  Success publishes a new build; failure
leaves the live service as it was. -/
def update {α : Type} (e : Engine) (name : String) (change : Setup α) : UpdateReply × Engine :=
  match e.live? name with
  | none => (.unknown, e)
  | some live =>
    let (result, d, events) := Setup.on live.setup change
    let e := e.logAll events
    match result with
    | .error error => (.failed error live.version, e.log (.updateRejected error.message))
    | .ok _ =>
      let (service, e) := e.build d
      let version := live.version + 1
      let routes := service.router.routes.length
      (.applied routes version,
        (e.setLive name ⟨d, service, version⟩).log (.updateApplied version routes))

/-- Takes a context and binds it to a request under a new identifier. -/
def lease (e : Engine) (request : Request) (debug : Bool) : PooledContext × Engine :=
  let (c, pool) := e.pool.acquire
  ({ c with context := c.context.reset request debug (e.ids e.issued) },
    { e with pool := pool, issued := e.issued + 1 })

def release (e : Engine) (c : PooledContext) : Engine := { e with pool := e.pool.release c }

/-- Takes a context back while a panic passes. -/
def releaseUnwinding (e : Engine) (c : PooledContext) : Engine :=
  (e.log .releasedWhileUnwinding).release c

end Engine

/-- What a program may call besides the rest of its chain. -/
structure Nested where
  serve : String → Except RequestError Request → Engine → Reply × Engine
  update : String → List Registration → Engine → UpdateReply × Engine

/-- The rest of a chain, as a program calls it. -/
abbrev Stage := Context → Engine → Outcome × Context × Engine

/-- The end of every chain. -/
def Stage.finish : Stage := fun c e => (.ok, c, e)

namespace Program

/-- Runs a program on an engine. -/
def execute (nested : Nested) (next : Stage) : Program → Engine → Outcome × Context × Engine
  | .done outcome c, e => (outcome, c, e)
  | .emit effect rest, e => execute nested next rest (e.perform effect)
  | .next c resume, e =>
    match next c e with
    | (.ok, c, e) => execute nested next (resume .ok c) e
    | (.error f, c, e) => execute nested next (resume (.error f) c) e
    | (.panic p, c, e) => (.panic p, c, e)
  | .attempt c resume, e =>
    let r := next c e
    execute nested next (resume r.1 r.2.1) r.2.2
  | .serve live request c resume, e =>
    match nested.serve live request e with
    | (.panicked p, e) => (.panic p, c, e)
    | (reply, e) => execute nested next (resume reply) e
  | .update live change resume, e =>
    let r := nested.update live change e
    execute nested next (resume r.1) r.2
termination_by structural program => program

/-- Runs a program; the spans it opened end with it. -/
def run (nested : Nested) (next : Stage) (program : Program) (e : Engine) :
    Outcome × Context × Engine :=
  let (outcome, c, e') := execute nested next program e
  (outcome, c, { e' with spans := e.spans })

end Program

namespace Middleware

/-- A middleware around the rest of a chain. -/
def around (nested : Nested) (m : Middleware) (next : Stage) : Stage := fun c e =>
  match m with
  | .wrap _ run => (run c).run nested next e
  | .before _ run =>
    match (run c).run nested .finish e with
    | (.ok, c, e) => next c e
    | stopped => stopped
  | .exchange _ run =>
    if c.response.committed then next c e
    else
      match (Exchange.toProgram run c).run nested .finish e with
      | (.ok, c, e) => next c e
      | stopped => stopped

end Middleware

/-- Runs a handler inside its middleware. -/
def Chain.run (nested : Nested) (chain : Chain) : Stage :=
  chain.layers.foldr (Middleware.around nested) fun c e =>
    (chain.handler.program c).run nested .finish e

namespace Service

/-- The report of a request about to run its chain. -/
def dispatchEvent (c : Context) : Event :=
  .dispatching c.method c.path ((c.route.map Routing.RouteDescription.template).getD "-") c.captureCount

/-- Runs the chain of a context and, after a failure, the error handler. -/
def respond (nested : Nested) (s : Service) (chain : Chain) : Stage := fun c e =>
  match chain.run nested c e with
  | (.error f, c, e) => (s.errorHandler f c).run nested .finish e
  | finished => finished

/-- Routes and answers a request on a leased context; the context goes back on every way out. -/
def handle (nested : Nested) (s : Service) (request : Request) (e : Engine) : Reply × Engine :=
  let (leased, e) := e.lease request s.debug
  let (chain, c) := s.find leased.context
  match s.respond nested chain c (e.log (dispatchEvent c)) with
  | (.panic p, c, e) => (.panicked p, e.releaseUnwinding { leased with context := c })
  | (_, c, e) =>
    let (answer, response) := c.response.take
    (.answer answer, e.release { leased with context := { c with response := response } })

/-- Serves one request: the hook first, which may change the request or panic. -/
def serve (nested : Nested) (s : Service) (request : Request) (e : Engine) : Reply × Engine :=
  match s.hook with
  | none => s.handle nested request e
  | some hook =>
    let run := hook request
    let e := run.notes.foldl Engine.observe e
    match run.result with
    | .error p => (.panicked p, e)
    | .ok request => s.handle nested request e

end Service

end RequestDispatch
