import RequestDispatch.Command.Arguments
import RequestDispatch.Command.LoadRun
import RequestDispatch.Command.Report

/-!
# Running a command

Each command reads its table of routes, builds the dispatcher from the built-in registry and reports.
Whatever was logged on the way is kept, also where the command fails.
-/

namespace RequestDispatch

/-- The counters of the built-in registry. -/
def builtinCounters : Nat := 0

/-- Builds the dispatcher that a file describes. -/
def dispatcherFromFile (files : Files) (env : Environment) (path : String) :
    Except LoadError Dispatcher × List Event :=
  match RouteTable.load files path with
  | .error e => (.error e, [])
  | .ok table =>
    let (result, events) := table.toDispatcher (.builtin builtinCounters) env
    (result.mapError fun e =>
      [.text ("failed to apply route table " ++ path), .text e.message], events)

/-- The method that an argument names, in any case and with a blank margin. -/
def readMethod (arg : String) : Except LoadError Method :=
  match Method.ofString? (Text.upper (Text.trim arg)) with
  | some method => .ok method
  | none => .error [.text ("invalid HTTP method '" ++ arg ++ "'"), .invalidMethod]

/-- What a command shows. -/
inductive Display where
  | text (text : String)
  | json (value : Json)
  | load (report : LoadOutcome)

namespace LoadOutcome

def toJson (report : LoadOutcome) : Json :=
  .object
    [("requests", .nat report.requests),
     ("concurrency", .nat report.concurrency),
     ("success", .nat report.answers.success),
     ("client_errors", .nat report.answers.clientErrors),
     ("server_errors", .nat report.answers.serverErrors),
     ("pool", .object
       [("allocated", .nat report.pool.allocated),
        ("reused", .nat report.pool.reused),
        ("discarded", .nat report.pool.discarded),
        ("idle", .nat report.pool.idle),
        ("generation", .nat report.pool.generation)]),
     ("metrics", .object
       [("requests", .nat report.counters.requests),
        ("handler_errors", .nat report.counters.handlerErrors)])]

end LoadOutcome

/-- The text on standard output. -/
def Display.output : Display → String
  | .text shown => shown
  | .json value => value.pretty ++ "\n"
  | .load report => report.toJson.pretty ++ "\n"

/-- A command that has run, with the log in order. -/
structure CommandRun where
  result : Except LoadError Display
  records : List LogRecord

namespace CommandRun

/-- A run that ends on an engine. -/
def ofEngine (outcome : Except LoadError Display × Engine) : CommandRun :=
  ⟨outcome.1, outcome.2.records.reverse⟩

end CommandRun

/-- An engine for a dispatcher, after the events of its setup. -/
def Engine.forDispatcher (d : Dispatcher) (ids : Nat → Ulid) (events : List Event) : Engine :=
  (Engine.create (Pool.create d.config.pool.maxIdle d.config.pool.prewarm) ids).logAll events

namespace Invocation

def config : Invocation → String
  | .routes config .. => config
  | .resolve config .. => config
  | .load config .. => config

/-- Runs a command on its dispatcher. -/
def runOn (d : Dispatcher) (e : Engine) : Invocation → Except LoadError Display × Engine
  | .routes _ tree => (.ok (.text (if tree then d.router.render else d.routeLines)), e)
  | .resolve _ method path execute =>
    match readMethod method with
    | .error error => (.error error, e)
    | .ok method =>
      let report := d.decisionReport method path
      if execute then
        let (service, e) := e.build d
        let (answer, e) := service.answerReport method path e
        (answer.map fun a => .json (report.withField "response" a), e)
      else (.ok (.json report), e)
  | .load _ requests concurrency method paths =>
    match readMethod method with
    | .error error => (.error error, e)
    | .ok method =>
      let (service, e) := e.build d
      let plan : LoadPlan := ⟨requests, concurrency, method, paths, d.config.stackSize⟩
      let (report, e) := plan.runAll service builtinCounters e
      (report.map .load, e)

def run (files : Files) (env : Environment) (ids : Nat → Ulid) (i : Invocation) :
    CommandRun :=
  match dispatcherFromFile files env i.config with
  | (.error error, events) => ⟨.error error, events.map (⟨·, []⟩)⟩
  | (.ok d, events) => .ofEngine (i.runOn d (.forDispatcher d ids events))

end Invocation

end RequestDispatch
