import RequestDispatch.Setup.Registration
import RequestDispatch.Setup.Table

/-!
# Load runs

A load run shares a number of requests among workers and counts the classes of their answers.  Worker
`w` takes the paths in turn, beginning with path `w`, and the first workers take one request more where
the number does not divide evenly.
-/

namespace RequestDispatch

structure LoadPlan where
  requests : Nat
  concurrency : Nat
  method : Method
  paths : List String
  stackSize : Nat
  deriving DecidableEq, Repr

structure AnswerCounts where
  success : Nat
  clientErrors : Nat
  serverErrors : Nat
  deriving DecidableEq, Repr

structure LoadOutcome where
  requests : Nat
  concurrency : Nat
  answers : AnswerCounts
  pool : PoolUsage
  counters : Counters
  deriving DecidableEq, Repr

namespace AnswerCounts

def zero : AnswerCounts := ⟨0, 0, 0⟩

/-- Counts one answered request by the class of its status. -/
def add (t : AnswerCounts) (status : Status) : AnswerCounts :=
  if status.isServerError then { t with serverErrors := t.serverErrors + 1 }
  else if status.isClientError then { t with clientErrors := t.clientErrors + 1 }
  else { t with success := t.success + 1 }

/-- Counts one request that could not be built. -/
def addUnreadable (t : AnswerCounts) : AnswerCounts := { t with clientErrors := t.clientErrors + 1 }

end AnswerCounts

namespace LoadPlan

/-- Number of workers; at least one works. -/
def workers (o : LoadPlan) : Nat := max o.concurrency 1

/-- Number of requests of a worker. -/
def share (o : LoadPlan) (worker : Nat) : Nat :=
  o.requests / o.workers + (decide (worker < o.requests % o.workers)).toNat

/-- The path of a worker's request, counted from zero. -/
def path (o : LoadPlan) (worker i : Nat) : String :=
  o.paths.getD ((worker + i) % o.paths.length) ""

/-- All requests as pairs of a worker and a count, worker after worker. -/
def jobs (o : LoadPlan) : List (Nat × Nat) :=
  (List.range o.workers).flatMap fun w => (List.range (o.share w)).map fun i => (w, i)

/-- Runs one request and counts it; nothing comes back when it panics.  Requests are nested in it at most
`depth` deep. -/
def runJob (o : LoadPlan) (depth : Nat) (s : Service) (job : Nat × Nat)
    (state : AnswerCounts × Engine) : Option (AnswerCounts × Engine) :=
  match Request.build o.method.name (o.path job.1 job.2) [] [] with
  | .error _ => some (state.1.addUnreadable, state.2)
  | .ok request =>
    match s.serve (.upTo depth) request state.2 with
    | (.answer answer, e) => some (state.1.add answer.status, e)
    | _ => none

/-- Runs jobs one after the other. -/
def runJobs (o : LoadPlan) (depth : Nat) (s : Service) (jobs : List (Nat × Nat))
    (state : AnswerCounts × Engine) : Option (AnswerCounts × Engine) :=
  jobs.foldlM (fun state job => o.runJob depth s job state) state

def startedEvent (o : LoadPlan) : Event :=
  .loadStarted o.requests o.workers o.paths.length o.stackSize

/-- Runs all requests, one after the other, and reports.  `counters` are those of the registry the
service was built from. -/
def runWithin (o : LoadPlan) (depth : Nat) (s : Service) (counters : Nat) (e : Engine) :
    Except LoadError LoadOutcome × Engine :=
  if o.paths.isEmpty then (.error [.text "at least one path is required"], e)
  else
    let e := e.log o.startedEvent
    match o.runJobs depth s o.jobs (.zero, e) with
    | none => (.error [.text "load coroutine panicked"], e)
    | some (answers, e) =>
      (.ok ⟨o.requests, o.workers, answers, e.pool.usage, e.counters counters⟩, e)

/-- A run on handlers that call no live service. -/
def runAll (o : LoadPlan) (s : Service) (counters : Nat) (e : Engine) :
    Except LoadError LoadOutcome × Engine :=
  o.runWithin 0 s counters e

end LoadPlan

end RequestDispatch
