import RequestDispatch.Proofs.Serving.Independence

/-!
# The trail of a run

What a run does to its engine, one step after another: it reports, ends spans and calls live services.
What a call does inside is one step here.  A trail replayed on the engine before the run gives the engine
after it (`Service.respond_leaves`), so what can be said of every step of a trail can be said of the run.
-/

namespace RequestDispatch

variable {nested : Nested}

/-- One thing that a run does to its engine. -/
inductive Step where
  | report (effect : Effect)
  /-- The spans that a program opened end with it. -/
  | close (spans : List Span)
  | serve (live : String) (request : Except RequestError Request)
  | update (live : String) (change : List Registration)

namespace Engine

/-- The engine after one step. -/
def step (nested : Nested) (e : Engine) : Step → Engine
  | .report effect => e.perform effect
  | .close spans => { e with spans := spans }
  | .serve live request => (nested.serve live request e).2
  | .update live change => (nested.update live change e).2

/-- The engine after steps in order. -/
def replay (nested : Nested) (e : Engine) (steps : List Step) : Engine :=
  steps.foldl (step nested) e

theorem replay_cons (nested : Nested) (e : Engine) (s : Step) (rest : List Step) :
    e.replay nested (s :: rest) = (e.step nested s).replay nested rest := rfl

theorem replay_append (nested : Nested) (e : Engine) (first second : List Step) :
    e.replay nested (first ++ second) = (e.replay nested first).replay nested second :=
  List.foldl_append

end Engine

/-- The steps that a run takes on an engine. -/
abbrev Trail := Engine → List Step

namespace Trail

def still : Trail := fun _ => []

/-- The steps of a run, then those of what goes on with how it ended. -/
def andThen (run : EngineRun) (trail : Trail) (rest : Outcome → Context → Trail) : Trail := fun e =>
  trail e ++ rest (run e).1 (run e).2.1 (run e).2.2

end Trail

namespace EngineRun

/-- On every engine the run leaves the engine that its trail leads to. -/
def Leaves (nested : Nested) (run : EngineRun) (trail : Trail) : Prop :=
  ∀ e, (run e).2.2 = e.replay nested (trail e)

theorem leaves_still (outcome : Outcome) (c : Context) :
    Leaves nested (fun e => (outcome, c, e)) .still :=
  fun _ => rfl

theorem Leaves.andThen {run : EngineRun} {trail : Trail} {rest : Outcome → Context → EngineRun}
    {further : Outcome → Context → Trail} (first : run.Leaves nested trail)
    (second : ∀ outcome c, (rest outcome c).Leaves nested (further outcome c)) :
    (run.andThen rest).Leaves nested (trail.andThen run further) := by
  intro e
  rw [EngineRun.andThen, Trail.andThen, Engine.replay_append, ← first e]
  exact second _ _ _

end EngineRun

/-- Each context has a trail that the stage follows. -/
def Stage.Leaves (nested : Nested) (stage : Stage) (trail : Context → Trail) : Prop :=
  ∀ c, EngineRun.Leaves nested (stage c) (trail c)

theorem Stage.finish_leaves : Stage.Leaves nested .finish fun _ => .still :=
  fun c => EngineRun.leaves_still .ok c

namespace Program

/-- The steps of a program; `inner` gives those of what comes next. -/
def trail (nested : Nested) (next : Stage) (inner : Context → Trail) : Program → Trail
  | .done .. => .still
  | .emit effect rest => fun e => .report effect :: rest.trail nested next inner (e.perform effect)
  | .next c resume => (inner c).andThen (next c) fun outcome c =>
    match outcome with
    | .ok => (resume .ok c).trail nested next inner
    | .error f => (resume (.error f) c).trail nested next inner
    | .panic _ => .still
  | .attempt c resume => (inner c).andThen (next c) fun outcome c =>
    (resume outcome c).trail nested next inner
  | .serve live request _ resume => fun e =>
    .serve live request :: match nested.serve live request e with
      | (.panicked _, _) => []
      | (reply, e) => (resume reply).trail nested next inner e
  | .update live change resume => fun e =>
    let r := nested.update live change e
    .update live change :: (resume r.1).trail nested next inner r.2
termination_by structural program => program

/-- The steps of a program whose spans end with it. -/
def runTrail (nested : Nested) (next : Stage) (inner : Context → Trail) (program : Program) : Trail :=
  fun e => program.trail nested next inner e ++ [.close e.spans]

/-- The steps of a program and, if it succeeds, of what comes next. -/
def guardTrail (nested : Nested) (inner : Context → Trail) (program : Program) : Trail :=
  (program.runTrail nested .finish fun _ => .still).andThen (program.run nested .finish)
    fun outcome c =>
      match outcome with
      | .ok => inner c
      | _ => .still

variable {next : Stage} {inner : Context → Trail}

theorem execute_emits (nested : Nested) (next : Stage) (effects : List Effect) (rest : Program)
    (e : Engine) : (emits effects rest).execute nested next e =
      rest.execute nested next (effects.foldl Engine.perform e) := by
  induction effects generalizing e with
  | nil => rfl
  | cons effect effects ih => exact ih (e.perform effect)

theorem trail_emits (nested : Nested) (next : Stage) (inner : Context → Trail)
    (effects : List Effect) (rest : Program) (e : Engine) :
    (emits effects rest).trail nested next inner e =
      effects.map .report ++ rest.trail nested next inner (effects.foldl Engine.perform e) := by
  induction effects generalizing e with
  | nil => rfl
  | cons effect effects ih => exact congrArg (_ :: ·) (ih (e.perform effect))

theorem execute_leaves (rest : next.Leaves nested inner) (program : Program) :
    EngineRun.Leaves nested (program.execute nested next) (program.trail nested next inner) := by
  induction program with
  | done outcome c => exact EngineRun.leaves_still outcome c
  | emit effect program ih => exact fun e => ih (e.perform effect)
  | next c resume ih =>
    rw [execute_next, trail]
    refine (rest c).andThen fun outcome c => ?_
    cases outcome with
    | ok => exact ih .ok c
    | error f => exact ih (.error f) c
    | panic p => exact EngineRun.leaves_still (.panic p) c
  | attempt c resume ih => exact (rest c).andThen ih
  | serve live request c resume ih =>
    intro e
    rw [execute, trail, Engine.replay_cons, Engine.step]
    rcases nested.serve live request e with ⟨reply, e'⟩
    cases reply with
    | panicked p => rfl
    | _ => exact ih _ e'
  | update live change resume ih => exact fun e => ih _ _

theorem run_leaves (rest : next.Leaves nested inner) (program : Program) :
    EngineRun.Leaves nested (program.run nested next) (program.runTrail nested next inner) := by
  intro e
  rw [runTrail, Engine.replay_append, ← execute_leaves rest program e]
  rfl

theorem guard_leaves (rest : next.Leaves nested inner) (program : Program) :
    EngineRun.Leaves nested (program.guard nested next) (program.guardTrail nested inner) := by
  rw [guard_eq]
  refine (run_leaves Stage.finish_leaves program).andThen fun outcome c => ?_
  cases outcome with
  | ok => exact rest c
  | error f => exact EngineRun.leaves_still (.error f) c
  | panic p => exact EngineRun.leaves_still (.panic p) c

end Program

/-- The steps of a middleware around what comes next. -/
def Middleware.trail (nested : Nested) (m : Middleware) (next : Stage) (inner : Context → Trail)
    (c : Context) : Trail :=
  match m with
  | .wrap _ run => (run c).runTrail nested next inner
  | .before _ run => (run c).guardTrail nested inner
  | .exchange _ run =>
    if c.response.committed then inner c else (Exchange.toProgram run c).guardTrail nested inner

theorem Middleware.around_leaves {next : Stage} {inner : Context → Trail}
    (rest : next.Leaves nested inner) (m : Middleware) :
    Stage.Leaves nested (m.around nested next) (m.trail nested next inner) := by
  intro c
  cases m with
  | wrap name run => exact (run c).run_leaves rest
  | before name run => exact (run c).guard_leaves rest
  | exchange name run =>
    rw [around_exchange, trail]
    split
    · exact rest c
    · exact (Exchange.toProgram run c).guard_leaves rest

namespace Chain

/-- The steps of a handler inside middleware. -/
def trailWithin (nested : Nested) (handler : Handler) : List Middleware → Context → Trail
  | [] => fun c => (handler.program c).runTrail nested .finish fun _ => .still
  | m :: rest => m.trail nested (Chain.run nested ⟨rest, handler⟩) (trailWithin nested handler rest)

/-- The steps of a chain. -/
def trail (nested : Nested) (chain : Chain) : Context → Trail :=
  trailWithin nested chain.handler chain.layers

theorem run_leaves (nested : Nested) (chain : Chain) :
    Stage.Leaves nested (chain.run nested) (chain.trail nested) := by
  obtain ⟨layers, handler⟩ := chain
  induction layers with
  | nil => exact fun c => (handler.program c).run_leaves Stage.finish_leaves
  | cons m layers ih => exact m.around_leaves ih

end Chain

namespace Service

/-- The steps of the error handler, if there is a failure to handle. -/
def errorTrail (nested : Nested) (s : Service) (outcome : Outcome) (c : Context) : Trail :=
  match outcome with
  | .error f => (s.errorHandler f c).runTrail nested .finish fun _ => .still
  | _ => .still

/-- The steps of a chain and, after a failure, of the error handler. -/
def trail (nested : Nested) (s : Service) (chain : Chain) (c : Context) : Trail :=
  (chain.trail nested c).andThen (chain.run nested c) (s.errorTrail nested)

theorem respond_leaves (nested : Nested) (s : Service) (chain : Chain) :
    Stage.Leaves nested (s.respond nested chain) (s.trail nested chain) := by
  intro c
  rw [respond_eq]
  refine (chain.run_leaves nested c).andThen fun outcome c => ?_
  cases outcome with
  | ok => exact EngineRun.leaves_still .ok c
  | error f => exact (s.errorHandler f c).run_leaves Stage.finish_leaves
  | panic p => exact EngineRun.leaves_still (.panic p) c

end Service

end RequestDispatch
