import RequestDispatch.Proofs.Serving.BuiltinConduct
import RequestDispatch.Proofs.Serving.Handlings

/-!
# Leaving nested calls out

A program omits the calls of another one when it does the same but makes no calls, whatever these come
back with; reports may be left out too.  As long as no call panics, both end in the same way on the same
context (`Service.Omits.respond`): what nested calls do to the engine does not reach the caller.
-/

namespace RequestDispatch

/-- The second program does what the first one does apart from its calls, whatever these return. -/
inductive Program.Omits : Program → Program → Prop where
  | done (outcome : Outcome) (c : Context) : Omits (.done outcome c) (.done outcome c)
  | emit (effect : Effect) {program alone : Program} (rest : Omits program alone) :
    Omits (.emit effect program) (.emit effect alone)
  /-- What a call returned may be reported. -/
  | report (effect : Effect) {program alone : Program} (rest : Omits program alone) :
    Omits (.emit effect program) alone
  | next (c : Context) {resume alone : HandlerResult → Context → Program}
    (rest : ∀ result c, Omits (resume result c) (alone result c)) :
    Omits (.next c resume) (.next c alone)
  | attempt (c : Context) {resume alone : Outcome → Context → Program}
    (rest : ∀ outcome c, Omits (resume outcome c) (alone outcome c)) :
    Omits (.attempt c resume) (.attempt c alone)
  /-- A panic of the call never comes back. -/
  | serve (live : String) (request : Except RequestError Request) (c : Context)
    {resume : Reply → Program} {alone : Program}
    (rest : ∀ reply, (∀ p, reply ≠ .panicked p) → Omits (resume reply) alone) :
    Omits (.serve live request c resume) alone
  | update (live : String) (change : List Registration) {resume : UpdateReply → Program}
    {alone : Program} (rest : ∀ reply, Omits (resume reply) alone) :
    Omits (.update live change resume) alone

theorem Program.Omits.emits (effects : List Effect) {program alone : Program}
    (rest : program.Omits alone) : (Program.emits effects program).Omits (.emits effects alone) := by
  induction effects with
  | nil => exact rest
  | cons effect effects ih => exact .emit effect ih

theorem Program.Omits.sent (result : Context × List Effect) :
    (Program.sent result).Omits (Program.sent result) :=
  .emits result.2 (.done _ _)

/-- The default error handler and fallbacks make no calls. -/
theorem ErrorHandler.standard_omits (f : Failure) (c : Context) :
    (standard f c).Omits (standard f c) := by
  refine .emit _ ?_
  split
  · exact .done _ _
  · exact .sent _

theorem Handler.notFound_omits (c : Context) :
    (notFound.program c).Omits (notFound.program c) :=
  .done _ _

theorem Handler.methodNotAllowed_omits (c : Context) :
    (methodNotAllowed.program c).Omits (methodNotAllowed.program c) := by
  simp only [methodNotAllowed, program]
  split <;> exact .done _ _

/-- A plain function makes no calls. -/
theorem Exchange.toProgram_omits (run : Request → Response → Exchange) (c : Context) :
    (Exchange.toProgram run c).Omits (Exchange.toProgram run c) :=
  .emits _ (.done _ _)

def Middleware.Omits : Middleware → Middleware → Prop
  | .wrap _ run, .wrap _ alone => ∀ c, (run c).Omits (alone c)
  | .before _ run, .before _ alone => ∀ c, (run c).Omits (alone c)
  | .exchange _ run, .exchange _ alone => alone = run
  | _, _ => False

def Handler.Omits (h alone : Handler) : Prop := ∀ c, (h.program c).Omits (alone.program c)

structure Chain.Omits (chain alone : Chain) : Prop where
  layers : List.Forall₂ Middleware.Omits chain.layers alone.layers
  handler : chain.handler.Omits alone.handler

/-- A service with the same routes and mode, whose chains and error handler leave the calls out. -/
structure Service.Omits (s alone : Service) : Prop where
  chain : ∀ c, (s.find c).1.Omits (alone.find c).1
  context : ∀ c, (alone.find c).2 = (s.find c).2
  errorHandler : ∀ f c, (s.errorHandler f c).Omits (alone.errorHandler f c)
  debug : alone.debug = s.debug

/-- No call made along the steps panics. -/
def Calm (depth : Nat) (steps : List Step) (e : Engine) : Prop :=
  ∀ call ∈ callsAlong depth steps e, ¬call.Panics

namespace Calm

variable {depth : Nat} {first second : List Step} {e : Engine}

theorem callsAlong_append (depth : Nat) (first second : List Step) (e : Engine) :
    callsAlong depth (first ++ second) e =
      callsAlong depth first e ++ callsAlong depth second (e.replay (.upTo depth) first) := by
  induction first generalizing e with
  | nil => rfl
  | cons s first ih =>
    rw [List.cons_append, callsAlong, callsAlong, ih, List.append_assoc]
    rfl

theorem append_iff : Calm depth (first ++ second) e ↔
    Calm depth first e ∧ Calm depth second (e.replay (.upTo depth) first) := by
  simp only [Calm, callsAlong_append, List.forall_mem_append]

theorem cons_iff {s : Step} : Calm depth (s :: second) e ↔
    (∀ call ∈ s.call? depth e, ¬call.Panics) ∧ Calm depth second (e.step (.upTo depth) s) := by
  simp only [Calm, callsAlong, List.forall_mem_append, Option.mem_toList, Option.mem_def]

end Calm

namespace EngineRun

variable {depth : Nat} {run alone : EngineRun} {trail : Trail}

/-- On whatever engines the two run, they end in the same way on the same context, unless a call made by
the first one panics. -/
def Agrees (depth : Nat) (run : EngineRun) (trail : Trail) (alone : EngineRun) : Prop :=
  ∀ e, Calm depth (trail e) e → ∀ e', (alone e').1 = (run e).1 ∧ (alone e').2.1 = (run e).2.1

theorem agrees_still (outcome : Outcome) (c : Context) :
    Agrees depth (fun e => (outcome, c, e)) .still fun e => (outcome, c, e) :=
  fun _ _ _ => ⟨rfl, rfl⟩

theorem Agrees.andThen {rest further : Outcome → Context → EngineRun}
    {onward : Outcome → Context → Trail} (first : run.Agrees depth trail alone)
    (leaves : run.Leaves (.upTo depth) trail)
    (second : ∀ outcome c, (rest outcome c).Agrees depth (onward outcome c) (further outcome c)) :
    (run.andThen rest).Agrees depth (trail.andThen run onward) (alone.andThen further) := by
  intro e calm e'
  obtain ⟨calm, calm'⟩ := Calm.append_iff.mp calm
  obtain ⟨outcome, context⟩ := first e calm e'
  rw [← leaves e] at calm'
  simp only [EngineRun.andThen, outcome, context]
  exact second _ _ _ calm' _

end EngineRun

open EngineRun

variable {depth : Nat} {nested : Nested}

/-- Started on any context, the two stages agree. -/
def Stage.Agrees (depth : Nat) (stage : Stage) (trail : Context → Trail) (alone : Stage) : Prop :=
  ∀ c, EngineRun.Agrees depth (stage c) (trail c) (alone c)

theorem Stage.finish_agrees : Stage.Agrees depth .finish (fun _ => .still) .finish :=
  fun c => agrees_still .ok c

namespace Program.Omits

variable {program alone : Program} {next next' : Stage} {inner : Context → Trail}

/-- By induction on what is left out; a call that does not panic hands its reply to a program that goes
on as if there had been no call. -/
theorem execute (omits : program.Omits alone) (leaves : next.Leaves (.upTo depth) inner)
    (rest : next.Agrees depth inner next') :
    EngineRun.Agrees depth (program.execute (.upTo depth) next)
      (program.trail (.upTo depth) next inner) (alone.execute nested next') := by
  induction omits with
  | done outcome c => exact agrees_still outcome c
  | emit effect _ ih => exact fun e calm e' => ih _ (Calm.cons_iff.mp calm).2 _
  | report effect _ ih => exact fun e calm e' => ih _ (Calm.cons_iff.mp calm).2 _
  | next c _ ih =>
    rw [execute_next, execute_next, trail]
    refine (rest c).andThen (leaves c) fun outcome c => ?_
    cases outcome with
    | ok => exact ih .ok c
    | error f => exact ih (.error f) c
    | panic p => exact agrees_still (.panic p) c
  | attempt c _ ih => exact (rest c).andThen (leaves c) ih
  | @serve live request c resume alone _ ih =>
    intro e
    simp only [Program.execute, trail]
    intro calm e'
    obtain ⟨here, calm⟩ := Calm.cons_iff.mp calm
    have safe (p : Payload) : ((Nested.upTo depth).serve live request e).1 ≠ .panicked p :=
      fun panics => here _ rfl (congrArg Reply.isPanic panics)
    rw [Engine.step] at calm
    generalize (Nested.upTo depth).serve live request e = served at safe calm ⊢
    obtain ⟨reply, after⟩ := served
    cases reply with
    | panicked p => exact (safe p rfl).elim
    | _ => exact ih _ safe after calm e'
  | update live change _ ih => exact fun e calm e' => ih _ _ (Calm.cons_iff.mp calm).2 _

theorem run (omits : program.Omits alone) (leaves : next.Leaves (.upTo depth) inner)
    (rest : next.Agrees depth inner next') :
    EngineRun.Agrees depth (program.run (.upTo depth) next)
      (program.runTrail (.upTo depth) next inner) (alone.run nested next') :=
  fun e calm e' => omits.execute leaves rest e (Calm.append_iff.mp calm).1 e'

theorem guard (omits : program.Omits alone) (rest : next.Agrees depth inner next') :
    EngineRun.Agrees depth (program.guard (.upTo depth) next)
      (program.guardTrail (.upTo depth) inner) (alone.guard nested next') := by
  rw [guard_eq, guard_eq]
  refine (omits.run Stage.finish_leaves Stage.finish_agrees).andThen
    (run_leaves Stage.finish_leaves program) fun outcome c => ?_
  cases outcome with
  | ok => exact rest c
  | error f => exact agrees_still (.error f) c
  | panic p => exact agrees_still (.panic p) c

end Program.Omits

theorem Middleware.Omits.around {m alone : Middleware} (omits : m.Omits alone) {next next' : Stage}
    {inner : Context → Trail} (leaves : next.Leaves (.upTo depth) inner)
    (rest : next.Agrees depth inner next') :
    Stage.Agrees depth (m.around (.upTo depth) next) (m.trail (.upTo depth) next inner)
      (alone.around nested next') := by
  intro c
  cases m <;> cases alone
  case wrap.wrap => exact (omits c).run leaves rest
  case before.before => exact (omits c).guard rest
  case exchange.exchange name run name' alone =>
    obtain rfl : alone = run := omits
    rw [around_exchange, around_exchange, trail]
    split
    · exact rest c
    · exact (Exchange.toProgram_omits alone c).guard rest
  all_goals exact omits.elim

theorem Chain.Omits.run {chain alone : Chain} (omits : chain.Omits alone) (nested : Nested) :
    Stage.Agrees depth (chain.run (.upTo depth)) (chain.trail (.upTo depth)) (alone.run nested) := by
  obtain ⟨layers, handler⟩ := chain
  obtain ⟨layers', handler'⟩ := alone
  obtain ⟨all, own⟩ := omits
  dsimp only at all own
  induction all with
  | nil => exact fun c => (own c).run Stage.finish_leaves Stage.finish_agrees
  | @cons m m' layers layers' here _ ih =>
    have leaves := Chain.run_leaves (.upTo depth) ⟨layers, handler⟩
    exact here.around leaves ih

namespace Service.Omits

variable {s alone : Service}

theorem respond (omits : s.Omits alone) {chain chain' : Chain} (inside : chain.Omits chain')
    (nested : Nested) :
    Stage.Agrees depth (s.respond (.upTo depth) chain) (s.trail (.upTo depth) chain)
      (alone.respond nested chain') := by
  intro c
  rw [respond_eq, respond_eq]
  refine (inside.run nested c).andThen (chain.run_leaves (.upTo depth) c) fun outcome c => ?_
  cases outcome with
  | ok => exact agrees_still .ok c
  | error f => exact (omits.errorHandler f c).run Stage.finish_leaves Stage.finish_agrees
  | panic p => exact agrees_still (.panic p) c

theorem binding (omits : s.Omits alone) (request : Request) (id : Ulid) :
    (s.binding request id).1.Omits (alone.binding request id).1 ∧
      (alone.binding request id).2 = (s.binding request id).2 := by
  rw [Service.binding, Service.binding, omits.debug]
  exact ⟨omits.chain _, omits.context _⟩

end Service.Omits

/-- A request fares as on its own where the calls are left out, whatever the engine there. -/
theorem Handling.agrees_alone {h a : Handling} (omits : h.service.Omits a.service)
    (request : a.request = h.request) (id : a.id = h.id)
    (calm : ∀ call ∈ h.ownCalls, ¬call.Panics) :
    a.bound.2 = h.bound.2 ∧ a.run.1 = h.run.1 ∧ a.run.2.1 = h.run.2.1 ∧ a.reply = h.reply := by
  have ⟨chain, context⟩ : h.bound.1.Omits a.bound.1 ∧ a.bound.2 = h.bound.2 := by
    unfold bound
    rw [request, id]
    exact omits.binding h.request h.id
  have ⟨outcome, ended⟩ : a.run.1 = h.run.1 ∧ a.run.2.1 = h.run.2.1 := by
    unfold ownCalls trail nested at calm
    unfold run nested
    rw [context]
    exact omits.respond chain (.upTo a.depth) h.bound.2 h.opening calm a.opening
  refine ⟨context, outcome, ended, ?_⟩
  rw [reply, outcome, ended, reply]

namespace Dispatcher

/-- The same dispatcher with every handler replaced. -/
def rehandled (d : Dispatcher) (g : Handler → Handler) : Dispatcher :=
  { d with
    router := d.router.map fun mount => { mount with
      chain := ⟨mount.chain.layers, g mount.chain.handler⟩ }
    notFound := g d.notFound
    methodNotAllowed := g d.methodNotAllowed }

theorem find_rehandled (d : Dispatcher) (g : Handler → Handler) (c : Context) :
    (d.rehandled g).build.find c =
      (⟨(d.build.find c).1.layers, g (d.build.find c).1.handler⟩, (d.build.find c).2) := by
  unfold Service.find build rehandled
  simp only [Routing.Router.lookup_map]
  rcases d.router.lookup c.method c.path c.captures with ⟨found, captures⟩
  cases found <;> rfl

open Routing (Submission)

/-- It is enough to leave the calls out of each handler, where middleware and error handler make none. -/
theorem omits_rehandled {d : Dispatcher} {registered : List (Submission Mount)}
    (holds : d.router.Holds registered) {g : Handler → Handler}
    (handlers : ∀ r ∈ registered, r.action.chain.handler.Omits (g r.action.chain.handler))
    (middleware : ∀ m ∈ d.middleware, m.Omits m) (groups : ∀ stack ∈ d.scopes, ∀ m ∈ stack, m.Omits m)
    (notFound : d.notFound.Omits (g d.notFound))
    (methodNotAllowed : d.methodNotAllowed.Omits (g d.methodNotAllowed))
    (errorHandler : ∀ f c, (d.errorHandler f c).Omits (d.errorHandler f c)) :
    d.build.Omits (d.rehandled g).build where
  chain c := by
    obtain ⟨inner, handler, found, owned, known⟩ := find_build holds c
    rw [find_rehandled, found]
    refine ⟨List.forall₂_same.mpr (List.forall_mem_append.mpr ⟨middleware, fun m mem => ?_⟩), ?_⟩
    · obtain ⟨stack, listed, mem⟩ := owned m mem
      exact groups stack listed m mem
    · rcases known with rfl | rfl | ⟨r, mem, rfl⟩
      · exact notFound
      · exact methodNotAllowed
      · exact handlers r mem
  context c := by rw [find_rehandled]
  errorHandler := errorHandler
  debug := rfl

end Dispatcher

end RequestDispatch
