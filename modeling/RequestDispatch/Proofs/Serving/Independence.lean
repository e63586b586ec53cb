import RequestDispatch.Proofs.Routing.Actions
import RequestDispatch.Proofs.Serving.Leases
import RequestDispatch.Proofs.Serving.SelfContained

/-!
# Serving depends on the request alone

A run settles when it ends in the same way and notes the same on every engine.  The chain of a
self-contained service settles on every context, so the reply to a request is a function of the request
and the identifier generated for it (`Service.SelfContained.serve_settles`).

To see what middleware and handlers are shown, a service can be watched: a watch around every part of a
chain notes the context that passes it.  Watched or not, the service replies the same.
-/

namespace RequestDispatch

variable {nested : Nested}

/-- A run on an engine, as of a program or of a stage on a context. -/
abbrev EngineRun := Engine → Outcome × Context × Engine

namespace EngineRun

/-- Goes on with how the first run ended. -/
def andThen (run : EngineRun) (rest : Outcome → Context → EngineRun) : EngineRun := fun e =>
  rest (run e).1 (run e).2.1 (run e).2.2

/-- On every engine the run ends like this and adds these notes, the latest first. -/
def Settles (run : EngineRun) (outcome : Outcome) (c : Context) (notes : List Observation) : Prop :=
  ∀ e, ∃ after, run e = (outcome, c, after) ∧ after.observations = notes ++ e.observations

/-- Both runs settle and end alike; the notes of `other` begin with those in `shown`. -/
def Follows (shown : List Observation) (other run : EngineRun) : Prop :=
  ∃ outcome c notes noted, run.Settles outcome c notes ∧ other.Settles outcome c (noted ++ shown)

variable {run other : EngineRun} {shown : List Observation} {outcome : Outcome} {c : Context}
  {notes : List Observation}

theorem settles_done (outcome : Outcome) (c : Context) :
    Settles (fun e => (outcome, c, e)) outcome c [] :=
  fun e => ⟨e, rfl, rfl⟩

theorem follows_done (outcome : Outcome) (c : Context) :
    Follows [] (fun e => (outcome, c, e)) fun e => (outcome, c, e) :=
  ⟨outcome, c, [], [], settles_done outcome c, settles_done outcome c⟩

/-- The first notes need not be told apart. -/
theorem Follows.hide (follows : Follows shown other run) : Follows [] other run := by
  obtain ⟨outcome, c, notes, noted, settles, settles'⟩ := follows
  exact ⟨outcome, c, notes, noted ++ shown, settles, by rwa [List.append_nil]⟩

theorem Settles.andThen {rest : Outcome → Context → EngineRun} {outcome' : Outcome} {c' : Context}
    {notes' : List Observation} (first : run.Settles outcome c notes)
    (second : (rest outcome c).Settles outcome' c' notes') :
    (run.andThen rest).Settles outcome' c' (notes' ++ notes) := by
  intro e
  obtain ⟨between, ran, noted⟩ := first e
  obtain ⟨after, ran', noted'⟩ := second between
  refine ⟨after, ?_, ?_⟩
  · simpa only [EngineRun.andThen, ran] using ran'
  · rw [noted', noted, List.append_assoc]

theorem Follows.andThen {rest rest' : Outcome → Context → EngineRun}
    (first : Follows shown other run)
    (second : ∀ outcome c, Follows [] (rest' outcome c) (rest outcome c)) :
    Follows shown (other.andThen rest') (run.andThen rest) := by
  obtain ⟨outcome, c, notes, noted, settles, settles'⟩ := first
  obtain ⟨outcome', c', notes', noted', further, further'⟩ := second outcome c
  refine ⟨outcome', c', notes' ++ notes, noted' ++ noted, settles.andThen further, ?_⟩
  rw [List.append_nil] at further'
  rw [List.append_assoc]
  exact settles'.andThen further'

/-- A change of the engine that adds the same notes on every engine. -/
theorem Settles.after {change : Engine → Engine} {first : List Observation}
    (settles : run.Settles outcome c notes)
    (adds : ∀ e, (change e).observations = first ++ e.observations) :
    Settles (fun e => run (change e)) outcome c (notes ++ first) := by
  intro e
  obtain ⟨after, ran, noted⟩ := settles (change e)
  exact ⟨after, ran, by rw [noted, adds, List.append_assoc]⟩

theorem Follows.after {change : Engine → Engine} {first : List Observation}
    (follows : Follows [] other run)
    (adds : ∀ e, (change e).observations = first ++ e.observations) :
    Follows [] (fun e => other (change e)) fun e => run (change e) := by
  obtain ⟨outcome, c, notes, noted, settles, settles'⟩ := follows
  refine ⟨outcome, c, notes ++ first, noted ++ first, settles.after adds, ?_⟩
  rw [List.append_nil] at settles' ⊢
  exact settles'.after adds

/-- Noting something before the other run alone. -/
theorem Follows.noting (follows : Follows [] other run) (o : Observation) :
    Follows [] (fun e => other (e.observe o)) run := by
  obtain ⟨outcome, c, notes, noted, settles, settles'⟩ := follows
  refine ⟨outcome, c, notes, noted ++ [o], settles, ?_⟩
  rw [List.append_nil] at settles' ⊢
  exact settles'.after fun e => rfl

theorem Settles.close (settles : run.Settles outcome c notes) :
    Settles (fun e => ((run e).1, (run e).2.1, { (run e).2.2 with spans := e.spans })) outcome c
      notes := by
  intro e
  obtain ⟨after, ran, noted⟩ := settles e
  refine ⟨{ after with spans := e.spans }, ?_, noted⟩
  simp only [ran]

theorem Follows.close (follows : Follows shown other run) :
    Follows shown (fun e => ((other e).1, (other e).2.1, { (other e).2.2 with spans := e.spans }))
      fun e => ((run e).1, (run e).2.1, { (run e).2.2 with spans := e.spans }) := by
  obtain ⟨outcome, c, notes, noted, settles, settles'⟩ := follows
  exact ⟨outcome, c, notes, noted, settles.close, settles'.close⟩

end EngineRun

open EngineRun

/-- The notes that a report adds. -/
def Effect.notes : Effect → List Observation
  | .observe o => [o]
  | _ => []

theorem Engine.perform_observations (e : Engine) (effect : Effect) :
    (e.perform effect).observations = effect.notes ++ e.observations := by
  cases effect with
  | recordStatus status =>
    rw [perform, recordStatus]
    split <;> rfl
  | _ => rfl

/-- Updates of live services add no notes. -/
def Nested.Discreet (nested : Nested) : Prop :=
  ∀ live change e, (nested.update live change e).2.observations = e.observations

theorem Stage.finish_follows (c : Context) : Follows [] (Stage.finish c) (Stage.finish c) :=
  follows_done .ok c

namespace Program

theorem execute_next (nested : Nested) (next : Stage) (c : Context)
    (resume : HandlerResult → Context → Program) :
    execute nested next (.next c resume) = EngineRun.andThen (next c) fun outcome c =>
      match outcome with
      | .ok => execute nested next (resume .ok c)
      | .error f => execute nested next (resume (.error f) c)
      | .panic p => fun e => (.panic p, c, e) := by
  funext e
  rw [execute, EngineRun.andThen]
  obtain ⟨outcome, c', e'⟩ := next c e
  cases outcome <;> rfl

/-- A self-contained program settles inside a chain that settles, and another rest of the chain that
ends alike makes no difference to how it ends. -/
theorem SelfContained.follows {program : Program} (contained : program.SelfContained)
    (discreet : nested.Discreet) {next next' : Stage} (rest : ∀ c, Follows [] (next' c) (next c)) :
    Follows [] (program.execute nested next') (program.execute nested next) := by
  induction contained with
  | done outcome c => exact follows_done outcome c
  | emit effect _ ih => exact ih.after fun e => e.perform_observations effect
  | next c _ ih =>
    rw [execute_next, execute_next]
    refine (rest c).andThen fun outcome c => ?_
    cases outcome with
    | ok => exact ih .ok c
    | error f => exact ih (.error f) c
    | panic p => exact follows_done (.panic p) c
  | attempt c _ ih => exact (rest c).andThen ih
  | update live change _ ih =>
    exact ih.after fun e => show _ = [] ++ e.observations from discreet live change e

theorem SelfContained.run_follows {program : Program} (contained : program.SelfContained)
    (discreet : nested.Discreet) {next next' : Stage} (rest : ∀ c, Follows [] (next' c) (next c)) :
    Follows [] (program.run nested next') (program.run nested next) :=
  (contained.follows discreet rest).close

theorem guard_eq (nested : Nested) (program : Program) (next : Stage) :
    program.guard nested next =
      EngineRun.andThen (program.run nested .finish) fun outcome c =>
        match outcome with
        | .ok => next c
        | stopped => fun e => (stopped, c, e) := by
  funext e
  rw [guard, EngineRun.andThen]
  obtain ⟨outcome, c, e'⟩ := program.run nested .finish e
  cases outcome <;> rfl

theorem SelfContained.guard_follows {program : Program} (contained : program.SelfContained)
    (discreet : nested.Discreet) {next next' : Stage} (rest : ∀ c, Follows [] (next' c) (next c)) :
    Follows [] (program.guard nested next') (program.guard nested next) := by
  rw [guard_eq, guard_eq]
  refine (contained.run_follows discreet Stage.finish_follows).andThen fun outcome c => ?_
  cases outcome with
  | ok => exact rest c
  | error f => exact follows_done (.error f) c
  | panic p => exact follows_done (.panic p) c

end Program

namespace Middleware

/-- Notes the context on the way in and on the way out. -/
def watch : Middleware :=
  .wrap "watch" fun c => .observe (.context c) (.attempt c fun outcome c =>
    .observe (.context c) (.done outcome c))

theorem SelfContained.around_follows {m : Middleware} (contained : m.SelfContained)
    (discreet : nested.Discreet) {next next' : Stage} (rest : ∀ c, Follows [] (next' c) (next c))
    (c : Context) : Follows [] (m.around nested next' c) (m.around nested next c) := by
  cases m with
  | wrap name run => exact (contained c).run_follows discreet rest
  | before name run => exact (contained c).guard_follows discreet rest
  | exchange name run =>
    rw [around_exchange, around_exchange]
    split
    · exact rest c
    · exact (Exchange.toProgram_selfContained run c).guard_follows discreet rest

/-- A watch notes first of all the context it is handed, and changes nothing. -/
theorem watch_follows (nested : Nested) {next next' : Stage} (rest : ∀ c, Follows [] (next' c) (next c))
    (c : Context) : Follows [.context c] (watch.around nested next' c) (next c) := by
  obtain ⟨outcome, c', notes, noted, settles, settles'⟩ := rest c
  rw [List.append_nil] at settles'
  refine ⟨outcome, c', notes, .context c' :: noted, settles, fun e => ?_⟩
  obtain ⟨after, ran, added⟩ := settles' (e.observe (.context c))
  refine ⟨{ after.observe (.context c') with spans := e.spans }, ?_, ?_⟩
  · simp only [watch, around, Program.run, Program.observe, Program.execute, Engine.perform, ran]
  · change Observation.context c' :: after.observations = _
    rw [added]
    simp [Engine.observe]

end Middleware

namespace Chain

/-- Watches before every layer and before the handler. -/
def watchedLayers : List Middleware → List Middleware
  | [] => [.watch]
  | m :: rest => .watch :: m :: watchedLayers rest

def watched (chain : Chain) : Chain := ⟨watchedLayers chain.layers, chain.handler⟩

/-- A chain ends alike whether it is watched or not. -/
theorem SelfContained.watched_follows {chain : Chain} (contained : chain.SelfContained)
    (discreet : nested.Discreet) (c : Context) :
    Follows [.context c] (chain.watched.run nested c) (chain.run nested c) := by
  obtain ⟨layers, handler⟩ := chain
  obtain ⟨all, own⟩ := contained
  induction layers generalizing c with
  | nil =>
    have handled (c : Context) := (own c).run_follows discreet Stage.finish_follows
    exact Middleware.watch_follows nested handled c
  | cons m layers ih =>
    obtain ⟨here, others⟩ := List.forall_mem_cons.mp all
    have rest (c : Context) := (ih c others own).hide
    exact Middleware.watch_follows nested (here.around_follows discreet rest) c

end Chain

namespace Engine

theorem observeAll_observations (e : Engine) (notes : List Observation) :
    (notes.foldl observe e).observations = notes.reverse ++ e.observations := by
  induction notes generalizing e with
  | nil => rfl
  | cons note rest ih =>
    rw [List.foldl_cons, ih, List.reverse_cons, List.append_assoc]
    rfl

theorem observeAll_next (e : Engine) (notes : List Observation) :
    (notes.foldl observe e).ids (notes.foldl observe e).issued = e.ids e.issued := by
  induction notes generalizing e with
  | nil => rfl
  | cons note rest ih => exact ih (e.observe note)

end Engine

namespace Service

/-- The service with every part of every chain watched, and the error handler too. -/
def watched (s : Service) : Service where
  router := s.router.map fun mount => { mount with chain := mount.chain.watched }
  notFound := s.notFound.watched
  methodNotAllowed := s.methodNotAllowed.watched
  errorHandler f c := .observe (.context c) (s.errorHandler f c)
  hook := s.hook
  debug := s.debug

theorem afterHook_watched (s : Service) (request : Request) :
    s.watched.afterHook request = s.afterHook request := by
  simp only [afterHook, watched]

theorem hookNotes_watched (s : Service) (request : Request) :
    s.watched.hookNotes request = s.hookNotes request := by
  simp only [hookNotes, watched]

/-- A chain starts on a context bound to its request and on an empty response. -/
theorem binding_context (s : Service) (request : Request) (id : Ulid) :
    let c := (s.binding request id).2
    c.request = request ∧ c.method = request.method ∧
      c.path = Routing.normalize request.target.path ∧ c.requestId = id ∧ c.debug = s.debug ∧
      c.extensions = .empty ∧ c.response = .fresh := by
  unfold binding find
  generalize s.router.lookup _ _ _ = result
  obtain ⟨found, captures⟩ := result
  cases found <;> exact ⟨rfl, rfl, rfl, rfl, rfl, rfl, rfl⟩

theorem find_watched (s : Service) (c : Context) :
    s.watched.find c = ((s.find c).1.watched, (s.find c).2) := by
  unfold find watched
  rw [Routing.Router.lookup_map]
  rcases s.router.lookup c.method c.path c.captures with ⟨found, captures⟩
  cases found <;> rfl

theorem respond_eq (nested : Nested) (s : Service) (chain : Chain) (c : Context) :
    s.respond nested chain c = EngineRun.andThen (chain.run nested c) fun outcome c =>
      match outcome with
      | .error f => (s.errorHandler f c).run nested .finish
      | finished => fun e => (finished, c, e) := by
  funext e
  rw [respond, EngineRun.andThen]
  obtain ⟨outcome, c', e'⟩ := chain.run nested c e
  cases outcome <;> rfl

theorem SelfContained.respond_follows {s : Service} (contained : s.SelfContained)
    (discreet : nested.Discreet) {chain : Chain} (inside : chain.SelfContained) (c : Context) :
    Follows [.context c] (s.watched.respond nested chain.watched c) (s.respond nested chain c) := by
  rw [respond_eq, respond_eq]
  refine (inside.watched_follows discreet c).andThen fun outcome c => ?_
  cases outcome with
  | ok => exact follows_done .ok c
  | error f =>
    exact ((contained.errorHandler f c).run_follows discreet Stage.finish_follows).noting (.context c)
  | panic p => exact follows_done (.panic p) c

/-- The reply to a chain that ended like this. -/
def replyOf (outcome : Outcome) (c : Context) : Reply :=
  match outcome with
  | .panic p => .panicked p
  | _ => .answer c.response.take.1

theorem conclude_eq (lent : PooledContext) (outcome : Outcome) (c : Context) (e : Engine) :
    ∃ after, conclude lent (outcome, c, e) = (replyOf outcome c, after) ∧
      after.observations = e.observations := by
  cases outcome <;> exact ⟨_, rfl, rfl⟩

/-- Every engine whose next identifier is `id` gives this reply to the request and takes these notes,
the latest first. -/
def Replies (nested : Nested) (s : Service) (request : Request) (id : Ulid) (reply : Reply)
    (notes : List Observation) : Prop :=
  ∀ e : Engine, e.ids e.issued = id → ∃ after, s.serve nested request e = (reply, after) ∧
    after.observations = notes ++ e.observations

theorem replies_of_settles {s : Service} {request admitted : Request} {id : Ulid}
    {outcome : Outcome} {c : Context} {notes : List Observation}
    (admits : s.afterHook request = .ok admitted)
    (settles : Settles (s.respond nested (s.binding admitted id).1 (s.binding admitted id).2)
      outcome c notes) :
    s.Replies nested request id (replyOf outcome c) (notes ++ (s.hookNotes request).reverse) := by
  intro e next
  rw [serve_eq, admits]
  have observed := e.observeAll_observations (s.hookNotes request)
  have same := (e.observeAll_next (s.hookNotes request)).trans next
  generalize (s.hookNotes request).foldl Engine.observe e = e' at observed same
  dsimp only
  rw [handle_eq, same]
  obtain ⟨after, ran, noted⟩ := settles (e'.beginning (dispatchEvent (s.binding admitted id).2))
  obtain ⟨final, replied, kept⟩ := conclude_eq e'.pool.acquire.1 outcome c after
  refine ⟨final, ?_, ?_⟩
  · dsimp only
    rw [ran, replied]
  · rw [kept, noted, Engine.beginning_observations, observed, List.append_assoc]

theorem replies_of_hook_panic {s : Service} {request : Request} {p : Payload}
    (panics : s.afterHook request = .error p) (id : Ulid) :
    s.Replies nested request id (.panicked p) (s.hookNotes request).reverse := by
  intro e _
  rw [serve_eq, panics]
  exact ⟨_, rfl, e.observeAll_observations (s.hookNotes request)⟩

theorem binding_watched (s : Service) (request : Request) (id : Ulid) :
    s.watched.binding request id =
      ((s.binding request id).1.watched, (s.binding request id).2) :=
  s.find_watched _

/-- The reply of a self-contained service and everything its handlers and middleware are shown depend on
the request and the generated identifier alone.  Watched, the service gives the same reply. -/
theorem SelfContained.serve_settles {s : Service} (contained : s.SelfContained)
    (discreet : nested.Discreet) (request : Request) (id : Ulid) :
    ∃ reply notes shown, s.Replies nested request id reply notes ∧
      s.watched.Replies nested request id reply (shown ++ (s.hookNotes request).reverse) ∧
      ∀ admitted, s.afterHook request = .ok admitted →
        ∃ later, shown = later ++ [.context (s.binding admitted id).2] := by
  have same := s.afterHook_watched request
  rw [← s.hookNotes_watched]
  cases admits : s.afterHook request with
  | error p =>
    exact ⟨.panicked p, _, [], replies_of_hook_panic admits id,
      replies_of_hook_panic (same.trans admits) id, nofun⟩
  | ok admitted =>
    have inside : (s.binding admitted id).1.SelfContained := contained.find _
    obtain ⟨outcome, c, notes, noted, settles, settles'⟩ :=
      contained.respond_follows discreet inside (s.binding admitted id).2
    refine ⟨replyOf outcome c, _, noted ++ [.context (s.binding admitted id).2],
      replies_of_settles admits settles, replies_of_settles (same.trans admits) ?_, ?_⟩
    · simpa only [binding_watched] using settles'
    · rintro _ ⟨⟩
      exact ⟨noted, rfl⟩

end Service

end RequestDispatch
