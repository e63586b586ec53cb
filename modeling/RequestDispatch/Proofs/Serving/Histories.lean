import RequestDispatch.Proofs.Serving.Independence
import RequestDispatch.Proofs.Setup.LiveUpdates

/-!
# Histories of services that share a pool

Dispatchers, the services built from them and live services run on one engine.  Whatever has happened
on it, a service that was obtained at some time answers a request as it would have right after its build
(`Family.serving_is_history_independent`).
-/

namespace RequestDispatch

open Routing (Router Submission)

namespace Engine

theorem build_observations (e : Engine) (d : Dispatcher) :
    (e.build d).2.observations = e.observations := by
  simp only [build, reserveCaptures]
  split <;> rfl

/-- Building gives out no identifier. -/
theorem build_next (e : Engine) (d : Dispatcher) :
    (e.build d).2.ids (e.build d).2.issued = e.ids e.issued := by
  simp only [build, reserveCaptures]
  split <;> rfl

theorem update_observations {α : Type} (e : Engine) (name : String) (change : Setup α) :
    (e.update name change).2.observations = e.observations :=
  update_keeps (fun e e' => e'.observations = e.observations) (fun _ => rfl)
    (fun first second => second.trans first) (fun _ _ => rfl) build_observations (fun _ _ => rfl)
    change e

end Engine

theorem Nested.upTo_discreet (depth : Nat) : (Nested.upTo depth).Discreet := by
  intro name change e
  cases depth <;> exact e.update_observations name (Registration.change change)

/-- Dispatchers and services that share the pool of one engine. -/
structure Family where
  engine : Engine
  dispatchers : List Dispatcher
  services : List Service

namespace Family

/-- What can happen to a family.  Dispatchers and services are named by their positions, live services
by their names; new ones come last. -/
inductive Operation where
  | register (dispatcher : Nat) (change : Change)
  | clone (dispatcher : Nat)
  | build (dispatcher : Nat)
  | goLive (dispatcher : Nat) (name : String)
  | update (name : String) (change : Change)
  | snapshot (name : String)
  | serve (service : Nat) (request : Request)
  | serveLive (name : String) (request : Request)

/-- One operation; one on something that does not exist does nothing.  A change of a dispatcher that
fails leaves in place what it did before. -/
def step (depth : Nat) (f : Family) : Operation → Family
  | .register i change =>
    match f.dispatchers[i]? with
    | none => f
    | some d =>
      let (_, d, events) := Setup.on d change.2
      { f with engine := f.engine.logAll events, dispatchers := f.dispatchers.set i d }
  | .clone i =>
    match f.dispatchers[i]? with
    | none => f
    | some d => { f with dispatchers := f.dispatchers ++ [d] }
  | .build i =>
    match f.dispatchers[i]? with
    | none => f
    | some d =>
      let (s, e) := f.engine.build d
      { f with engine := e, services := f.services ++ [s] }
  | .goLive i name =>
    match f.dispatchers[i]? with
    | none => f
    | some d => { f with engine := f.engine.goLive name d }
  | .update name change => { f with engine := (f.engine.update name change.2).2 }
  | .snapshot name =>
    match f.engine.live? name with
    | none => f
    | some live => { f with services := f.services ++ [live.current] }
  | .serve i request =>
    match f.services[i]? with
    | none => f
    | some s => { f with engine := (s.serve (.upTo depth) request f.engine).2 }
  | .serveLive name request =>
    match f.engine.live? name with
    | none => f
    | some live => { f with engine := (live.current.serve (.upTo depth) request f.engine).2 }

def run (depth : Nat) (f : Family) (operations : List Operation) : Family :=
  operations.foldl (step depth) f

theorem step_build (depth : Nat) (f : Family) (i : Nat) (d : Dispatcher)
    (known : f.dispatchers[i]? = some d) :
    (f.step depth (.build i)).services = f.services ++ [d.build] := by
  rw [step, known]
  rfl

/-- A service that has been obtained stays as it is. -/
theorem step_services (depth : Nat) (f : Family) (operation : Operation) :
    f.services <+: (f.step depth operation).services := by
  cases operation with
  | update name change => exact List.prefix_rfl
  | build i | snapshot name =>
    rw [step]
    split
    · exact List.prefix_rfl
    · exact List.prefix_append ..
  | register i change | clone i | goLive i name | serve i request | serveLive name request =>
    rw [step]
    split <;> exact List.prefix_rfl

theorem run_services (depth : Nat) (f : Family) (operations : List Operation) :
    f.services <+: (f.run depth operations).services := by
  induction operations generalizing f with
  | nil => exact List.prefix_rfl
  | cons operation rest ih => exact (f.step_services depth operation).trans (ih _)

theorem run_append (depth : Nat) (f : Family) (before later : List Operation) :
    f.run depth (before ++ later) = (f.run depth before).run depth later :=
  List.foldl_append

/-- Whatever happens after a service was obtained, it stays as it is, and it answers a request as it
does on any other engine that gives out the same identifier, such as one right after the build with an
empty pool.  Its handlers and middleware are shown the same contexts, as a watch over every part of its
chains tells: the first is bound to the request and has an empty response.  The service is assumed to be
self-contained, nothing is assumed of the others in the family. -/
theorem serving_is_history_independent (depth : Nat) (start : Family)
    (before later : List Operation) (i : Nat) (s : Service)
    (obtained : (start.run depth before).services[i]? = some s) (contained : s.SelfContained)
    (request : Request) (fresh : Engine) :
    let now := start.run depth (before ++ later)
    let id := now.engine.ids now.engine.issued
    let serve := s.serve (.upTo depth) request
    let watch := s.watched.serve (.upTo depth) request
    now.services[i]? = some s ∧
    (fresh.ids fresh.issued = id →
      (serve now.engine).1 = (serve fresh).1 ∧ (watch now.engine).1 = (serve now.engine).1 ∧
      ∃ notes shown,
        (serve now.engine).2.observations = notes ++ now.engine.observations ∧
        (serve fresh).2.observations = notes ++ fresh.observations ∧
        (watch now.engine).2.observations = shown ++ now.engine.observations ∧
        (watch fresh).2.observations = shown ++ fresh.observations ∧
        ∀ admitted, s.afterHook request = .ok admitted →
          let c := (s.binding admitted id).2
          (∃ rest, shown = rest ++ .context c :: (s.hookNotes request).reverse) ∧
            c.request = admitted ∧ c.method = admitted.method ∧
            c.path = Routing.normalize admitted.target.path ∧ c.requestId = id ∧
            c.debug = s.debug ∧ c.extensions = .empty ∧ c.response = .fresh) := by
  intro now id serve watch
  refine ⟨?_, fun same => ?_⟩
  · obtain ⟨new, grown⟩ := (start.run depth before).run_services depth later
    rw [← run_append] at grown
    rw [← grown]
    exact List.getElem?_append_left (List.getElem?_eq_some_iff.mp obtained).1 ▸ obtained
  · obtain ⟨reply, notes, shown, replies, watched, first⟩ :=
      contained.serve_settles (Nested.upTo_discreet depth) request id
    obtain ⟨after, served, noted⟩ := replies now.engine rfl
    obtain ⟨after', served', noted'⟩ := replies fresh same
    obtain ⟨left, watches, seen⟩ := watched now.engine rfl
    obtain ⟨left', watches', seen'⟩ := watched fresh same
    refine ⟨?_, ?_, notes, shown ++ (s.hookNotes request).reverse, ?_, ?_, ?_, ?_,
      fun admitted admits => ?_⟩
    · simp only [serve, served, served']
    · simp only [serve, watch, served, watches]
    · simpa only [serve, served] using noted
    · simpa only [serve, served'] using noted'
    · simpa only [watch, watches] using seen
    · simpa only [watch, watches'] using seen'
    · obtain ⟨rest, begins⟩ := first admitted admits
      refine ⟨⟨rest, ?_⟩, s.binding_context admitted id⟩
      rw [begins, List.append_assoc]
      rfl

/-- A service with all built-in middleware, after a request of its own and one that panicked on the
context it had left, in a service built later from another dispatcher of the family. -/
theorem serving_after_a_panic :
    let calls : List (Submission Mount) :=
      [⟨.get, "/users/:id", "echo", ⟨none, ⟨[], .echo⟩⟩⟩,
        ⟨.get, "/health", "ok", ⟨none, ⟨[], .statusOk⟩⟩⟩,
        ⟨.delete, "/users/:id", "no_content", ⟨none, ⟨[], .noContent⟩⟩⟩]
    let d : Dispatcher := { Dispatcher.create .standard with
      router := Router.empty.addAll calls
      middleware := [.recover, .requestId, .requestLogger, .metrics 0] }
    let start : Family :=
      ⟨.create (.create 2 1) Ulid.ofNat, [d, .create .standard], []⟩
    let boom : Handler := .context "boom" fun c =>
      .done (.panic (.text "boom")) { c with response := c.response.commitStatus .ok }
    let later : List Operation :=
      [.serve 0 ⟨.get, ⟨"/users/1", none⟩, [], []⟩,
        .register 1 ⟨Unit, Registration.change [.route [.get] "/boom" boom]⟩, .build 1,
        .serve 1 ⟨.get, ⟨"/boom", none⟩, [], []⟩]
    let now := (start.run 1 ([.build 0] ++ later)).engine
    let fresh := ((Engine.create (.empty 2) fun _ => now.ids now.issued).build d).2
    let request : Request := ⟨.get, ⟨"/users/2", none⟩, [], []⟩
    (start.run 1 [.build 0]).services[0]? = some d.build ∧ d.build.SelfContained ∧
      fresh.ids fresh.issued = now.ids now.issued ∧
      (d.build.serve (.upTo 1) request now).1 = (d.build.serve (.upTo 1) request fresh).1 := by
  intro calls d start boom later
  have all : Router.empty.accepted calls = calls := by rfl
  have holds : d.router.Holds calls := all ▸ Router.holds_accepted calls
  have contained : d.build.SelfContained := by
    refine Dispatcher.build_selfContained holds ?_ ?_ nofun Handler.notFound_selfContained
      Handler.methodNotAllowed_selfContained ErrorHandler.standard_selfContained
    · simp only [calls, List.forall_mem_cons]
      exact ⟨Handler.echo_selfContained, Handler.statusOk_selfContained,
        Handler.noContent_selfContained, nofun⟩
    · simp only [d, List.forall_mem_cons]
      exact ⟨Middleware.recover_selfContained, Middleware.requestId_selfContained,
        Middleware.requestLogger_selfContained, Middleware.metrics_selfContained 0, nofun⟩
  have obtained : (start.run 1 [.build 0]).services[0]? = some d.build := by
    have built := step_build 1 start 0 d rfl
    rw [run, List.foldl_cons, List.foldl_nil, built]
    rfl
  have agrees := serving_is_history_independent 1 start [.build 0] later 0 d.build obtained contained
  generalize start.run 1 ([.build 0] ++ later) = family at agrees ⊢
  intro now fresh request
  have same : fresh.ids fresh.issued = now.ids now.issued := Engine.build_next _ d
  exact ⟨obtained, contained, same, ((agrees request fresh).2 same).1⟩

end Family

end RequestDispatch
