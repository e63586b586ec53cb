import RequestDispatch.Proofs.Routing.CaptureBound
import RequestDispatch.Proofs.Serving.Histories
import RequestDispatch.Proofs.Serving.NestedCalls
import RequestDispatch.Proofs.Serving.Tallies
import RequestDispatch.Proofs.Setup.Frames

/-!
# Contexts are created for the captures of their service

Building a service makes the pool fit the parameters of its routes, and the pool only ever grows.  So
whatever dispatchers, services and live services share one pool, and whoever else uses it, a context that
is taken for a request has been created for at least as many captures as the routes of the service have
parameters, and no lookup of the service ever holds more (`Family.captures_fit`).

Two invariants carry this.  The pool's accounts balance, so a context that is handed out is of the current
capacity, even if others of earlier generations are still held.  And every service fits the pool, those
that run behind a live name included (`Engine.Ready`); nested requests and updates keep it so.
-/

namespace RequestDispatch

open Routing (Router)

/-! ### Routes reach a router by being registered -/

/-- The setup leaves a router to which registering leads if it starts from one. -/
def Setup.Registers {α : Type} (step : Setup α) : Prop :=
  step.Keeps fun s s' => s.dispatcher.router.Registered → s'.dispatcher.router.Registered

theorem Setup.frame_registers :
    Frame fun s s' => s.dispatcher.router.Registered → s'.dispatcher.router.Registered where
  refl _ := id
  trans first second := second ∘ first
  report _ _ _ := id
  change _ _ same registered := by
    rwa [same]
  accept _ _ _ _ ok registered := registered.submit ok

theorem Registration.change_registers (rs : List Registration) : (change rs).Registers :=
  change_keeps Setup.frame_registers rs

theorem RouteTable.apply_registers (table : RouteTable) (registry : Registry) :
    (table.apply registry).Registers :=
  table.apply_keeps Setup.frame_registers registry

theorem Setup.Registers.on {α : Type} {step : Setup α} (registers : step.Registers) {d : Dispatcher}
    (registered : d.router.Registered) : (Setup.on d step).2.1.router.Registered :=
  registers ⟨d, []⟩ registered

theorem Dispatcher.apply_registered {d d' : Dispatcher} {change : Change}
    (registers : change.2.Registers) (registered : d.router.Registered)
    (succeeded : d.apply change = .ok d') : d'.router.Registered := by
  have left := registers.on registered
  rw [apply] at succeeded
  generalize Setup.on d change.2 = ran at left succeeded
  obtain ⟨result, left', events⟩ := ran
  cases result with
  | error error => cases succeeded
  | ok a =>
    cases succeeded
    exact left

/-! ### Capacities -/

theorem Pool.acquire_paramCapacity (pool : Pool) :
    pool.acquire.2.paramCapacity = pool.paramCapacity := by
  rw [acquire]
  split <;> rfl

theorem Pool.release_paramCapacity (pool : Pool) (c : PooledContext) :
    (pool.release c).paramCapacity = pool.paramCapacity := by
  rw [release]
  split_ifs <;> rfl

namespace Ledger

variable {l : Ledger}

/-- No call lowers the capacity. -/
theorem capacity_le_call (l : Ledger) (call : PoolCall) :
    l.pool.paramCapacity ≤ (l.call call).pool.paramCapacity := by
  cases call with
  | prewarm count => exact Nat.le_refl _
  | acquire => exact Nat.le_of_eq l.pool.acquire_paramCapacity.symm
  | alter slot context =>
    rw [Ledger.call]
    split <;> exact Nat.le_refl _
  | release slot =>
    rw [Ledger.call]
    split
    · exact Nat.le_refl _
    · exact Nat.le_of_eq (l.pool.release_paramCapacity _).symm
  | reserve params =>
    rw [Ledger.call, Pool.reserveCaptures]
    split
    · exact Nat.le_refl _
    · rename_i more
      exact Nat.le_of_not_le more

theorem capacity_le_run (l : Ledger) (calls : List PoolCall) :
    l.pool.paramCapacity ≤ (l.run calls).pool.paramCapacity := by
  induction calls generalizing l with
  | nil => exact Nat.le_refl _
  | cons call rest ih => exact Nat.le_trans (l.capacity_le_call call) (ih (l.call call))

/-- A context that is handed out is of the current capacity. -/
theorem Accounts.acquire_capacity (h : l.Accounts) :
    l.pool.acquire.1.capacity = l.pool.paramCapacity := by
  cases idle : l.pool.idle with
  | nil =>
    rw [Pool.acquire_of_empty idle]
    rfl
  | cons c rest =>
    have current : c = l.pool.fresh := h.idle c (idle ▸ List.mem_cons_self)
    rw [Pool.acquire_of_idle idle (congrArg PooledContext.generation current), current]
    rfl

/-- What a call does to the pool and the contexts that are held depends on these alone. -/
theorem call_congr {l l' : Ledger} (pool : l.pool = l'.pool) (held : l.held = l'.held)
    (call : PoolCall) :
    (l.call call).pool = (l'.call call).pool ∧ (l.call call).held = (l'.call call).held := by
  cases call with
  | prewarm count => exact ⟨congrArg (Pool.prewarm · count) pool, held⟩
  | acquire =>
    simp only [Ledger.call, pool, held]
    exact ⟨trivial, trivial⟩
  | alter slot context =>
    simp only [Ledger.call, held]
    split <;> exact ⟨pool, by simp only [held]⟩
  | release slot =>
    simp only [Ledger.call, held]
    split <;> exact ⟨by simp only [pool], by simp only [held]⟩
  | reserve params => exact ⟨congrArg (Pool.reserveCaptures · params) pool, held⟩

end Ledger

namespace Engine

theorem Repays.capacity_le {e e' : Engine} (h : e.Repays e') :
    e.pool.paramCapacity ≤ e'.pool.paramCapacity := by
  let l : Ledger := ⟨e.pool, [], 0, 0, []⟩
  obtain ⟨calls, reached, _⟩ := h l rfl
  have grown := l.capacity_le_run calls
  rwa [reached] at grown

/-- No lookup of the service takes more captures than the contexts of the pool are created for. -/
structure Fits (e : Engine) (s : Service) : Prop where
  spacious : s.router.Spacious
  reserved : s.router.maxParams ≤ e.pool.paramCapacity

theorem Fits.grown {e e' : Engine} {s : Service} (h : e.Fits s)
    (grown : e.pool.paramCapacity ≤ e'.pool.paramCapacity) : e'.Fits s :=
  ⟨h.spacious, Nat.le_trans h.reserved grown⟩

/-- Every live service fits the pool and can be updated further. -/
def LivesFit (e : Engine) : Prop :=
  ∀ name live, e.live? name = some live → live.setup.router.Registered ∧ e.Fits live.current

theorem LivesFit.grown {e e' : Engine} (h : e.LivesFit) (same : e'.lives = e.lives)
    (grown : e.pool.paramCapacity ≤ e'.pool.paramCapacity) : e'.LivesFit := by
  intro name live known
  rw [live?, same] at known
  obtain ⟨registered, fits⟩ := h name live known
  exact ⟨registered, fits.grown grown⟩

/-- The accounts of the pool balance, with these contexts held, and every live service fits it. -/
structure Ready (e : Engine) (held : List PooledContext) : Prop where
  lives : e.LivesFit
  accounts : ∃ l : Ledger, l.Accounts ∧ l.pool = e.pool ∧ l.held = held

/-- What leads from one engine to the other gives back the contexts it takes, and live services that fit
the pool still do. -/
structure Reserves (e e' : Engine) : Prop where
  repays : e.Repays e'
  lives : e.LivesFit → e'.LivesFit

namespace Reserves

variable {e e' : Engine}

theorem of_same (lives : e'.lives = e.lives) (pool : e'.pool = e.pool) : e.Reserves e' where
  repays := repays_of_pool pool
  lives fit := fit.grown lives (Nat.le_of_eq (congrArg Pool.paramCapacity pool.symm))

theorem ready (h : e.Reserves e') {held : List PooledContext} (ready : e.Ready held) :
    e'.Ready held := by
  obtain ⟨l, accounts, pool, rfl⟩ := ready.accounts
  obtain ⟨calls, reached, held⟩ := h.repays l pool
  exact ⟨h.lives ready.lives, l.run calls, accounts.run calls, reached, held⟩

end Reserves

theorem frame_reserves : Frame Reserves where
  refl _ := .of_same rfl rfl
  trans first second := ⟨first.repays.trans second.repays, second.lives ∘ first.lives⟩
  perform e effect := .of_same (e.perform_lives effect) (e.perform_pool effect)
  spans _ _ := .of_same rfl rfl

/-- Building makes the pool fit the service. -/
theorem build_fits (e : Engine) {d : Dispatcher} (registered : d.router.Registered) :
    (e.build d).2.Fits d.build where
  spacious := registered.spacious.map d.compose
  reserved := by
    rw [build_pool, Pool.reserveCaptures]
    split
    · assumption
    · exact Nat.le_refl _

theorem build_reserves (e : Engine) (d : Dispatcher) : e.Reserves (e.build d).2 where
  repays := e.build_repays d
  lives fit := fit.grown (e.build_lives d) (e.build_repays d).capacity_le

/-- A build can be put behind a live name. -/
theorem setLive_reserves (e : Engine) (name : String) (live : Live)
    (registered : live.setup.router.Registered) (fits : e.Fits live.current) :
    e.Reserves (e.setLive name live) where
  repays := repays_of_pool rfl
  lives fit := by
    intro other found known
    have grown : e.pool.paramCapacity ≤ (e.setLive name live).pool.paramCapacity := Nat.le_refl _
    by_cases same : other = name
    · subst same
      rw [live?_setLive] at known
      obtain rfl := Option.some.inj known
      exact ⟨registered, fits.grown grown⟩
    · rw [e.live?_setLive_of_ne live same] at known
      exact (fit other found known).imp_right (·.grown grown)

theorem goLive_reserves (e : Engine) (name : String) {d : Dispatcher}
    (registered : d.router.Registered) : e.Reserves (e.goLive name d) :=
  frame_reserves.trans (e.build_reserves d)
    (setLive_reserves _ name ⟨d, d.build, 0⟩ registered (e.build_fits registered))

/-- An update builds from the router to which its change has led. -/
theorem update_reserves (e : Engine) (name : String) (change : Change)
    (registers : change.2.Registers) : e.Reserves (e.update name change.2).2 := by
  refine ⟨e.update_repays name change.2, fun fit => ?_⟩
  cases known : e.live? name with
  | none =>
    rw [update, known]
    exact fit
  | some live =>
    cases changed : live.setup.apply change with
    | error error =>
      obtain ⟨records, failed⟩ := update_of_error known changed
      rw [failed]
      exact fit.grown rfl (Nat.le_refl _)
    | ok d =>
      have registered : d.router.Registered :=
        Dispatcher.apply_registered registers (fit name live known).1 changed
      obtain ⟨records, event, left⟩ := update_leaves known changed
      rw [left]
      dsimp only
      have reported : e.Reserves { e with records := records } := .of_same rfl rfl
      have built := frame_reserves.trans reported (build_reserves _ d)
      have published := frame_reserves.trans built
        (setLive_reserves _ name ⟨d, d.build, live.version + 1⟩ registered (build_fits _ registered))
      exact (published.lives fit).grown rfl (Nat.le_refl _)

end Engine

/-! ### Requests -/

namespace Handling

theorem opening_paramCapacity (h : Handling) :
    h.opening.pool.paramCapacity = h.engine.pool.paramCapacity := by
  rw [opening, Engine.beginning_pool, Pool.acquire_paramCapacity]

/-- While its chain runs, the context of a request is held. -/
theorem opening_ready {h : Handling} {held : List PooledContext} (ready : h.engine.Ready held) :
    h.opening.Ready (h.lease :: held) := by
  obtain ⟨l, accounts, pool, rfl⟩ := ready.accounts
  obtain ⟨opened, taken⟩ := h.opening_ledger pool
  have grown := Nat.le_of_eq h.opening_paramCapacity.symm
  exact ⟨ready.lives.grown rfl grown, l.call .acquire, accounts.acquire, opened, taken⟩

/-- Giving the context back lowers no capacity and touches no live service. -/
theorem lease_reserves (h : Handling) (inside : h.opening.Reserves h.run.2.2) :
    h.engine.Reserves h.closing := by
  refine ⟨h.lease_repays inside.repays, fun fit => ?_⟩
  have opened := Nat.le_of_eq h.opening_paramCapacity.symm
  obtain ⟨c, closed⟩ := h.closing_pool
  have returned : h.run.2.2.pool.paramCapacity ≤ h.closing.pool.paramCapacity := by
    rw [closed, Pool.release_paramCapacity]
  exact (inside.lives (fit.grown rfl opened)).grown h.closing_lives returned

end Handling

theorem Nested.updateLive_reserves (name : String) (change : List Registration) (e : Engine) :
    e.Reserves (updateLive name change e).2 :=
  e.update_reserves name ⟨Unit, Registration.change change⟩ (Registration.change_registers change)

theorem Service.serve_reserves (s : Service) (depth : Nat) (request : Request) (e : Engine) :
    e.Reserves (s.serve (.upTo depth) request e).2 :=
  Engine.frame_reserves.served Handling.lease_reserves
    (Engine.frame_reserves.upTo Nested.updateLive_reserves Handling.lease_reserves depth) s request e

namespace Handling

/-- A context is taken for the request on an engine that is ready, and the pool fits its service. -/
structure Ready (h : Handling) : Prop where
  engine : ∃ held, h.engine.Ready held
  fits : h.engine.Fits h.service

/-- A request that a service serves from outside. -/
theorem ready_of_serve {s : Service} {depth : Nat} {request : Request} {e : Engine} {h : Handling}
    {held : List PooledContext} (ready : e.Ready held) (fits : e.Fits s)
    (admitted : s.handling? depth request e = some h) : h.Ready := by
  obtain ⟨rfl, _, _, engine⟩ := Service.service_of_handling admitted
  have hooked : e.Reserves h.engine := engine ▸ Engine.frame_reserves.observeAll e _
  exact ⟨⟨held, hooked.ready ready⟩, fits.grown hooked.repays.capacity_le⟩

/-- A request that the chain of another one makes runs on the build of a live service, which fits. -/
theorem Ready.own {h inner : Handling} {call : Call} (ready : h.Ready) (made : call ∈ h.ownCalls)
    (admitted : call.handling? = some inner) : inner.Ready := by
  obtain ⟨held, before⟩ := ready.engine
  have reached : call.engine.Ready (h.lease :: held) :=
    (Engine.frame_reserves.ownCalls Nested.updateLive_reserves lease_reserves made).ready
      (opening_ready before)
  cases call with
  | update name change e => cases admitted
  | serve name request depth e =>
    obtain ⟨live, asked, known, _, _, entered⟩ := Nested.handling_inv admitted
    exact ready_of_serve reached (reached.lives name live known).2 entered

theorem Ready.family {h : Handling} (ready : h.Ready) : ∀ inner ∈ h.family, inner.Ready := by
  refine List.forall_mem_cons.mpr ⟨ready, fun inner mem => ?_⟩
  obtain ⟨call, made, admitted⟩ := List.mem_filterMap.mp mem
  exact nested_induction Ready.own ready made admitted

/-- The context was created for all parameters of the service. -/
theorem Ready.reserved {h : Handling} (ready : h.Ready) :
    h.service.router.maxParams ≤ h.lease.capacity := by
  obtain ⟨held, l, accounts, pool, -⟩ := ready.engine.imp fun _ => Engine.Ready.accounts
  have current := accounts.acquire_capacity
  rw [pool] at current
  exact Nat.le_trans ready.fits.reserved (Nat.le_of_eq current.symm)

end Handling

theorem Service.find_captures (s : Service) (c : Context) :
    (s.find c).2.captures = (s.router.lookup c.method c.path c.captures).2 := by
  unfold find
  generalize s.router.lookup c.method c.path c.captures = result
  obtain ⟨found, captures⟩ := result
  cases found <;> rfl

/-! ### Histories -/

/-- What changes a dispatcher, directly or on a live service, adds routes by registering only. -/
def Family.Operation.Registers : Family.Operation → Prop
  | .register _ change => change.2.Registers
  | .update _ change => change.2.Registers
  | _ => True

namespace Family

/-- Dispatchers without routes, on a pool that has just been created. -/
def start (maxIdle prewarm : Nat) (ids : Nat → Ulid) (configs : List DispatchSettings) : Family :=
  ⟨.create (.create maxIdle prewarm) ids, configs.map Dispatcher.create, []⟩

/-- The requests that are handled in an operation, those nested in others too. -/
def handled (depth : Nat) (f : Family) : Operation → List Handling
  | .serve i request =>
    (f.services[i]?.bind fun s => s.handling? depth request f.engine).toList.flatMap Handling.family
  | .serveLive name request =>
    ((f.engine.live? name).bind fun live =>
      live.current.handling? depth request f.engine).toList.flatMap Handling.family
  | _ => []

/-- The engine is ready, and all services of the family fit the pool. -/
structure Ready (f : Family) (held : List PooledContext) : Prop where
  engine : f.engine.Ready held
  registered : ∀ d ∈ f.dispatchers, d.router.Registered
  services : ∀ s ∈ f.services, f.engine.Fits s

variable {f : Family} {held : List PooledContext}

theorem Ready.advance (ready : f.Ready held) {e : Engine} (reserves : f.engine.Reserves e) :
    Ready { f with engine := e } held where
  engine := reserves.ready ready.engine
  registered := ready.registered
  services s mem := (ready.services s mem).grown reserves.repays.capacity_le

theorem Ready.obtaining (ready : f.Ready held) {s : Service} (fits : f.engine.Fits s) :
    Ready { f with services := f.services ++ [s] } held where
  engine := ready.engine
  registered := ready.registered
  services := List.forall_mem_append.mpr ⟨ready.services, List.forall_mem_singleton.mpr fits⟩

/-- A change that fails may have registered routes before. -/
theorem Ready.register (ready : f.Ready held) (depth i : Nat) {change : Change}
    (registers : change.2.Registers) : (f.step depth (.register i change)).Ready held := by
  rw [step]
  cases known : f.dispatchers[i]? with
  | none => exact ready
  | some d =>
    have left := registers.on (ready.registered d (List.mem_of_getElem? known))
    dsimp only
    generalize Setup.on d change.2 = ran at left
    obtain ⟨result, d', events⟩ := ran
    obtain ⟨records, logged⟩ := f.engine.logAll_eq events
    have kept : f.engine.Reserves (f.engine.logAll events) := by
      rw [logged]
      exact .of_same rfl rfl
    have reported := ready.advance kept
    refine ⟨reported.engine, fun other mem => ?_, reported.services⟩
    rcases List.mem_or_eq_of_mem_set mem with before | rfl
    · exact ready.registered other before
    · exact left

theorem Ready.step (ready : f.Ready held) (depth : Nat) {operation : Operation}
    (registers : operation.Registers) : (f.step depth operation).Ready held := by
  cases operation with
  | register i change => exact ready.register depth i registers
  | update name change => exact ready.advance (f.engine.update_reserves name change registers)
  | clone i =>
    rw [Family.step]
    cases known : f.dispatchers[i]? with
    | none => exact ready
    | some d =>
      have registered := ready.registered d (List.mem_of_getElem? known)
      exact ⟨ready.engine,
        List.forall_mem_append.mpr ⟨ready.registered, List.forall_mem_singleton.mpr registered⟩,
        ready.services⟩
  | build i =>
    rw [Family.step]
    cases known : f.dispatchers[i]? with
    | none => exact ready
    | some d =>
      have registered := ready.registered d (List.mem_of_getElem? known)
      exact (ready.advance (f.engine.build_reserves d)).obtaining (f.engine.build_fits registered)
  | goLive i name =>
    rw [Family.step]
    cases known : f.dispatchers[i]? with
    | none => exact ready
    | some d =>
      have registered := ready.registered d (List.mem_of_getElem? known)
      exact ready.advance (f.engine.goLive_reserves name registered)
  | snapshot name =>
    rw [Family.step]
    cases known : f.engine.live? name with
    | none => exact ready
    | some live => exact ready.obtaining (ready.engine.lives name live known).2
  | serve i request =>
    rw [Family.step]
    cases known : f.services[i]? with
    | none => exact ready
    | some s => exact ready.advance (s.serve_reserves depth request f.engine)
  | serveLive name request =>
    rw [Family.step]
    cases known : f.engine.live? name with
    | none => exact ready
    | some live => exact ready.advance (live.current.serve_reserves depth request f.engine)

theorem Ready.handled (ready : f.Ready held) {depth : Nat} {operation : Operation} {h : Handling}
    (mem : h ∈ f.handled depth operation) : h.Ready := by
  have within {s : Service} {request : Request} {outer : Handling} (fits : f.engine.Fits s)
      (admitted : s.handling? depth request f.engine = some outer) (inside : h ∈ outer.family) :
      h.Ready :=
    (Handling.ready_of_serve ready.engine fits admitted).family h inside
  cases operation with
  | serve i request =>
    obtain ⟨outer, served, inside⟩ := List.mem_flatMap.mp mem
    obtain ⟨s, known, admitted⟩ := Option.bind_eq_some_iff.mp (Option.mem_toList.mp served)
    exact within (ready.services s (List.mem_of_getElem? known)) admitted inside
  | serveLive name request =>
    obtain ⟨outer, served, inside⟩ := List.mem_flatMap.mp mem
    obtain ⟨live, known, admitted⟩ := Option.bind_eq_some_iff.mp (Option.mem_toList.mp served)
    exact within (ready.engine.lives name live known).2 admitted inside
  | register | clone | build | goLive | update | snapshot => cases mem

theorem start_ready (maxIdle prewarm : Nat) (ids : Nat → Ulid) (configs : List DispatchSettings) :
    (start maxIdle prewarm ids configs).Ready [] where
  engine := ⟨nofun, .start maxIdle prewarm, Ledger.start_accounts maxIdle prewarm, rfl, rfl⟩
  registered := List.forall_mem_map.mpr fun _ _ => Router.empty_registered
  services := nofun

/-- A family whose pool others use at the same time, such as for requests in flight elsewhere. -/
structure Shared where
  family : Family
  /-- The contexts that the others hold, the latest first. -/
  held : List PooledContext

/-- What happens next. -/
inductive Occurrence where
  | operation (operation : Operation)
  /-- The others call the pool. -/
  | elsewhere (call : PoolCall)

def Occurrence.Registers : Occurrence → Prop
  | .operation own => own.Registers
  | .elsewhere _ => True

namespace Shared

def step (depth : Nat) (f : Shared) : Occurrence → Shared
  | .operation operation => { f with family := f.family.step depth operation }
  | .elsewhere call =>
    let l := Ledger.call ⟨f.family.engine.pool, f.held, 0, 0, []⟩ call
    ⟨{ f.family with engine := { f.family.engine with pool := l.pool } }, l.held⟩

/-- All requests that the family handles. -/
def handlings (depth : Nat) : List Occurrence → Shared → List Handling
  | [], _ => []
  | next :: rest, f =>
    (match next with
      | .operation operation => f.family.handled depth operation
      | .elsewhere _ => []) ++ handlings depth rest (f.step depth next)

/-- Calls of the pool keep its accounts and lower no capacity. -/
theorem ready_elsewhere {f : Shared} (ready : f.family.Ready f.held) (depth : Nat) (call : PoolCall) :
    (f.step depth (.elsewhere call)).family.Ready (f.step depth (.elsewhere call)).held := by
  obtain ⟨l, accounts, pool, held⟩ := ready.engine.accounts
  let others : Ledger := ⟨f.family.engine.pool, f.held, 0, 0, []⟩
  have called : (l.call call).pool = (others.call call).pool ∧
      (l.call call).held = (others.call call).held := Ledger.call_congr pool held call
  have grown : others.pool.paramCapacity ≤ (others.call call).pool.paramCapacity :=
    others.capacity_le_call call
  exact ⟨⟨ready.engine.lives.grown rfl grown, l.call call, accounts.call call, called⟩,
    ready.registered, fun s mem => (ready.services s mem).grown grown⟩

/-- By induction on what happens. -/
theorem ready_of_handlings {depth : Nat} {history : List Occurrence} {f : Shared}
    (ready : f.family.Ready f.held) (registers : ∀ next ∈ history, next.Registers) {h : Handling}
    (mem : h ∈ f.handlings depth history) : h.Ready := by
  induction history generalizing f with
  | nil => cases mem
  | cons next rest ih =>
    obtain ⟨here, later⟩ := List.forall_mem_cons.mp registers
    rcases List.mem_append.mp mem with now | mem
    · cases next with
      | operation operation => exact ready.handled now
      | elsewhere call => cases now
    · refine ih ?_ later mem
      cases next with
      | operation operation => exact ready.step depth here
      | elsewhere call => exact ready_elsewhere ready depth call

end Shared

/-- Whatever happens to dispatchers, services and live services that share one pool, and to the pool
besides: the context taken for a request, nested in others or not, was created for at least as many
captures as the routes of its service have parameters, and no lookup of the service, that of the request
included, holds more at any moment, also not on branches that it searches in vain. -/
theorem captures_fit (maxIdle prewarm : Nat) (ids : Nat → Ulid) (configs : List DispatchSettings)
    (depth : Nat) (history : List Occurrence) (registers : ∀ next ∈ history, next.Registers)
    {h : Handling} (mem : h ∈ Shared.handlings depth history ⟨start maxIdle prewarm ids configs, []⟩) :
    h.service.router.maxParams ≤ h.lease.capacity ∧
      h.bound.2.captures.Within h.service.router.maxParams ∧
      ∀ m path buffer, (h.service.router.lookup m path buffer).2.Within h.service.router.maxParams := by
  have ready : h.Ready :=
    Shared.ready_of_handlings (start_ready maxIdle prewarm ids configs) registers mem
  refine ⟨ready.reserved, ?_, ready.fits.spacious.lookup_within⟩
  rw [Handling.bound, Service.binding, Service.find_captures]
  exact ready.fits.spacious.lookup_within ..

/-- A request whose handler has a longer route registered and then asks for it, while a context taken
before is still out.  The lookup of the nested request first captures a parameter in vain. -/
theorem captures_fit_while_growing :
    let get (path : String) : Request := ⟨.get, ⟨path, none⟩, [], []⟩
    let grow : Handler := .context "grow" fun c =>
      .update "main" [.route [.get] "/:x/:y/:z" .echo] fun _ =>
        .serve "main" (.ok (get "/grow/2/3")) c fun _ => .ok c
    let history : List Occurrence :=
      [.operation (.register 0 ⟨Unit, Registration.change [.route [.get] "/grow/:x" grow]⟩),
        .operation (.goLive 0 "main"), .elsewhere .acquire,
        .operation (.serveLive "main" (get "/grow/1")), .elsewhere (.release 0)]
    let handlings := Shared.handlings 1 history ⟨start 2 1 Ulid.ofNat [.standard], []⟩
    (∀ next ∈ history, next.Registers) ∧
      handlings.map (fun h => (h.service.router.maxParams, h.lease.capacity,
        h.bound.2.captures.peak)) = [(1, 1, 1), (3, 3, 3)] ∧
      ∃ h ∈ handlings, h.lease.capacity = 3 ∧ h.service.router.maxParams ≤ h.lease.capacity ∧
        h.bound.2.captures.Within h.service.router.maxParams := by
  intro get grow history handlings
  have registers : ∀ next ∈ history, next.Registers := by
    simp only [history, List.forall_mem_cons]
    exact ⟨Registration.change_registers _, trivial, trivial, trivial, trivial, nofun⟩
  have shown : handlings.map (fun h => (h.service.router.maxParams, h.lease.capacity,
      h.bound.2.captures.peak)) = [(1, 1, 1), (3, 3, 3)] := by
    decide +kernel
  have last : (3, 3, 3) ∈ handlings.map fun h => (h.service.router.maxParams, h.lease.capacity,
      h.bound.2.captures.peak) := by
    rw [shown]
    decide
  obtain ⟨h, mem, same⟩ := List.mem_map.mp last
  have fit := captures_fit 2 1 Ulid.ofNat [.standard] 1 history registers mem
  exact ⟨registers, shown, h, mem, congrArg (·.2.1) same, fit.1, fit.2.1⟩

end Family

end RequestDispatch
