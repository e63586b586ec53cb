import RequestDispatch.Proofs.Serving.Frames
import RequestDispatch.Proofs.Serving.PoolLedger

/-!
# Leases

Serving a request takes one context from the pool and gives the same one back, whatever the chain does
in between and however it ends; all else that happens to the pool meanwhile is done by nested calls.
-/

namespace RequestDispatch

variable {nested : Nested}

/-- Pools that nested calls, one after another, can lead to. -/
inductive Nested.Reaches (nested : Nested) : Pool → Pool → Prop where
  | refl (pool : Pool) : Reaches nested pool pool
  | serve {pool : Pool} (live : String) (request : Except RequestError Request) (e : Engine) :
    Reaches nested pool e.pool → Reaches nested pool (nested.serve live request e).2.pool
  | update {pool : Pool} (live : String) (change : List Registration) (e : Engine) :
    Reaches nested pool e.pool → Reaches nested pool (nested.update live change e).2.pool

theorem Nested.Reaches.trans {first second third : Pool} (reached : nested.Reaches first second)
    (further : nested.Reaches second third) : nested.Reaches first third := by
  induction further with
  | refl => exact reached
  | serve live request e _ ih => exact .serve live request e ih
  | update live change e _ ih => exact .update live change e ih

/-- Nested calls that leave every pool as it is lead nowhere else. -/
theorem Nested.Reaches.eq_of_keeps {before after : Pool}
    (quiet : nested.Keeps fun e e' => e'.pool = e.pool) (reached : nested.Reaches before after) :
    after = before := by
  induction reached with
  | refl => rfl
  | serve live request e _ ih => exact (quiet.serve live request e).trans ih
  | update live change e _ ih => exact (quiet.update live change e).trans ih

namespace Engine

theorem perform_pool (e : Engine) (effect : Effect) : (e.perform effect).pool = e.pool := by
  cases effect with
  | recordStatus status =>
    rw [perform, recordStatus]
    split <;> rfl
  | _ => rfl

/-- Only nested calls change the pool while a chain runs. -/
theorem frame_pool (nested : Nested) : Frame fun e e' => nested.Reaches e.pool e'.pool where
  refl e := .refl e.pool
  trans := Nested.Reaches.trans
  perform e effect := by
    rw [perform_pool]
    exact .refl e.pool
  spans e _ := .refl e.pool

theorem observeAll_pool (e : Engine) (notes : List Observation) :
    (notes.foldl observe e).pool = e.pool := by
  induction notes generalizing e with
  | nil => rfl
  | cons note rest ih => exact ih (e.observe note)

end Engine

theorem Nested.keeps_pool (nested : Nested) :
    nested.Keeps fun e e' => nested.Reaches e.pool e'.pool where
  serve live request e := .serve live request e (.refl e.pool)
  update live change e := .update live change e (.refl e.pool)

/-- Binding a context to a request leaves nothing of what it was before. -/
theorem Context.reset_eq (c : Context) (request : Request) (debug : Bool) (id : Ulid) :
    c.reset request debug id = Context.fresh.reset request debug id := rfl

namespace Engine

theorem lease_eq (e : Engine) (request : Request) (debug : Bool) :
    e.lease request debug =
      ({ e.pool.acquire.1 with context := Context.fresh.reset request debug (e.ids e.issued) },
        { e with pool := e.pool.acquire.2, issued := e.issued + 1 }) := by
  rw [← Context.reset_eq e.pool.acquire.1.context]
  rfl

/-- The engine on which a chain starts: a context has been taken, an identifier given out, and the
request reported. -/
def beginning (e : Engine) (event : Event) : Engine :=
  log { e with pool := e.pool.acquire.2, issued := e.issued + 1 } event

theorem beginning_pool (e : Engine) (event : Event) :
    (e.beginning event).pool = e.pool.acquire.2 := rfl

theorem beginning_observations (e : Engine) (event : Event) :
    (e.beginning event).observations = e.observations := rfl

end Engine

namespace Service

/-- The chain of a request under an identifier, and the context on which it starts. -/
def binding (s : Service) (request : Request) (id : Ulid) : Chain × Context :=
  s.find (Context.fresh.reset request s.debug id)

/-- How serving ends once the chain has run on a context from the pool: the answer is taken and the
context given back. -/
def conclude (lent : PooledContext) : Outcome × Context × Engine → Reply × Engine
  | (.panic p, c, e) => (.panicked p, e.releaseUnwinding { lent with context := c })
  | (_, c, e) =>
    (.answer c.response.take.1,
      e.release { lent with context := { c with response := c.response.take.2 } })

theorem handle_eq (nested : Nested) (s : Service) (request : Request) (e : Engine) :
    s.handle nested request e =
      let bound := s.binding request (e.ids e.issued)
      conclude e.pool.acquire.1
        (s.respond nested bound.1 bound.2 (e.beginning (dispatchEvent bound.2))) := by
  delta handle
  simp only [Engine.lease_eq, binding]
  generalize s.find _ = bound
  obtain ⟨chain, c⟩ := bound
  simp only [Engine.beginning]
  generalize s.respond nested chain c _ = run
  obtain ⟨outcome, c, e⟩ := run
  cases outcome <;> rfl

/-- The request after the hook, or the panic of the hook. -/
def afterHook (s : Service) (request : Request) : Except Payload Request :=
  match s.hook with
  | none => .ok request
  | some hook => (hook request).result

/-- What the hook notes on a request. -/
def hookNotes (s : Service) (request : Request) : List Observation :=
  match s.hook with
  | none => []
  | some hook => (hook request).notes

theorem serve_eq (nested : Nested) (s : Service) (request : Request) (e : Engine) :
    s.serve nested request e =
      match s.afterHook request with
      | .error p => (.panicked p, (s.hookNotes request).foldl Engine.observe e)
      | .ok admitted => s.handle nested admitted ((s.hookNotes request).foldl Engine.observe e) := by
  unfold serve afterHook hookNotes
  cases s.hook <;> rfl

/-- `after` is a pool that a lease may leave behind: a context was taken, nested calls ran, and the
context was given back in some state. -/
def Leased (nested : Nested) (before after : Pool) : Prop :=
  ∃ context between, nested.Reaches before.acquire.2 between ∧
    after = between.release { before.acquire.1 with context := context }

theorem handle_leased (nested : Nested) (s : Service) (request : Request) (e : Engine) :
    Leased nested e.pool (s.handle nested request e).2.pool := by
  rw [handle_eq]
  generalize s.binding request (e.ids e.issued) = bound
  have reached := (Engine.frame_pool nested).respond nested.keeps_pool s bound.1 bound.2
    (e.beginning (dispatchEvent bound.2))
  rw [Engine.beginning_pool] at reached
  dsimp only
  generalize s.respond nested bound.1 bound.2 _ = run at reached ⊢
  obtain ⟨outcome, c, e'⟩ := run
  cases outcome <;> exact ⟨_, _, reached, rfl⟩

theorem serve_leased (nested : Nested) (s : Service) (request : Request) (e : Engine) :
    match s.afterHook request with
    | .error _ => (s.serve nested request e).2.pool = e.pool
    | .ok _ => Leased nested e.pool (s.serve nested request e).2.pool := by
  rw [serve_eq]
  have kept := e.observeAll_pool (s.hookNotes request)
  cases s.afterHook request with
  | error p => simpa only using kept
  | ok admitted =>
    simp only
    rw [← kept]
    exact handle_leased nested s admitted _

/-- Where nested calls leave pools alone, taking a context and giving it back is all that happens. -/
theorem Leased.alone {before after : Pool} (leased : Leased nested before after)
    (quiet : nested.Keeps fun e e' => e'.pool = e.pool) :
    ∃ context, after = before.acquire.2.release { before.acquire.1 with context := context } := by
  obtain ⟨context, between, reached, returned⟩ := leased
  rw [reached.eq_of_keeps quiet] at returned
  exact ⟨context, returned⟩

end Service

/-- The accounts of a pool balance after any calls, with any contexts held.  A request that the hook
lets through takes one context and gives that one back however its chain ends, and nothing but nested
calls touches the pool in between; where these leave pools alone, the two operations are all that
happens. -/
theorem Pool.accounts_balance :
    (∀ maxIdle prewarm calls,
      let l := (Ledger.start maxIdle prewarm).run calls
      l.pool.idle.length ≤ maxIdle ∧
      (∀ c ∈ l.pool.idle, c.context = .fresh ∧ c.generation = l.pool.generation ∧
        c.capacity = l.pool.paramCapacity) ∧
      l.pool.allocated = l.pool.idle.length + l.held.length + l.pool.discarded ∧
      l.pool.allocated + l.pool.reused = l.acquires + l.prewarmed ∧
      l.pool.paramCapacity = Ledger.peak l.requested ∧
      l.pool.generation = Ledger.raises l.requested) ∧
    ∀ (nested : Nested) (s : Service) (request : Request) (e : Engine),
      match s.afterHook request with
      | .error _ => (s.serve nested request e).2.pool = e.pool
      | .ok _ => Service.Leased nested e.pool (s.serve nested request e).2.pool ∧
        (nested.Keeps (fun e e' => e'.pool = e.pool) → ∃ context,
          (s.serve nested request e).2.pool =
            e.pool.acquire.2.release { e.pool.acquire.1 with context := context }) := by
  refine ⟨fun maxIdle prewarm calls => ?_, fun nested s request e => ?_⟩
  · intro l
    have accounts : l.Accounts := (Ledger.start_accounts maxIdle prewarm).run calls
    have bound : l.pool.maxIdle = maxIdle := Ledger.run_maxIdle _ calls
    refine ⟨bound ▸ accounts.bounded, fun c mem => ?_, accounts.balance, accounts.taken,
      accounts.capacity, accounts.generation⟩
    rw [accounts.idle c mem]
    exact ⟨rfl, rfl, rfl⟩
  · have leased := s.serve_leased nested request e
    cases result : s.afterHook request with
    | error p => simpa only [result] using leased
    | ok admitted =>
      simp only [result] at leased
      exact ⟨leased, leased.alone⟩

/-- Two contexts are held while the capacity grows; the one of the old generation is dropped when it
comes back, the new one waits for reuse.  A service without routes leases one context where no nested
call does anything. -/
theorem Pool.accounts_balance_under_growth :
    let l := (Ledger.start 2 1).run
      [.acquire, .acquire, .reserve 3, .acquire, .release 0, .release 0]
    let c : PooledContext := ⟨.fresh, 1, 3⟩
    let idle : Nested := ⟨fun _ _ e => (.unknown, e), fun _ _ e => (.unknown, e)⟩
    let s := (Dispatcher.create .standard).build
    let e := Engine.create l.pool fun _ => .nil
    (c ∈ l.pool.idle ∧ (c.context = .fresh ∧ c.generation = l.pool.generation ∧
      c.capacity = l.pool.paramCapacity) ∧
      l.held.length = 1 ∧ l.pool.usage = ⟨3, 1, 1, 1, 1, 3⟩) ∧
    idle.Keeps (fun e e' => e'.pool = e.pool) ∧
      ∃ context, (s.serve idle .blank e).2.pool =
        e.pool.acquire.2.release { e.pool.acquire.1 with context := context } := by
  intro l c idle s e
  have mem : c ∈ l.pool.idle := List.mem_singleton.mpr rfl
  have quiet : idle.Keeps fun e e' => e'.pool = e.pool := ⟨fun _ _ _ => rfl, fun _ _ _ => rfl⟩
  exact ⟨⟨mem, (Pool.accounts_balance.1 2 1 _).2.1 c mem, rfl, rfl⟩, quiet,
    (Pool.accounts_balance.2 idle s .blank e).2 quiet⟩

end RequestDispatch
