import RequestDispatch.Serving.Pool
import Mathlib.Data.List.Basic
import Mathlib.Tactic.SplitIfs

/-!
# The accounts of a pool

A ledger is a pool together with the contexts that are held and with what was asked of the pool.  Its
accounts balance after any calls, with any number of contexts held at once (`Ledger.run_accounts`): no
context is lost or handed out twice, idle contexts are like new ones, and capacity and generation follow
from the capacities requested.
-/

namespace RequestDispatch

/-- One call of an operation of a pool, or one change of a context that is held. -/
inductive PoolCall where
  | prewarm (count : Nat)
  | acquire
  /-- The holder of a context leaves it in another state. -/
  | alter (slot : Nat) (context : Context)
  /-- The holder of a context gives it back. -/
  | release (slot : Nat)
  | reserve (params : Nat)

structure Ledger where
  pool : Pool
  /-- The contexts handed out and not yet given back, the latest first. -/
  held : List PooledContext
  acquires : Nat
  /-- Number of contexts created ahead of their use. -/
  prewarmed : Nat
  /-- The capacities requested, in order. -/
  requested : List Nat

namespace Ledger

/-- The accounts of a pool that has just been created. -/
def start (maxIdle prewarm : Nat) : Ledger :=
  let pool := Pool.create maxIdle prewarm
  ⟨pool, [], 0, pool.idle.length, []⟩

/-- The ledger after one call.  A context that is not held cannot be used or given back. -/
def call (l : Ledger) : PoolCall → Ledger
  | .prewarm count =>
    let pool := l.pool.prewarm count
    { l with
      pool := pool
      prewarmed := l.prewarmed + (pool.idle.length - l.pool.idle.length) }
  | .acquire =>
    let (c, pool) := l.pool.acquire
    { l with pool := pool, held := c :: l.held, acquires := l.acquires + 1 }
  | .alter slot context =>
    match l.held[slot]? with
    | none => l
    | some c => { l with held := l.held.set slot { c with context := context } }
  | .release slot =>
    match l.held[slot]? with
    | none => l
    | some c => { l with pool := l.pool.release c, held := l.held.eraseIdx slot }
  | .reserve params =>
    { l with pool := l.pool.reserveCaptures params, requested := l.requested ++ [params] }

def run (l : Ledger) (calls : List PoolCall) : Ledger := calls.foldl call l

/-- The greatest capacity requested. -/
def peak (requested : List Nat) : Nat := requested.foldl max 0

/-- Number of requests that exceed `greatest` and all requests before them. -/
def raisesAbove (greatest : Nat) : List Nat → Nat
  | [] => 0
  | params :: rest =>
    if params ≤ greatest then raisesAbove greatest rest else raisesAbove params rest + 1

/-- Number of requests that raised the capacity. -/
def raises (requested : List Nat) : Nat := raisesAbove 0 requested

theorem peak_concat (requested : List Nat) (params : Nat) :
    peak (requested ++ [params]) = max (peak requested) params :=
  List.foldl_concat ..

theorem raisesAbove_concat (greatest : Nat) (requested : List Nat) (params : Nat) :
    raisesAbove greatest (requested ++ [params]) =
      raisesAbove greatest requested + if params ≤ requested.foldl max greatest then 0 else 1 := by
  induction requested generalizing greatest with
  | nil => by_cases below : params ≤ greatest <;> simp [raisesAbove, below]
  | cons first rest ih =>
    rw [List.cons_append, raisesAbove, raisesAbove, List.foldl_cons]
    by_cases below : first ≤ greatest
    · rw [if_pos below, if_pos below, ih, Nat.max_eq_left below]
    · rw [if_neg below, if_neg below, ih, Nat.max_eq_right (Nat.le_of_not_le below)]
      omega

theorem raises_concat (requested : List Nat) (params : Nat) :
    raises (requested ++ [params]) =
      raises requested + if params ≤ peak requested then 0 else 1 :=
  raisesAbove_concat 0 requested params

/-- What holds of a ledger at any time. -/
structure Accounts (l : Ledger) : Prop where
  bounded : l.pool.idle.length ≤ l.pool.maxIdle
  /-- Idle contexts are cleared, of the current generation and created for the current capacity. -/
  idle : ∀ c ∈ l.pool.idle, c = l.pool.fresh
  /-- A context that is held is of an earlier generation or was created for the current capacity. -/
  held : ∀ c ∈ l.held, c.generation < l.pool.generation ∨
    c.generation = l.pool.generation ∧ c.capacity = l.pool.paramCapacity
  balance : l.pool.allocated = l.pool.idle.length + l.held.length + l.pool.discarded
  taken : l.pool.allocated + l.pool.reused = l.acquires + l.prewarmed
  capacity : l.pool.paramCapacity = peak l.requested
  generation : l.pool.generation = raises l.requested

end Ledger

namespace Pool

variable {pool : Pool}

theorem acquire_of_idle {c : PooledContext} {rest : List PooledContext}
    (idle : pool.idle = c :: rest) (current : c.generation = pool.generation) :
    pool.acquire = (c, { pool with idle := rest, reused := pool.reused + 1 }) := by
  unfold acquire
  simp [idle, current]

theorem acquire_of_empty (idle : pool.idle = []) :
    pool.acquire = (pool.fresh, { pool with allocated := pool.allocated + 1 }) := by
  unfold acquire
  simp [idle]

theorem acquire_maxIdle (pool : Pool) : pool.acquire.2.maxIdle = pool.maxIdle := by
  rw [acquire]
  split <;> rfl

end Pool

/-- A context that is cleared is like a new one. -/
theorem Context.clear_eq_fresh (c : Context) : c.clear = .fresh := rfl

namespace Ledger

variable {l : Ledger}

theorem Accounts.prewarm (h : l.Accounts) (count : Nat) : (l.call (.prewarm count)).Accounts where
  bounded := by
    have bounded := h.bounded
    simp only [call, Pool.prewarm, List.length_append, List.length_replicate]
    omega
  idle := by
    intro c mem
    rcases List.mem_append.mp mem with new | old
    · exact (List.mem_replicate.mp new).2
    · exact h.idle c old
  held := h.held
  balance := by
    have balance := h.balance
    simp only [call, Pool.prewarm, List.length_append, List.length_replicate]
    omega
  taken := by
    have taken := h.taken
    simp only [call, Pool.prewarm, List.length_append, List.length_replicate]
    omega
  capacity := h.capacity
  generation := h.generation

theorem Accounts.acquire (h : l.Accounts) : (l.call .acquire).Accounts := by
  have current : ∀ c, c = l.pool.fresh → c.generation = l.pool.generation ∧
      c.capacity = l.pool.paramCapacity := by
    rintro c rfl
    exact ⟨rfl, rfl⟩
  have balance := h.balance
  have taken := h.taken
  cases idle : l.pool.idle with
  | nil =>
    rw [call, Pool.acquire_of_empty idle]
    rw [idle, List.length_nil] at balance
    exact {
      bounded := h.bounded
      idle := h.idle
      held := List.forall_mem_cons.mpr ⟨.inr (current _ rfl), h.held⟩
      balance := by simp only [idle, List.length_nil, List.length_cons]; omega
      taken := by simp only []; omega
      capacity := h.capacity
      generation := h.generation }
  | cons c rest =>
    have ready := h.idle
    have bounded := h.bounded
    rw [idle, List.forall_mem_cons] at ready
    rw [idle, List.length_cons] at balance bounded
    rw [call, Pool.acquire_of_idle idle (current c ready.1).1]
    exact {
      bounded := Nat.le_of_succ_le bounded
      idle := ready.2
      held := List.forall_mem_cons.mpr ⟨.inr (current c ready.1), h.held⟩
      balance := by simp only [List.length_cons]; omega
      taken := by simp only []; omega
      capacity := h.capacity
      generation := h.generation }

theorem Accounts.alter (h : l.Accounts) (slot : Nat) (context : Context) :
    (l.call (.alter slot context)).Accounts := by
  rw [Ledger.call]
  split
  · exact h
  · rename_i c found
    exact {
      bounded := h.bounded
      idle := h.idle
      held := by
        intro d mem
        rcases List.mem_or_eq_of_mem_set mem with old | rfl
        · exact h.held d old
        · exact h.held c (List.mem_of_getElem? found)
      balance := by
        rw [List.length_set]
        exact h.balance
      taken := h.taken
      capacity := h.capacity
      generation := h.generation }

theorem Accounts.release (h : l.Accounts) (slot : Nat) : (l.call (.release slot)).Accounts := by
  rw [Ledger.call]
  split
  · exact h
  · rename_i c found
    obtain ⟨below, _⟩ := List.getElem?_eq_some_iff.mp found
    have fewer : (l.held.eraseIdx slot).length + 1 = l.held.length := by
      rw [List.length_eraseIdx_of_lt below]
      omega
    have remaining : ∀ d ∈ l.held.eraseIdx slot, d.generation < l.pool.generation ∨
        d.generation = l.pool.generation ∧ d.capacity = l.pool.paramCapacity :=
      fun d mem => h.held d (List.mem_of_mem_eraseIdx mem)
    have balance := h.balance
    have dropped : Accounts { l with
        pool := { l.pool with discarded := l.pool.discarded + 1 }
        held := l.held.eraseIdx slot } := {
      bounded := h.bounded
      idle := h.idle
      held := remaining
      balance := by simp only []; omega
      taken := h.taken
      capacity := h.capacity
      generation := h.generation }
    unfold Pool.release
    split
    · exact dropped
    · rename_i current
      split
      · rename_i room
        have same := Decidable.not_not.mp current
        have ready : ({ c with context := c.context.clear } : PooledContext) = l.pool.fresh := by
          rcases h.held c (List.mem_of_getElem? found) with older | ⟨_, capacity⟩
          · exact absurd same (Nat.ne_of_lt older)
          · rw [Pool.fresh, ← same, ← capacity, Context.clear_eq_fresh]
        exact {
          bounded := room
          idle := List.forall_mem_cons.mpr ⟨ready, h.idle⟩
          held := remaining
          balance := by simp only [List.length_cons]; omega
          taken := h.taken
          capacity := h.capacity
          generation := h.generation }
      · exact dropped

theorem Accounts.reserve (h : l.Accounts) (params : Nat) :
    (l.call (.reserve params)).Accounts := by
  have balance := h.balance
  rw [Ledger.call, Pool.reserveCaptures]
  split
  · rename_i enough
    exact {
      bounded := h.bounded
      idle := h.idle
      held := h.held
      balance := balance
      taken := h.taken
      capacity := by
        rw [peak_concat, ← h.capacity]
        exact (Nat.max_eq_left enough).symm
      generation := by
        rw [raises_concat, ← h.capacity, if_pos enough]
        exact h.generation }
  · rename_i more
    exact {
      bounded := Nat.zero_le _
      idle := fun c mem => absurd mem List.not_mem_nil
      held := fun c mem => by
        have before := h.held c mem
        simp only []
        omega
      balance := by simp only [List.length_nil]; omega
      taken := h.taken
      capacity := by
        rw [peak_concat, ← h.capacity]
        exact (Nat.max_eq_right (Nat.le_of_not_le more)).symm
      generation := by
        rw [raises_concat, ← h.capacity, if_neg more, ← h.generation] }

theorem Accounts.call (h : l.Accounts) (call : PoolCall) : (l.call call).Accounts := by
  cases call with
  | prewarm count => exact h.prewarm count
  | acquire => exact h.acquire
  | alter slot context => exact h.alter slot context
  | release slot => exact h.release slot
  | reserve params => exact h.reserve params

theorem start_accounts (maxIdle prewarm : Nat) : (start maxIdle prewarm).Accounts := by
  have empty : Accounts ⟨Pool.empty maxIdle, [], 0, 0, []⟩ := {
    bounded := Nat.zero_le _
    idle := fun c mem => absurd mem List.not_mem_nil
    held := fun c mem => absurd mem List.not_mem_nil
    balance := rfl
    taken := rfl
    capacity := rfl
    generation := rfl }
  have warmed := empty.prewarm prewarm
  rwa [Ledger.call, Nat.zero_add] at warmed

theorem call_maxIdle (l : Ledger) (call : PoolCall) :
    (l.call call).pool.maxIdle = l.pool.maxIdle := by
  cases call with
  | prewarm count => rfl
  | acquire => exact l.pool.acquire_maxIdle
  | alter slot context =>
    rw [Ledger.call]
    split <;> rfl
  | release slot =>
    rw [Ledger.call]
    split
    · rfl
    · rw [Pool.release]
      split_ifs <;> rfl
  | reserve params =>
    rw [Ledger.call, Pool.reserveCaptures]
    split <;> rfl

theorem run_maxIdle (l : Ledger) (calls : List PoolCall) :
    (l.run calls).pool.maxIdle = l.pool.maxIdle := by
  induction calls generalizing l with
  | nil => rfl
  | cons call rest ih => exact (ih (l.call call)).trans (l.call_maxIdle call)

theorem Accounts.run (h : l.Accounts) (calls : List PoolCall) : (l.run calls).Accounts := by
  induction calls generalizing l with
  | nil => exact h
  | cons call rest ih => exact ih (h.call call)

end Ledger
end RequestDispatch
