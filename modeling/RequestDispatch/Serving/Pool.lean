import RequestDispatch.Serving.Context

/-!
# The pool of contexts

Idle contexts wait in a list of bounded length, the most recently released first.  Every context
carries the generation in which it was created; raising the parameter capacity begins a new generation
and drops all idle contexts, and one of an earlier generation that comes back later is dropped too.
-/

namespace RequestDispatch

/-- A context together with what the pool notes about it. -/
structure PooledContext where
  context : Context
  generation : Nat
  /-- Number of captures for which it was created. -/
  capacity : Nat
  deriving DecidableEq, Repr

structure Pool where
  idle : List PooledContext
  maxIdle : Nat
  paramCapacity : Nat
  generation : Nat
  allocated : Nat
  reused : Nat
  discarded : Nat
  deriving Repr

/-- The counters of a pool at one moment. -/
structure PoolUsage where
  allocated : Nat
  reused : Nat
  discarded : Nat
  idle : Nat
  generation : Nat
  paramCapacity : Nat
  deriving DecidableEq, Repr

namespace Pool

def empty (maxIdle : Nat) : Pool := ⟨[], maxIdle, 0, 0, 0, 0, 0⟩

/-- A new context of the current generation and capacity. -/
def fresh (pool : Pool) : PooledContext := ⟨.fresh, pool.generation, pool.paramCapacity⟩

/-- Fills the idle list up to `count` contexts, but not beyond its bound. -/
def prewarm (pool : Pool) (count : Nat) : Pool :=
  let missing := min count pool.maxIdle - pool.idle.length
  { pool with
    idle := List.replicate missing pool.fresh ++ pool.idle
    allocated := pool.allocated + missing }

def create (maxIdle prewarmed : Nat) : Pool := (empty maxIdle).prewarm prewarmed

/-- Takes the first idle context of the current generation and drops those before it; a new context
is created when none is left. -/
def acquire (pool : Pool) : PooledContext × Pool :=
  let stale := pool.idle.takeWhile (·.generation ≠ pool.generation)
  let pool' := { pool with discarded := pool.discarded + stale.length }
  match pool.idle.dropWhile (·.generation ≠ pool.generation) with
  | c :: rest => (c, { pool' with idle := rest, reused := pool.reused + 1 })
  | [] => (pool.fresh, { pool' with idle := [], allocated := pool.allocated + 1 })

/-- Takes a context back.  It is cleared, and dropped when its generation is over or the idle list is
full. -/
def release (pool : Pool) (c : PooledContext) : Pool :=
  if c.generation ≠ pool.generation then { pool with discarded := pool.discarded + 1 }
  else if pool.idle.length < pool.maxIdle then
    { pool with idle := { c with context := c.context.clear } :: pool.idle }
  else { pool with discarded := pool.discarded + 1 }

/-- Makes sure that contexts handed out from now on are created for `params` captures. -/
def reserveCaptures (pool : Pool) (params : Nat) : Pool :=
  if params ≤ pool.paramCapacity then pool
  else
    { pool with
      idle := []
      paramCapacity := params
      generation := pool.generation + 1
      discarded := pool.discarded + pool.idle.length }

def usage (pool : Pool) : PoolUsage :=
  ⟨pool.allocated, pool.reused, pool.discarded, pool.idle.length, pool.generation,
    pool.paramCapacity⟩

end Pool

end RequestDispatch
