/-!
# Settings of a dispatcher

What shapes a dispatcher when it is created: debug mode, the bounds of the context pool and the stack
size of workers.
-/

namespace RequestDispatch

structure PoolSettings where
  /-- Idle contexts kept for reuse. -/
  maxIdle : Nat
  /-- Contexts created ahead of the first request. -/
  prewarm : Nat
  deriving DecidableEq, Repr

def PoolSettings.standard : PoolSettings := ⟨1024, 0⟩

structure DispatchSettings where
  debug : Bool
  pool : PoolSettings
  /-- Bytes of stack for each worker of a load run. -/
  stackSize : Nat
  deriving DecidableEq, Repr

def DispatchSettings.standard : DispatchSettings := ⟨false, .standard, 0x4000⟩

end RequestDispatch
