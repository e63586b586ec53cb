import RequestDispatch.Http.Method
import RequestDispatch.Text.Utf8

/-!
# What a search collects

The byte ranges captured for parameters, and the methods registered on paths that matched without
offering the requested one.
-/

namespace RequestDispatch.Routing

/-- Captured ranges in template order.  `peak` is the largest number of ranges held at once since the
buffer was cleared. -/
structure Captures where
  ranges : List Range
  peak : Nat
  deriving DecidableEq, Repr

namespace Captures

def empty : Captures := ⟨[], 0⟩

def push (c : Captures) (r : Range) : Captures :=
  ⟨c.ranges ++ [r], max c.peak (c.ranges.length + 1)⟩

/-- The buffer as a new search finds it, whatever it held before. -/
def clear (_ : Captures) : Captures := empty

/-- Forgets all but the first `count` ranges. -/
def truncate (c : Captures) (count : Nat) : Captures :=
  { c with ranges := c.ranges.take count }

@[simp] theorem ranges_push (c : Captures) (r : Range) : (c.push r).ranges = c.ranges ++ [r] := rfl

@[simp] theorem ranges_truncate (c : Captures) (count : Nat) :
    (c.truncate count).ranges = c.ranges.take count := rfl

end Captures

/-- The two collections that a search hands from branch to branch. -/
structure Findings where
  captures : Captures
  allowed : List Method
  deriving DecidableEq, Repr

namespace Findings

def push (f : Findings) (r : Range) : Findings := { f with captures := f.captures.push r }

def truncate (f : Findings) (count : Nat) : Findings :=
  { f with captures := f.captures.truncate count }

/-- Adds the methods that are not yet listed. -/
def allow (f : Findings) (methods : List Method) : Findings :=
  { f with allowed := addDistinct f.allowed methods }

end Findings

end RequestDispatch.Routing
