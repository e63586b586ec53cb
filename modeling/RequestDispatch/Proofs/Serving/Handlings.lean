import RequestDispatch.Proofs.Serving.Conduct

/-!
# Requests being handled and the calls they make

A handling is one request on its way through one service: a context is taken for it on some engine, and
its chain and error handler may call live services down to some depth.  The calls are read off the
trail, each with the engine on which it is made; a request served by a call is a handling of its own, and
so are those nested in it.
-/

namespace RequestDispatch

/-- One request as a service handles it, after the hook. -/
structure Handling where
  service : Service
  request : Request
  /-- The engine on which a context is taken. -/
  engine : Engine
  /-- How deep requests may be nested in this one. -/
  depth : Nat

/-- What comes of letting the hook of a service see a request; nothing is handled if it panics. -/
def Service.handling? (s : Service) (depth : Nat) (request : Request) (e : Engine) : Option Handling :=
  match s.afterHook request with
  | .error _ => none
  | .ok admitted => some ⟨s, admitted, (s.hookNotes request).foldl Engine.observe e, depth⟩

namespace Handling

def nested (h : Handling) : Nested := .upTo h.depth

/-- The identifier generated for the request. -/
def id (h : Handling) : Ulid := h.engine.ids h.engine.issued

/-- The chain, and the context on which it starts. -/
def bound (h : Handling) : Chain × Context := h.service.binding h.request h.id

/-- The context taken from the pool, as it was there. -/
def lease (h : Handling) : PooledContext := h.engine.pool.acquire.1

/-- The engine on which the chain starts. -/
def opening (h : Handling) : Engine := h.engine.beginning (Service.dispatchEvent h.bound.2)

/-- How the chain ends. -/
def chainRun (h : Handling) : Outcome × Context × Engine :=
  h.bound.1.run h.nested h.bound.2 h.opening

/-- How the chain and the error handler end. -/
def run (h : Handling) : Outcome × Context × Engine :=
  h.service.respond h.nested h.bound.1 h.bound.2 h.opening

/-- What chain and error handler do to the engine. -/
def trail (h : Handling) : List Step := h.service.trail h.nested h.bound.1 h.bound.2 h.opening

def reply (h : Handling) : Reply := Service.replyOf h.run.1 h.run.2.1

/-- The engine once the context has gone back. -/
def closing (h : Handling) : Engine := (Service.conclude h.lease h.run).2

theorem run_engine (h : Handling) : h.run.2.2 = h.opening.replay h.nested h.trail := by
  unfold run trail
  exact h.service.respond_leaves h.nested h.bound.1 h.bound.2 h.opening

theorem handle_eq (h : Handling) :
    h.service.handle h.nested h.request h.engine = (h.reply, h.closing) := by
  unfold reply closing run opening lease bound nested id
  rw [Service.handle_eq]
  dsimp only
  generalize h.service.respond _ _ _ _ = ended
  obtain ⟨outcome, c, e⟩ := ended
  cases outcome <;> rfl

/-- What an obedient service does with a request. -/
theorem obeys {conduct : Conduct} {h : Handling} (obeys : h.service.Obeys conduct) :
    conduct.leads h.bound.2 h.run.2.1 ∧ ∀ s ∈ h.trail, s.Within conduct.reports := by
  have inside : h.bound.1.Obeys conduct := by
    unfold bound
    exact obeys.binding h.request h.id
  unfold run trail
  exact obeys.respond inside h.nested h.bound.2 h.opening

end Handling

namespace Service

variable {s : Service} {depth : Nat} {request : Request} {e : Engine} {h : Handling}

theorem serve_of_handling (admitted : s.handling? depth request e = some h) :
    s.serve (.upTo depth) request e = (h.reply, h.closing) := by
  rw [handling?] at admitted
  rw [serve_eq]
  cases result : s.afterHook request with
  | error p =>
    rw [result] at admitted
    cases admitted
  | ok request' =>
    rw [result] at admitted
    obtain rfl := Option.some.inj admitted
    exact Handling.handle_eq ⟨s, request', _, depth⟩

theorem serve_of_not_handling (refused : s.handling? depth request e = none) :
    ∃ p, s.serve (.upTo depth) request e =
      (.panicked p, (s.hookNotes request).foldl Engine.observe e) := by
  rw [handling?] at refused
  rw [serve_eq]
  cases result : s.afterHook request with
  | error p => exact ⟨p, rfl⟩
  | ok request' =>
    rw [result] at refused
    cases refused

theorem service_of_handling (admitted : s.handling? depth request e = some h) :
    h.service = s ∧ h.depth = depth ∧ s.afterHook request = .ok h.request ∧
      h.engine = (s.hookNotes request).foldl Engine.observe e := by
  rw [handling?] at admitted
  split at admitted
  · cases admitted
  · rename_i request' result
    cases admitted
    exact ⟨rfl, rfl, result, rfl⟩

end Service

/-- Whether a panic is all that came of a request. -/
def Reply.isPanic : Reply → Bool
  | .panicked _ => true
  | _ => false

/-- A call of a live service and the engine on which it is made. -/
inductive Call where
  /-- Requests may be nested in what the call serves to less than `depth`. -/
  | serve (live : String) (request : Except RequestError Request) (depth : Nat) (e : Engine)
  | update (live : String) (change : List Registration) (e : Engine)

namespace Call

def engine : Call → Engine
  | .serve _ _ _ e => e
  | .update _ _ e => e

/-- The engine once the call itself has been made; what a request does is left to its handling. -/
def reached : Call → Engine
  | .serve _ _ _ e => e
  | .update live change e => (Nested.updateLive live change e).2

/-- The engine once the call is over. -/
def after : Call → Engine
  | .serve live request depth e => ((Nested.upTo depth).serve live request e).2
  | .update live change e => (Nested.updateLive live change e).2

/-- A panic leaves the call; it passes through whoever made it. -/
def Panics : Call → Prop
  | .serve live request depth e => ((Nested.upTo depth).serve live request e).1.isPanic
  | .update .. => False

instance : DecidablePred Panics
  | .serve live request depth e =>
    inferInstanceAs (Decidable (((Nested.upTo depth).serve live request e).1.isPanic = true))
  | .update .. => inferInstanceAs (Decidable False)

/-- The request that a call serves, if the live service is known and its hook lets the request in. -/
def handling? : Call → Option Handling
  | .serve live (.ok request) (depth + 1) e =>
    (e.live? live).bind fun l => l.current.handling? depth request e
  | _ => none

/-- A call and the calls made while it is served; `inner` gives those of a handling. -/
def expand (inner : Handling → List Call) (call : Call) : List Call :=
  call :: (call.handling?.map inner).getD []

end Call

namespace Nested

variable {name : String} {request : Except RequestError Request} {depth : Nat} {e : Engine}
  {h : Handling}

theorem upTo_update (depth : Nat) : (upTo depth).update = updateLive := by
  cases depth <;> rfl

/-- A call that serves a request finds a live service, whose current build serves it. -/
theorem handling_inv (admitted : (Call.serve name request depth e).handling? = some h) :
    ∃ live asked, e.live? name = some live ∧ request = .ok asked ∧ depth = h.depth + 1 ∧
      live.current.handling? h.depth asked e = some h := by
  unfold Call.handling? at admitted
  split at admitted
  · rename_i heq
    cases heq
    obtain ⟨live, known, admitted⟩ := Option.bind_eq_some_iff.mp admitted
    obtain ⟨_, same, _, _⟩ := Service.service_of_handling admitted
    exact ⟨live, _, known, rfl, congrArg (· + 1) same.symm, same ▸ admitted⟩
  · cases admitted

theorem serve_of_handling (admitted : (Call.serve name request depth e).handling? = some h) :
    (Nested.upTo depth).serve name request e = (h.reply, h.closing) := by
  obtain ⟨live, asked, known, rfl, rfl, entered⟩ := handling_inv admitted
  simp only [upTo, known]
  exact Service.serve_of_handling entered

/-- A call that handles no request does no more than let a hook take its notes. -/
theorem serve_of_not_handling (refused : (Call.serve name request depth e).handling? = none) :
    ∃ reply, ∃ notes : List Observation,
      (Nested.upTo depth).serve name request e = (reply, notes.foldl Engine.observe e) := by
  cases depth with
  | zero => exact ⟨.tooDeep, [], rfl⟩
  | succ depth =>
    simp only [upTo]
    cases known : e.live? name with
    | none => exact ⟨.unknown, [], rfl⟩
    | some live =>
      cases request with
      | error error => exact ⟨.unreadable error, [], rfl⟩
      | ok asked =>
        rw [Call.handling?, known] at refused
        obtain ⟨p, refused⟩ := Service.serve_of_not_handling refused
        exact ⟨.panicked p, _, refused⟩

end Nested

/-- The call that a step makes. -/
def Step.call? (depth : Nat) (e : Engine) : Step → Option Call
  | .serve live request => some (.serve live request depth e)
  | .update live change => some (.update live change e)
  | _ => none

/-- The calls that steps make, in order. -/
def callsAlong (depth : Nat) : List Step → Engine → List Call
  | [], _ => []
  | s :: rest, e => (s.call? depth e).toList ++ callsAlong depth rest (e.step (.upTo depth) s)

namespace Handling

/-- The calls that chain and error handler make themselves. -/
def ownCalls (h : Handling) : List Call := callsAlong h.depth h.trail h.opening

/-- The calls of a handling, each followed by those made while it is served, some levels down. -/
def callsDown : Nat → Handling → List Call
  | 0, _ => []
  | levels + 1, h => h.ownCalls.flatMap (Call.expand (callsDown levels))

/-- All calls made on the way of a request, in the order in which they are made. -/
def calls (h : Handling) : List Call := h.callsDown (h.depth + 1)

end Handling

end RequestDispatch
