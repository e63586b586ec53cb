import Mathlib.Algebra.BigOperators.Group.List.Basic
import Mathlib.Tactic.Abel
import RequestDispatch.Proofs.Serving.Handlings

/-!
# Tallies of what is reported

A quantity of the engine that only reports raise, each by its weight, grows over a run by what the
requests handled on the way report, the nested ones included: each of them counts for what it reports
itself (`Service.quantity_serveAll`).
-/

namespace RequestDispatch

variable {M : Type} [AddCommMonoid M] {w : Effect → M}

/-- What a step adds by itself; what a call does is left to the requests that it serves. -/
def Step.weight (w : Effect → M) : Step → M
  | .report effect => w effect
  | .close _ => 0
  | .serve .. => 0
  | .update .. => 0

def tally (w : Effect → M) (steps : List Step) : M := (steps.map (Step.weight w)).sum

theorem tally_cons (w : Effect → M) (s : Step) (rest : List Step) :
    tally w (s :: rest) = s.weight w + tally w rest :=
  List.sum_cons

theorem tally_append (w : Effect → M) (first second : List Step) :
    tally w (first ++ second) = tally w first + tally w second := by
  rw [tally, List.map_append, List.sum_append]
  rfl

/-- Steps whose reports weigh nothing. -/
theorem tally_eq_zero {reports : Effect → Prop} (free : ∀ effect, reports effect → w effect = 0)
    {steps : List Step} (within : ∀ s ∈ steps, s.Within reports) : tally w steps = 0 := by
  refine List.sum_eq_zero fun weight mem => ?_
  obtain ⟨s, listed, rfl⟩ := List.mem_map.mp mem
  cases s with
  | report effect => exact free effect (within _ listed)
  | _ => rfl

namespace Handling

/-- What a request adds by itself. -/
def weight (w : Effect → M) (h : Handling) : M := tally w h.trail

theorem weight_eq_zero {conduct : Conduct} (free : ∀ effect, conduct.reports effect → w effect = 0)
    {h : Handling} (obeys : h.service.Obeys conduct) : h.weight w = 0 :=
  tally_eq_zero free (Handling.obeys obeys).2

/-- A request with all that are nested in it. -/
def family (h : Handling) : List Handling := h :: h.calls.filterMap Call.handling?

end Handling

/-- What requests add. -/
def weights (w : Effect → M) (hs : List Handling) : M := (hs.map (Handling.weight w)).sum

theorem weights_cons (w : Effect → M) (h : Handling) (hs : List Handling) :
    weights w (h :: hs) = h.weight w + weights w hs :=
  List.sum_cons

theorem weights_append (w : Effect → M) (first second : List Handling) :
    weights w (first ++ second) = weights w first + weights w second := by
  rw [weights, List.map_append, List.sum_append]
  rfl

/-- A quantity that every report raises by its weight and that nothing else changes. -/
structure Engine.Metered (quantity : Engine → M) (w : Effect → M) : Prop where
  perform : ∀ e effect, quantity (e.perform effect) = quantity e + w effect
  spans : ∀ (e : Engine) spans, quantity { e with spans := spans } = quantity e
  notes : ∀ note, w (.observe note) = 0
  updates : ∀ name change e, quantity (Nested.updateLive name change e).2 = quantity e
  opens : ∀ h : Handling, quantity h.opening = quantity h.engine
  closes : ∀ h : Handling, quantity h.closing = quantity h.run.2.2

namespace Engine.Metered

variable {quantity : Engine → M}

theorem observeAll (metered : Metered quantity w) (e : Engine) (notes : List Observation) :
    quantity (notes.foldl observe e) = quantity e := by
  induction notes generalizing e with
  | nil => rfl
  | cons note rest ih =>
    have noted := metered.perform e (.observe note)
    rw [metered.notes, add_zero] at noted
    exact (ih _).trans noted

/-- What a call adds, if each request that it serves adds what its family does. -/
theorem call (metered : Metered quantity w) {inner : Handling → List Call} (call : Call)
    (served : ∀ h, call.handling? = some h → quantity h.run.2.2 =
      quantity h.opening + weights w (h :: (inner h).filterMap Call.handling?)) :
    quantity call.after =
      quantity call.engine + weights w ((call.expand inner).filterMap Call.handling?) := by
  cases call with
  | update name change e => exact (metered.updates name change e).trans (add_zero _).symm
  | serve name request depth e =>
    simp only [Call.after, Call.engine, Call.expand, List.filterMap_cons]
    cases admitted : (Call.serve name request depth e).handling? with
    | none =>
      obtain ⟨reply, notes, ended⟩ := Nested.serve_of_not_handling admitted
      rw [ended]
      exact (metered.observeAll e notes).trans (add_zero _).symm
    | some h =>
      obtain ⟨live, asked, _, _, _, entered⟩ := Nested.handling_inv admitted
      obtain ⟨_, _, _, engine⟩ := Service.service_of_handling entered
      simp only [Nested.serve_of_handling admitted, Option.map_some, Option.getD_some]
      rw [metered.closes, served h admitted, metered.opens, engine, metered.observeAll]

section Along

variable {ex : Call → List Call} {depth : Nat}

/-- A step adds what it reports, or what the call that it makes does. -/
theorem step (metered : Metered quantity w)
    (each : ∀ call, (∀ h, call.handling? = some h → h.depth < depth) →
      quantity call.after = quantity call.engine + weights w ((ex call).filterMap Call.handling?))
    (s : Step) (e : Engine) :
    quantity (e.step (.upTo depth) s) = quantity e + (s.weight w +
      weights w (((s.call? depth e).toList.flatMap ex).filterMap Call.handling?)) := by
  cases s with
  | report effect =>
    change quantity (e.perform effect) = quantity e + (w effect + 0)
    rw [add_zero, metered.perform]
  | close spans =>
    change quantity { e with spans := spans } = quantity e + (0 + 0)
    rw [add_zero, add_zero, metered.spans]
  | serve live request =>
    have lower (h : Handling) (admitted : (Call.serve live request depth e).handling? = some h) :
        h.depth < depth := by
      obtain ⟨_, _, _, _, rfl, _⟩ := Nested.handling_inv admitted
      exact Nat.lt_succ_self _
    have added := each (.serve live request depth e) lower
    rw [Step.weight, zero_add, Step.call?, Option.toList_some, List.flatMap_singleton]
    exact added
  | update live change =>
    have added := each (.update live change e) nofun
    rw [Step.weight, zero_add, Step.call?, Option.toList_some, List.flatMap_singleton, Engine.step,
      Nested.upTo_update]
    exact added

/-- Steps add what they report and what the calls among them add. -/
theorem along (metered : Metered quantity w)
    (each : ∀ call, (∀ h, call.handling? = some h → h.depth < depth) →
      quantity call.after = quantity call.engine + weights w ((ex call).filterMap Call.handling?))
    (steps : List Step) (e : Engine) :
    quantity (e.replay (.upTo depth) steps) = quantity e + (tally w steps +
      weights w (((callsAlong depth steps e).flatMap ex).filterMap Call.handling?)) := by
  induction steps generalizing e with
  | nil =>
    have nothing : tally w [] + weights w [] = 0 := add_zero 0
    exact ((congrArg (quantity e + ·) nothing).trans (add_zero _)).symm
  | cons s steps ih =>
    rw [Engine.replay_cons, ih, metered.step each, tally_cons, callsAlong, List.flatMap_append,
      List.filterMap_append, weights_append]
    abel

end Along

/-- By induction on the levels; a nested request is handled at a lower depth. -/
theorem run (metered : Metered quantity w) {levels : Nat} {h : Handling} (deep : h.depth < levels) :
    quantity h.run.2.2 =
      quantity h.opening + weights w (h :: (h.callsDown levels).filterMap Call.handling?) := by
  induction levels generalizing h with
  | zero => cases deep
  | succ levels ih =>
    have each (call : Call) (lower : ∀ inner, call.handling? = some inner → inner.depth < h.depth) :
        quantity call.after = quantity call.engine +
          weights w ((call.expand (Handling.callsDown levels)).filterMap Call.handling?) :=
      metered.call call fun inner admitted =>
        ih (Nat.lt_of_lt_of_le (lower inner admitted) (Nat.le_of_lt_succ deep))
    rw [h.run_engine, weights_cons]
    exact metered.along each h.trail h.opening

theorem handled (metered : Metered quantity w) (h : Handling) :
    quantity h.closing = quantity h.engine + weights w h.family := by
  rw [metered.closes, metered.run (Nat.lt_succ_self h.depth), metered.opens]
  rfl

end Engine.Metered

namespace Service

/-- Serves requests one after the other; the replies and the engine after the last. -/
def serveAll (s : Service) (depth : Nat) : List Request → Engine → List Reply × Engine
  | [], e => ([], e)
  | request :: rest, e =>
    let first := s.serve (.upTo depth) request e
    let others := s.serveAll depth rest first.2
    (first.1 :: others.1, others.2)

/-- The requests that are handled while requests are served one after the other. -/
def received (s : Service) (depth : Nat) : List Request → Engine → List Handling
  | [], _ => []
  | request :: rest, e =>
    (s.handling? depth request e).toList ++
      s.received depth rest (s.serve (.upTo depth) request e).2

/-- The requests that are handled and all that are nested in them. -/
def handlings (s : Service) (depth : Nat) (requests : List Request) (e : Engine) : List Handling :=
  (s.received depth requests e).flatMap Handling.family

theorem service_of_received {s : Service} {depth : Nat} {requests : List Request} {e : Engine}
    {h : Handling} (mem : h ∈ s.received depth requests e) : h.service = s := by
  induction requests generalizing e with
  | nil => cases mem
  | cons request rest ih =>
    rcases List.mem_append.mp mem with here | later
    · exact (service_of_handling (Option.mem_toList.mp here)).1
    · exact ih later

theorem mem_handlings {s : Service} {depth : Nat} {requests : List Request} {e : Engine}
    {h : Handling} (mem : h ∈ s.received depth requests e) : h ∈ s.handlings depth requests e :=
  List.mem_flatMap.mpr ⟨h, mem, List.mem_cons_self⟩

/-- Callers get the replies to the requests that are handled, and panics of hooks. -/
theorem serveAll_replies (s : Service) (depth : Nat) (requests : List Request) (e : Engine) :
    (s.serveAll depth requests e).1.filter (!·.isPanic) =
      ((s.received depth requests e).map Handling.reply).filter (!·.isPanic) := by
  induction requests generalizing e with
  | nil => rfl
  | cons request rest ih =>
    have later := ih (s.serve (.upTo depth) request e).2
    rw [received, List.map_append, List.filter_append, ← later]
    cases admitted : s.handling? depth request e with
    | none =>
      obtain ⟨p, served⟩ := serve_of_not_handling admitted
      rw [serveAll, served]
      rfl
    | some h =>
      rw [serveAll, serve_of_handling admitted, Option.toList_some, List.map_singleton]
      dsimp only
      rw [← List.filter_append, List.singleton_append]

variable {quantity : Engine → M}

theorem quantity_serve (metered : Engine.Metered quantity w) (s : Service) (depth : Nat)
    (request : Request) (e : Engine) :
    quantity (s.serve (.upTo depth) request e).2 =
      quantity e + weights w ((s.handling? depth request e).toList.flatMap Handling.family) := by
  cases admitted : s.handling? depth request e with
  | none =>
    obtain ⟨p, served⟩ := serve_of_not_handling admitted
    rw [served]
    exact (metered.observeAll e _).trans (add_zero _).symm
  | some h =>
    obtain ⟨_, _, _, engine⟩ := service_of_handling admitted
    rw [serve_of_handling admitted]
    dsimp only [Option.toList_some]
    rw [metered.handled h, engine, metered.observeAll, List.flatMap_singleton]

/-- A run adds what the requests handled in it add, each by itself. -/
theorem quantity_serveAll (metered : Engine.Metered quantity w) (s : Service) (depth : Nat)
    (requests : List Request) (e : Engine) :
    quantity (s.serveAll depth requests e).2 =
      quantity e + weights w (s.handlings depth requests e) := by
  induction requests generalizing e with
  | nil => exact (add_zero _).symm
  | cons request rest ih =>
    rw [handlings, received, List.flatMap_append, weights_append, ← add_assoc,
      ← quantity_serve metered]
    exact ih _

end Service

end RequestDispatch
