import RequestDispatch.Proofs.Serving.Handlings
import RequestDispatch.Proofs.Setup.LiveUpdates

/-!
# Calls on the way of a request

What holds of every call of a live service that is made, at any depth, while a request is handled.  The
context of the request is still held then, so a request served by the call runs on another one
(`Handling.lease_held`).  A live service is found as the changes that succeeded so far have left it
(`Handling.calls_grow`).
-/

namespace RequestDispatch

/-! ### Live services only move on -/

/-- The live service after further changes, all of which succeeded. -/
inductive Live.Continues (start : Live) : Live → Prop where
  | refl : Continues start start
  | update {live : Live} {change : Change} {d : Dispatcher} (before : Continues start live)
    (succeeded : live.setup.apply change = .ok d) : Continues start ⟨d, d.build, live.version + 1⟩

theorem Live.Continues.trans {first second third : Live} (before : first.Continues second)
    (further : second.Continues third) : first.Continues third := by
  induction further with
  | refl => exact before
  | update _ succeeded ih => exact .update ih succeeded

namespace Engine

/-- Every live service stays known and changes by changes that succeed only. -/
def Grows (e e' : Engine) : Prop :=
  ∀ name live, e.live? name = some live → ∃ later, e'.live? name = some later ∧ live.Continues later

theorem Grows.trans {e e' e'' : Engine} (first : e.Grows e') (second : e'.Grows e'') :
    e.Grows e'' := by
  intro name live known
  obtain ⟨between, known', continued⟩ := first name live known
  obtain ⟨later, known'', continued'⟩ := second name between known'
  exact ⟨later, known'', continued.trans continued'⟩

theorem grows_of_lives {e e' : Engine} (same : e'.lives = e.lives) : e.Grows e' := by
  intro name live known
  refine ⟨live, ?_, .refl⟩
  rwa [live?, same]

theorem perform_lives (e : Engine) (effect : Effect) : (e.perform effect).lives = e.lives := by
  cases effect with
  | recordStatus status =>
    rw [perform, recordStatus]
    split <;> rfl
  | _ => rfl

theorem frame_grows : Frame Grows where
  refl _ := grows_of_lives rfl
  trans := Grows.trans
  perform e effect := grows_of_lives (e.perform_lives effect)
  spans _ _ := grows_of_lives rfl

theorem build_lives (e : Engine) (d : Dispatcher) : (e.build d).2.lives = e.lives := by
  simp only [build, reserveCaptures]
  split <;> rfl

theorem live?_setLive_of_ne (e : Engine) {name other : String} (live : Live) (ne : other ≠ name) :
    (e.setLive name live).live? other = e.live? other := by
  have others (entries : List (String × Live)) :
      (entries.filter (·.1 ≠ name)).lookup other = entries.lookup other := by
    induction entries with
    | nil => rfl
    | cons entry rest ih =>
      by_cases same : entry.1 = name
      · rw [List.filter_cons_of_neg (by simpa using same), ih, List.lookup_cons,
          beq_false_of_ne (same ▸ ne)]
      · rw [List.filter_cons_of_pos (by simpa using same), List.lookup_cons, List.lookup_cons, ih]
  rw [live?, setLive, List.lookup_cons, beq_false_of_ne ne]
  exact others e.lives

theorem update_lives_of_ne (e : Engine) {name other : String} (change : Change) (ne : other ≠ name) :
    (e.update name change.2).2.live? other = e.live? other :=
  update_keeps (fun e e' => e'.live? other = e.live? other) (fun _ => rfl)
    (fun first second => second.trans first) (fun _ _ => rfl)
    (fun e d => by rw [live?, build_lives, live?])
    (fun e live => e.live?_setLive_of_ne live ne) change.2 e

/-- An update moves the live service that it names, if at all, by the change that succeeded. -/
theorem update_grows (e : Engine) (name : String) (change : Change) :
    e.Grows (e.update name change.2).2 := by
  intro other live known
  by_cases same : other = name
  · subst same
    cases changed : live.setup.apply change with
    | error error =>
      obtain ⟨records, failed⟩ := update_of_error known changed
      exact ⟨live, by rw [failed]; exact known, .refl⟩
    | ok d => exact ⟨_, (update_of_ok known changed).2, .update .refl changed⟩
  · exact ⟨live, by rw [e.update_lives_of_ne change same]; exact known, .refl⟩

end Engine

/-! ### What every call respects -/

section Keeps

variable {keeps : Engine → Engine → Prop}

namespace Engine.Frame

theorem observeAll (frame : Frame keeps) (e : Engine) (notes : List Observation) :
    keeps e (notes.foldl observe e) := by
  induction notes generalizing e with
  | nil => exact frame.refl e
  | cons note rest ih => exact frame.trans (frame.perform e (.observe note)) (ih _)

theorem handled (frame : Frame keeps) {h : Handling} (calls : h.nested.Keeps keeps) :
    keeps h.opening h.run.2.2 := by
  unfold Handling.run
  exact frame.respond calls h.service h.bound.1 h.bound.2 h.opening

/-- A request that is served from outside respects what its nested calls and the lease around its chain
respect. -/
theorem served (frame : Frame keeps)
    (leases : ∀ h : Handling, keeps h.opening h.run.2.2 → keeps h.engine h.closing) {depth : Nat}
    (calls : (Nested.upTo depth).Keeps keeps) (s : Service) (request : Request) (e : Engine) :
    keeps e (s.serve (.upTo depth) request e).2 := by
  cases admitted : s.handling? depth request e with
  | none =>
    obtain ⟨p, served⟩ := Service.serve_of_not_handling admitted
    rw [served]
    exact frame.observeAll e (s.hookNotes request)
  | some h =>
    obtain ⟨_, rfl, _, engine⟩ := Service.service_of_handling admitted
    rw [Service.serve_of_handling admitted]
    dsimp only
    have hooked := frame.observeAll e (s.hookNotes request)
    rw [← engine] at hooked
    have inside : keeps h.opening h.run.2.2 := frame.handled calls
    exact frame.trans hooked (leases h inside)

/-- Calls respect what reports, updates and the lease of each request around its chain respect; by
induction on the depth. -/
theorem upTo (frame : Frame keeps)
    (updates : ∀ name change e, keeps e (Nested.updateLive name change e).2)
    (leases : ∀ h : Handling, keeps h.opening h.run.2.2 → keeps h.engine h.closing) (depth : Nat) :
    (Nested.upTo depth).Keeps keeps := by
  induction depth with
  | zero => exact ⟨fun _ _ e => frame.refl e, updates⟩
  | succ depth ih =>
    refine ⟨fun name request e => ?_, updates⟩
    simp only [Nested.upTo]
    split
    · exact frame.refl e
    · exact frame.refl e
    · exact frame.served leases ih _ _ e

end Engine.Frame

/-- The calls are made one after the other on the way from one engine to another: each is made on an
engine that `keeps` leads to from where the one before has got. -/
inductive Threads (keeps : Engine → Engine → Prop) : Engine → List Call → Engine → Prop where
  | nil {e e' : Engine} : keeps e e' → Threads keeps e [] e'
  | cons {e e' : Engine} {call : Call} {rest : List Call} : keeps e call.engine →
    Threads keeps call.reached rest e' → Threads keeps e (call :: rest) e'

namespace Threads

variable {e e' e'' : Engine} {call second : Call} {calls before between rest : List Call}

theorem after (frame : Engine.Frame keeps) (kept : keeps e e')
    (threads : Threads keeps e' calls e'') : Threads keeps e calls e'' := by
  cases threads with
  | nil further => exact .nil (frame.trans kept further)
  | cons further rest => exact .cons (frame.trans kept further) rest

theorem append (frame : Engine.Frame keeps) (first : Threads keeps e before e')
    (second : Threads keeps e' rest e'') : Threads keeps e (before ++ rest) e'' := by
  induction first with
  | nil kept => exact second.after frame kept
  | cons kept _ ih => exact .cons kept (ih second)

/-- What goes on once a call has been made. -/
theorem tail (threads : Threads keeps e (before ++ call :: rest) e') :
    Threads keeps call.reached rest e' := by
  induction before generalizing e with
  | nil =>
    cases threads with
    | cons _ further => exact further
  | cons _ _ ih =>
    cases threads with
    | cons _ further => exact ih further

/-- A call is made on an engine that the first one leads to, where calls themselves are respected. -/
theorem reaches (frame : Engine.Frame keeps) (made : ∀ call : Call, keeps call.engine call.reached)
    (threads : Threads keeps e (before ++ call :: rest) e') : keeps e call.engine := by
  induction before generalizing e with
  | nil =>
    cases threads with
    | cons kept _ => exact kept
  | cons first _ ih =>
    cases threads with
    | cons kept further => exact frame.trans kept (frame.trans (made first) (ih further))

end Threads

/-- Calls with those made while they are served, along steps. -/
theorem threads_along (frame : Engine.Frame keeps) {ex : Call → List Call}
    (each : ∀ call, Threads keeps call.engine (ex call) call.after) (depth : Nat)
    (steps : List Step) (e : Engine) :
    Threads keeps e ((callsAlong depth steps e).flatMap ex) (e.replay (.upTo depth) steps) := by
  induction steps generalizing e with
  | nil => exact .nil (frame.refl e)
  | cons s steps ih =>
    rw [Engine.replay_cons]
    cases s with
    | report effect => exact (ih _).after frame (frame.perform e effect)
    | close spans => exact (ih _).after frame (frame.spans e spans)
    | serve live request => exact (each (.serve live request depth e)).append frame (ih _)
    | update live change =>
      rw [callsAlong, Engine.step, Nested.upTo_update]
      exact (each (.update live change e)).append frame (ih _)

/-- What leads from the start of a chain to a call that it makes, the calls before it included. -/
theorem Engine.Frame.ownCalls (frame : Frame keeps)
    (updates : ∀ name change e, keeps e (Nested.updateLive name change e).2)
    (leases : ∀ h : Handling, keeps h.opening h.run.2.2 → keeps h.engine h.closing) {h : Handling}
    {call : Call} (mem : call ∈ h.ownCalls) : keeps h.opening call.engine := by
  have made (call : Call) : keeps call.engine call.reached := by
    cases call with
    | serve name request depth e => exact frame.refl e
    | update name change e => exact updates name change e
  have finished (call : Call) : keeps call.reached call.after := by
    cases call with
    | serve name request depth e => exact (frame.upTo updates leases depth).serve name request e
    | update name change e => exact frame.refl _
  have each (call : Call) : Threads keeps call.engine [call] call.after :=
    .cons (frame.refl _) (.nil (finished call))
  have threads := threads_along frame each h.depth h.trail h.opening
  rw [← Handling.ownCalls, List.flatMap_singleton'] at threads
  obtain ⟨before, rest, split⟩ := List.append_of_mem mem
  rw [split] at threads
  exact threads.reaches frame made

/-- What respects the operations of serving: reports, updates, taking a context for a request and giving
it back. -/
structure Engine.ServingFrame (keeps : Engine → Engine → Prop) : Prop extends Engine.Frame keeps where
  updates : ∀ name change e, keeps e (Nested.updateLive name change e).2
  opens : ∀ h : Handling, keeps h.engine h.opening
  closes : ∀ h : Handling, keeps h.run.2.2 h.closing

namespace Engine.ServingFrame

theorem upTo (frame : ServingFrame keeps) (depth : Nat) : (Nested.upTo depth).Keeps keeps :=
  frame.toFrame.upTo frame.updates
    (fun h inside => frame.trans (frame.opens h) (frame.trans inside (frame.closes h))) depth

theorem expand (frame : ServingFrame keeps) {inner : Handling → List Call}
    (inside : ∀ h, Threads keeps h.opening (inner h) h.run.2.2) (call : Call) :
    Threads keeps call.engine (call.expand inner) call.after := by
  refine .cons (frame.refl _) ?_
  cases call with
  | update name change e => exact .nil (frame.refl _)
  | serve name request depth e =>
    simp only [Call.after, Call.reached]
    cases admitted : (Call.serve name request depth e).handling? with
    | none =>
      obtain ⟨reply, notes, served⟩ := Nested.serve_of_not_handling admitted
      rw [served]
      exact .nil (frame.toFrame.observeAll e notes)
    | some h =>
      simp only [Nested.serve_of_handling admitted, Option.map_some, Option.getD_some]
      obtain ⟨live, asked, _, _, _, entered⟩ := Nested.handling_inv admitted
      obtain ⟨_, _, _, engine⟩ := Service.service_of_handling entered
      have hooked := frame.toFrame.observeAll e (live.current.hookNotes asked)
      rw [← engine] at hooked
      have closed : Threads keeps h.run.2.2 [] h.closing := .nil (frame.closes h)
      have both := (inside h).append frame.toFrame closed
      rw [List.append_nil] at both
      exact both.after frame.toFrame (frame.trans hooked (frame.opens h))

/-- The calls on the way of a request, at whatever depth, are made one after the other between the start
of its chain and the end; by induction on the levels. -/
theorem callsDown (frame : ServingFrame keeps) (levels : Nat) (h : Handling) :
    Threads keeps h.opening (h.callsDown levels) h.run.2.2 := by
  induction levels generalizing h with
  | zero => exact .nil (frame.toFrame.handled (frame.upTo h.depth))
  | succ levels ih =>
    rw [h.run_engine]
    exact threads_along frame.toFrame (frame.expand ih) h.depth h.trail h.opening

end Engine.ServingFrame

end Keeps

/-! ### The routes that calls find -/

theorem Service.conclude_lives (lent : PooledContext) (run : Outcome × Context × Engine) :
    (conclude lent run).2.lives = run.2.2.lives := by
  obtain ⟨outcome, c, e⟩ := run
  cases outcome <;> rfl

theorem Service.conclude_pool (lent : PooledContext) (run : Outcome × Context × Engine) :
    ∃ c, (conclude lent run).2.pool = run.2.2.pool.release { lent with context := c } := by
  obtain ⟨outcome, c, e⟩ := run
  cases outcome <;> exact ⟨_, rfl⟩

theorem Handling.closing_lives (h : Handling) : h.closing.lives = h.run.2.2.lives := by
  unfold closing
  exact Service.conclude_lives h.lease h.run

theorem Handling.closing_pool (h : Handling) :
    ∃ c, h.closing.pool = h.run.2.2.pool.release { h.lease with context := c } := by
  unfold closing
  exact Service.conclude_pool h.lease h.run

theorem Engine.serving_grows : ServingFrame Grows where
  toFrame := frame_grows
  updates name change e := e.update_grows name ⟨Unit, Registration.change change⟩
  opens h := by
    unfold Handling.opening
    exact grows_of_lives rfl
  closes h := grows_of_lives h.closing_lives

/-- Of two calls on the way of a request, at whatever depth, the later one finds every live service as
the earlier one left it or further on. -/
theorem Handling.calls_grow {h : Handling} {first second : Call} {before between rest : List Call}
    (split : h.calls = before ++ first :: between ++ second :: rest) :
    first.reached.Grows second.engine := by
  have made (call : Call) : call.engine.Grows call.reached := by
    cases call with
    | serve name request depth e => exact Engine.serving_grows.refl e
    | update name change e => exact Engine.serving_grows.updates name change e
  have threads := Engine.serving_grows.callsDown (h.depth + 1) h
  rw [← Handling.calls, split, List.append_assoc, List.cons_append] at threads
  exact threads.tail.reaches Engine.frame_grows made

/-! ### The contexts that calls take -/

namespace Ledger

theorem run_append (l : Ledger) (first second : List PoolCall) :
    l.run (first ++ second) = (l.run first).run second :=
  List.foldl_append

/-- The context taken last is left in some state and given back. -/
theorem run_give_back {l : Ledger} {lent : PooledContext} {others : List PooledContext}
    (held : l.held = lent :: others) (c : Context) :
    (l.run [.alter 0 c, .release 0]).pool = l.pool.release { lent with context := c } ∧
      (l.run [.alter 0 c, .release 0]).held = others := by
  have altered : l.call (.alter 0 c) = { l with held := { lent with context := c } :: others } := by
    simp only [call, held, List.getElem?_cons_zero, List.set_cons_zero]
  rw [run, List.foldl_cons, altered]
  exact ⟨rfl, rfl⟩

end Ledger

/-- Operations on the pool lead from one engine to the other, and whatever contexts are held meanwhile
are left alone. -/
def Engine.Repays (e e' : Engine) : Prop :=
  ∀ l : Ledger, l.pool = e.pool → ∃ calls, (l.run calls).pool = e'.pool ∧ (l.run calls).held = l.held

namespace Engine

theorem repays_of_pool {e e' : Engine} (same : e'.pool = e.pool) : e.Repays e' :=
  fun _ start => ⟨[], start.trans same.symm, rfl⟩

theorem Repays.trans {e e' e'' : Engine} (first : e.Repays e') (second : e'.Repays e'') :
    e.Repays e'' := by
  intro l start
  obtain ⟨calls, reached, held⟩ := first l start
  obtain ⟨more, reached', held'⟩ := second _ reached
  refine ⟨calls ++ more, ?_, ?_⟩
  · rw [Ledger.run_append, reached']
  · rw [Ledger.run_append, held', held]

theorem frame_repays : Frame Repays where
  refl _ := repays_of_pool rfl
  trans := Repays.trans
  perform e effect := repays_of_pool (e.perform_pool effect)
  spans _ _ := repays_of_pool rfl

theorem build_pool (e : Engine) (d : Dispatcher) :
    (e.build d).2.pool = e.pool.reserveCaptures d.router.maxParams := by
  simp only [build, reserveCaptures]
  split <;> rfl

theorem build_repays (e : Engine) (d : Dispatcher) : e.Repays (e.build d).2 := by
  intro l start
  refine ⟨[.reserve d.router.maxParams], ?_, rfl⟩
  rw [build_pool, ← start]
  rfl

theorem update_repays {α : Type} (e : Engine) (name : String) (change : Setup α) :
    e.Repays (e.update name change).2 :=
  update_keeps Repays frame_repays.refl frame_repays.trans (fun _ _ => repays_of_pool rfl)
    build_repays (fun _ _ => repays_of_pool rfl) change e

end Engine

/-- A context is taken when a request is let in, … -/
theorem Handling.opening_ledger (h : Handling) {l : Ledger} (start : l.pool = h.engine.pool) :
    (l.call .acquire).pool = h.opening.pool ∧ (l.call .acquire).held = h.lease :: l.held := by
  unfold Handling.opening Handling.lease
  rw [Engine.beginning_pool, Ledger.call, ← start]
  exact ⟨rfl, rfl⟩

/-- … and given back when the request is over, whatever was held besides it. -/
theorem Handling.lease_repays (h : Handling) (inside : h.opening.Repays h.run.2.2) :
    h.engine.Repays h.closing := by
  intro l start
  obtain ⟨opened, taken⟩ := h.opening_ledger start
  obtain ⟨calls, reached, kept⟩ := inside _ opened
  obtain ⟨c, closed⟩ := h.closing_pool
  obtain ⟨returned, held⟩ := Ledger.run_give_back (kept.trans taken) c
  refine ⟨.acquire :: (calls ++ [.alter 0 c, .release 0]), ?_, ?_⟩
  · rw [closed, ← reached, ← returned, ← Ledger.run_append]
    rfl
  · rw [← held, ← Ledger.run_append]
    rfl

theorem Call.handling_pool {call : Call} {h : Handling} (admitted : call.handling? = some h) :
    h.engine.pool = call.engine.pool := by
  cases call with
  | update name change e => cases admitted
  | serve name request depth e =>
    obtain ⟨live, asked, _, _, _, entered⟩ := Nested.handling_inv admitted
    obtain ⟨_, _, _, engine⟩ := Service.service_of_handling entered
    rw [engine]
    exact e.observeAll_pool _

namespace Handling

theorem ownCalls_repay {h : Handling} {call : Call} (mem : call ∈ h.ownCalls) :
    h.opening.Repays call.engine :=
  Engine.frame_repays.ownCalls (fun name change e => e.update_repays name (Registration.change change))
    lease_repays mem

/-- A call on the way of a request is made by its own chain, or while one of those calls is served. -/
theorem own_or_within {levels : Nat} {h : Handling} {call : Call}
    (mem : call ∈ h.callsDown (levels + 1)) : ∃ own ∈ h.ownCalls, own = call ∨
      ∃ middle, own.handling? = some middle ∧ call ∈ middle.callsDown levels := by
  obtain ⟨own, made, within⟩ := List.mem_flatMap.mp mem
  refine ⟨own, made, ?_⟩
  rcases List.mem_cons.mp within with rfl | within
  · exact .inl rfl
  · cases entered : own.handling? with
    | none =>
      rw [entered] at within
      cases within
    | some middle =>
      rw [entered] at within
      exact .inr ⟨middle, rfl, within⟩

/-- What passes from a request to those that its own chain makes holds of all that are nested in it. -/
theorem nested_induction {P : Handling → Prop}
    (step : ∀ {h inner : Handling} {call : Call}, P h → call ∈ h.ownCalls →
      call.handling? = some inner → P inner)
    {levels : Nat} {h inner : Handling} {call : Call} (start : P h) (mem : call ∈ h.callsDown levels)
    (admitted : call.handling? = some inner) : P inner := by
  induction levels generalizing h with
  | zero => cases mem
  | succ levels ih =>
    obtain ⟨own, made, rfl | ⟨middle, entered, within⟩⟩ := own_or_within mem
    · exact step start made admitted
    · exact ih (step start made entered) within

/-- While a request is nested in another one, at whatever depth, a context is held for each: when the
inner chain starts, its context has been taken while that of the outer request was still out. -/
theorem lease_held {levels : Nat} {h inner : Handling} {call : Call} (mem : call ∈ h.callsDown levels)
    (admitted : call.handling? = some inner) {l : Ledger} (start : l.pool = h.engine.pool) :
    ∃ calls between, (l.run calls).pool = inner.opening.pool ∧
      (l.run calls).held = inner.lease :: between ++ h.lease :: l.held := by
  induction levels generalizing h l with
  | zero => cases mem
  | succ levels ih =>
    obtain ⟨own, made, within⟩ := own_or_within mem
    obtain ⟨opened, taken⟩ := h.opening_ledger start
    obtain ⟨calls, reached, kept⟩ := ownCalls_repay made _ opened
    rcases within with rfl | ⟨middle, entered, within⟩
    · obtain ⟨opened', taken'⟩ := inner.opening_ledger (reached.trans (Call.handling_pool admitted).symm)
      refine ⟨.acquire :: (calls ++ [.acquire]), [], ?_, ?_⟩
      · rw [← opened', ← List.cons_append, Ledger.run_append]
        rfl
      · rw [List.cons_append, List.nil_append, ← taken, ← kept, ← taken', ← List.cons_append,
          Ledger.run_append]
        rfl
    · obtain ⟨more, between, reached', kept'⟩ :=
        ih within (reached.trans (Call.handling_pool entered).symm)
      refine ⟨.acquire :: (calls ++ more), between ++ [middle.lease], ?_, ?_⟩
      · rw [← reached', ← List.cons_append, Ledger.run_append]
        rfl
      · rw [← List.cons_append, Ledger.run_append]
        refine kept'.trans ?_
        simp only [kept, taken, List.cons_append, List.append_assoc, List.nil_append]

end Handling

end RequestDispatch
