import RequestDispatch.Proofs.Serving.Monitors

/-!
# Counts of requests that panic

Where built-in middleware recovers from panics, counts requests and logs them, every request is answered.
Counters and log agree with the answers but for one kind of request: one that panics further inside passes
by the middleware that stands inside `recover` (`Dispatcher.recovered_tallies`).
-/

namespace RequestDispatch

variable {M : Type} [AddCommMonoid M] {w : Effect → M}

/-- What requests add of which some add nothing. -/
theorem sum_map_unless {α : Type} (skipped : α → Bool) (f : α → M) (l : List α) :
    (l.map fun a => if skipped a then 0 else f a).sum = ((l.filter (!skipped ·)).map f).sum := by
  induction l with
  | nil => rfl
  | cons a rest ih =>
    rw [List.map_cons, List.sum_cons, ih, List.filter_cons]
    cases skipped a with
    | true => exact zero_add _
    | false => rfl

namespace Dispatcher

/-- How the chain of a request ends inside monitors. -/
def insideRun (d : Dispatcher) (ms : List Monitor) (h : Handling) : Outcome × Context × Engine :=
  (d.build.binding h.request h.id).1.run h.nested h.bound.2 (Monitor.enterAll ms h.bound.2 h.opening)

/-- What the chain of a request does to the engine inside monitors. -/
def insideTrail (d : Dispatcher) (ms : List Monitor) (h : Handling) : List Step :=
  (d.build.binding h.request h.id).1.trail h.nested h.bound.2 (Monitor.enterAll ms h.bound.2 h.opening)

/-- The dispatcher with monitors outside all that it has. -/
def watched (d : Dispatcher) (counters : Nat) (ms : List Monitor) : Dispatcher :=
  d.inside (ms.map (Monitor.layer counters))

end Dispatcher

namespace Handling

variable {h : Handling} {d : Dispatcher} {counters : Nat} {ms : List Monitor}

theorem bound_watched (service : h.service = (d.watched counters ms).build) :
    h.bound.1 = (d.build.binding h.request h.id).1.inside (ms.map (Monitor.layer counters)) :=
  congrArg Prod.fst (bound_inside service)

/-- A request ends as the monitors let it, on the context left inside them. -/
theorem chainRun_watched (service : h.service = (d.watched counters ms).build) :
    h.chainRun.1 = Monitor.endsAll ms (d.insideRun ms h).1 ∧
      h.chainRun.2.1 = (d.insideRun ms h).2.1 := by
  unfold chainRun Dispatcher.insideRun
  rw [bound_watched service]
  exact Chain.run_watched h.nested counters ms (d.build.binding h.request h.id).1 h.bound.2 h.opening

/-- A request adds what is reported inside the monitors and what these say of its end. -/
theorem weight_watched (free : ∀ effect, effect.Plain → w effect = 0)
    (standard : d.errorHandler = .standard) (service : h.service = (d.watched counters ms).build) :
    h.weight w = tally w (d.insideTrail ms h) +
      Monitor.toldAll w counters (d.insideRun ms h).1 h.chainRun.2.1 ms := by
  have answered (outcome : Outcome) (c : Context) (e : Engine) :
      tally w (h.service.errorTrail h.nested outcome c e) = 0 := by
    refine tally_eq_zero free ?_
    have handler : h.service.errorHandler = .standard := by
      rw [service]
      exact standard
    cases outcome with
    | error f =>
      rw [Service.errorTrail, handler]
      have plain : (ErrorHandler.standard f c).Obeys (.reporting Effect.Plain fun _ plain => plain) c :=
        ErrorHandler.standard_obeys f c
      exact (plain.run Stage.finish_obeys e).2
    | _ => exact List.forall_mem_nil _
  rw [(chainRun_watched service).2]
  unfold weight trail Dispatcher.insideTrail Dispatcher.insideRun
  rw [Service.trail, Trail.andThen, tally_append, answered, add_zero, bound_watched service]
  exact Chain.tally_watched h.nested free counters ms (d.build.binding h.request h.id).1 h.bound.2 h.opening

/-- A request is answered.  It is counted by the status of its answer unless the counters miss it, and
reported as completed with that status unless the log misses it. -/
theorem answered_watched (perm : ms.Perm [.recover, .metrics, .logger])
    (standard : d.errorHandler = .standard)
    (inner : d.build.Obeys (.uncounted counters))
    (service : h.service = (d.watched counters ms).build) :
    ∃ answer, h.reply = .answer answer ∧
      h.weight (Effect.tick counters) =
        (if Monitor.misses ms .metrics (d.insideRun ms h).1 then 0
          else ⟨1, answer.status.isClientError.toNat, answer.status.isServerError.toNat,
            h.failed.toNat⟩) ∧
      h.weight Effect.completion = tally Effect.completion (d.insideTrail ms h) +
        (if Monitor.misses ms .logger (d.insideRun ms h).1 then 0 else {answer.status}) := by
  have distinct : ms.Nodup := perm.nodup_iff.mpr (by decide)
  have all (m : Monitor) : m ∈ ms := perm.mem_iff.mpr (by cases m <;> decide)
  have handler : h.service.errorHandler = .standard := by
    rw [service]
    exact standard
  obtain ⟨outcome, -⟩ := chainRun_watched service
  obtain ⟨result, ended⟩ : ∃ result, h.chainRun.1 = HandlerResult.toOutcome result := by
    rw [outcome, Monitor.endsAll_of_mem (all .recover)]
    exact Monitor.recovered_toOutcome _
  have failed : h.failed = (result != .ok) := by
    rw [Handling.failed, ended]
    cases result <;> rfl
  obtain ⟨answer, shown, status⟩ := standardReply_status result h.chainRun.2.1
  rw [← ended, ← reply_of_standard handler] at shown
  rw [outcome] at ended
  refine ⟨answer, shown, ?_, ?_⟩
  · have apart : Monitor.metrics ≠ .recover := by decide
    have quiet : tally (Effect.tick counters) (d.insideTrail ms h) = 0 := by
      unfold Dispatcher.insideTrail
      exact tally_eq_zero (fun _ => Effect.tick_of_not_counts)
        ((inner.binding h.request h.id).run h.nested h.bound.2 _).2
    have only (m : Monitor) (other : m ≠ .metrics) (result : HandlerResult) (c : Context) :
        m.said (Effect.tick counters) counters result c = 0 := by
      cases m with
      | metrics => exact absurd rfl other
      | _ => rfl
    rw [weight_watched (fun _ plain => (plain.spares counters).tick) standard service, quiet, zero_add,
      Monitor.toldAll_of_recovered apart only distinct (all .metrics) (all .recover) ended,
      status, failed, Monitor.said, Effect.tick, if_pos rfl]
  · have apart : Monitor.logger ≠ .recover := by decide
    have only (m : Monitor) (other : m ≠ .logger) (result : HandlerResult) (c : Context) :
        m.said Effect.completion counters result c = 0 := by
      cases m with
      | logger => exact absurd rfl other
      | _ => rfl
    rw [weight_watched (fun _ plain => (plain.spares counters).completion) standard service,
      Monitor.toldAll_of_recovered apart only distinct (all .logger) (all .recover) ended,
      status]
    rfl

end Handling

namespace Dispatcher

/-- Where middleware that recovers from panics, counts requests and logs them stands once each at the
outside, in any order, every request that is handled is answered.  The counters agree with the answers to
all requests but those that panic further inside while the counting stands inside the recovering; so does
the log, as regards the logging. -/
theorem recovered_tallies (d : Dispatcher) (standard : d.errorHandler = .standard) (counters : Nat)
    (inner : d.build.Obeys (.uncounted counters)) {ms : List Monitor}
    (perm : ms.Perm [.recover, .metrics, .logger]) (depth : Nat) (requests : List Request) (e : Engine)
    (others : ∀ h ∈ (d.watched counters ms).build.handlings depth requests e,
      h.service ≠ (d.watched counters ms).build → h.service.Obeys (.uncounted counters)) :
    let s := (d.watched counters ms).build
    let run := s.serveAll depth requests e
    let handled := s.handlings depth requests e
    let own := s.own handled
    let missed (m : Monitor) (h : Handling) : Bool :=
      ms.idxOf .recover < ms.idxOf m && (d.insideRun ms h).1.isPanic
    let counted := own.filter (!missed .metrics ·)
    let replies := counted.map Handling.reply
    run.1.filter (!·.isPanic) = (s.received depth requests e).map Handling.reply ∧
      run.2.counters counters = e.counters counters +
        ⟨counted.length, replies.countP (Reply.shows Status.isClientError),
          replies.countP (Reply.shows Status.isServerError), counted.countP Handling.failed⟩ ∧
      (∀ h ∈ own, ∃ answer, h.reply = .answer answer ∧
        h.weight Effect.completion = tally Effect.completion (d.insideTrail ms h) +
          if missed .logger h then 0 else {answer.status}) ∧
      run.2.completions = e.completions + (handled.map (Handling.weight Effect.completion)).sum := by
  intro s run handled own missed counted replies
  have answered (h : Handling) (same : h.service = s) :=
    Handling.answered_watched perm standard inner same
  refine ⟨?_, ?_, fun h mem => ?_, ?_⟩
  · refine (s.serveAll_replies depth requests e).trans (List.filter_eq_self.mpr ?_)
    refine List.forall_mem_map.mpr fun h mem => ?_
    obtain ⟨answer, shown, -⟩ := answered h (Service.service_of_received mem)
    rw [shown]
    rfl
  · have foreign (h : Handling) (listed : h ∈ handled) (other : h.service ≠ s) :
        h.weight (Effect.tick counters) = 0 :=
      Handling.weight_eq_zero (fun _ => Effect.tick_of_not_counts) (others h listed other)
    have ticked (h : Handling) (mem : h ∈ own) : h.weight (Effect.tick counters) =
        if missed .metrics h then 0
        else ⟨1, (h.reply.shows Status.isClientError).toNat, (h.reply.shows Status.isServerError).toNat,
          h.failed.toNat⟩ := by
      obtain ⟨answer, shown, ticked, -⟩ := answered h (Service.mem_own.mp mem).2
      rw [ticked, shown]
      rfl
    have total := Service.quantity_serveAll (Engine.metered_counters counters) s depth requests e
    refine total.trans (congrArg (e.counters counters + ·) ?_)
    rw [Service.weights_own foreign, weights, List.map_congr_left ticked, sum_map_unless,
      Counters.sum_map, List.countP_map, List.countP_map]
    rfl
  · obtain ⟨answer, shown, -, completed⟩ := answered h (Service.mem_own.mp mem).2
    exact ⟨answer, shown, completed⟩
  · exact Service.quantity_serveAll Engine.metered_completions s depth requests e

/-- With the recovering outside, a request that panics is answered, and neither counted nor logged. -/
theorem recovered_tallies_missed :
    let d := scripted [.panic "boom"] []
    let ms : List Monitor := [.recover, .metrics, .logger]
    let s := (d.watched 0 ms).build
    let requests : List Request := [⟨.get, ⟨"/inner", none⟩, [], []⟩]
    let run := s.serveAll 0 requests (Engine.create (.empty 1) Ulid.ofNat)
    d.errorHandler = .standard ∧ d.build.Obeys (.uncounted 0) ∧
      ms.Perm [.recover, .metrics, .logger] ∧
      (∃ answer, run.1 = [.answer answer] ∧ answer.status = .internalServerError) ∧
      (run.2.counters 0).requests ≠ requests.length ∧ (run.2.counters 0).serverErrors ≠ 1 ∧
      run.2.completions.card ≠ requests.length := by
  intro d ms s requests run
  have answered : run.1 = [.answer ⟨.internalServerError, [(.contentType, Context.jsonType)],
      Utf8.ofString "\x7b\"error\":\"Internal Server Error\"\x7d"⟩] := by decide +kernel
  exact ⟨rfl, scripted_obeys _ _, .refl _, ⟨_, answered, rfl⟩, by decide +kernel,
    by decide +kernel, by decide +kernel⟩

/-- With the recovering between the two, a request that panics is counted and not logged. -/
theorem recovered_tallies_between :
    let get (path : String) : Request := ⟨.get, ⟨path, none⟩, [], []⟩
    let d := scripted [.panic "boom"] [.text .ok "x"]
    let ms : List Monitor := [.metrics, .recover, .logger]
    let s := (d.watched 0 ms).build
    let e := Engine.create (.empty 1) Ulid.ofNat
    let requests := [get "/inner", get "/outer"]
    ms.Perm [.recover, .metrics, .logger] ∧ (∀ h ∈ s.handlings 0 requests e, h.service = s) ∧
      (s.serveAll 0 requests e).2.counters 0 = ⟨2, 0, 1, 1⟩ := by
  intro get d ms s e requests
  have perm : ms.Perm [.recover, .metrics, .logger] := by decide
  let h₁ : Handling := ⟨s, get "/inner", e, 0⟩
  let h₂ : Handling := ⟨s, get "/outer", (s.serve (.upTo 0) (get "/inner") e).2, 0⟩
  have alone₁ : h₁.calls.filterMap Call.handling? = [] := List.isEmpty_iff.mp (by decide +kernel)
  have alone₂ : h₂.calls.filterMap Call.handling? = [] := List.isEmpty_iff.mp (by decide +kernel)
  have both : s.handlings 0 requests e = [h₁, h₂] := by
    change h₁.family ++ (h₂.family ++ []) = _
    rw [Handling.family, Handling.family, alone₁, alone₂]
    rfl
  have same : ∀ h ∈ s.handlings 0 requests e, h.service = s := by
    rw [both, List.forall_mem_cons, List.forall_mem_singleton]
    exact ⟨rfl, rfl⟩
  obtain ⟨-, counted, -⟩ := recovered_tallies d rfl 0 (scripted_obeys _ _) perm 0 requests e
    fun h mem other => (other (same h mem)).elim
  refine ⟨perm, same, ?_⟩
  rw [Service.own_eq_self same, both] at counted
  rw [counted]
  decide +kernel

end Dispatcher

end RequestDispatch
