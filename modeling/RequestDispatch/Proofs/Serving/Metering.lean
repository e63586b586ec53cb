import Mathlib.Algebra.Order.Group.Multiset
import RequestDispatch.Proofs.Script.Conduct
import RequestDispatch.Proofs.Serving.StandardAnswers
import RequestDispatch.Proofs.Serving.Tallies
import RequestDispatch.Proofs.Setup.LiveUpdates
import RequestDispatch.Proofs.Setup.Frames

/-!
# Counted and logged requests

Middleware that counts requests and middleware that logs them see a context before failures are
answered, so they foretell the status of the answer.  At the outside of a service whose failures are left
to the standard error handler they foretell it right, whatever runs inside: over any run the counters
and the log tell of the answers that clients got (`Service.Monitored.tallies`).
-/

namespace RequestDispatch

/-! ### The two quantities -/

namespace Counters

instance : Add Counters :=
  ⟨fun n m => ⟨n.requests + m.requests, n.clientErrors + m.clientErrors,
    n.serverErrors + m.serverErrors, n.handlerErrors + m.handlerErrors⟩⟩

instance : Zero Counters := ⟨zero⟩

theorem add_eq (n m : Counters) :
    n + m = ⟨n.requests + m.requests, n.clientErrors + m.clientErrors,
      n.serverErrors + m.serverErrors, n.handlerErrors + m.handlerErrors⟩ := rfl

instance : AddCommMonoid Counters where
  add_assoc n m k := by simp only [add_eq, Nat.add_assoc]
  zero_add n := by
    change zero + n = n
    simp only [add_eq, zero, Nat.zero_add]
  add_zero n := rfl
  add_comm n m := by simp only [add_eq, Nat.add_comm]
  nsmul := nsmulRec

theorem record_eq (n : Counters) (status : Status) (failed : Bool) :
    n.record status failed =
      n + ⟨1, status.isClientError.toNat, status.isServerError.toNat, failed.toNat⟩ := rfl

/-- What requests amount to, each counted by itself. -/
theorem sum_map {α : Type} (client server failed : α → Bool) (requests : List α) :
    (requests.map fun r =>
      (⟨1, (client r).toNat, (server r).toNat, (failed r).toNat⟩ : Counters)).sum =
      ⟨requests.length, requests.countP client, requests.countP server, requests.countP failed⟩ := by
  have one (b : Bool) : b.toNat = if b then 1 else 0 := by cases b <;> rfl
  induction requests with
  | nil => rfl
  | cons r rest ih =>
    rw [List.map_cons, List.sum_cons, ih, add_comm]
    simp only [add_eq, List.length_cons, List.countP_cons, one]

end Counters

/-- What a report adds to a set of counters. -/
def Effect.tick (id : Nat) : Effect → Counters
  | .count n status failed =>
    if n = id then ⟨1, status.isClientError.toNat, status.isServerError.toNat, failed.toNat⟩ else 0
  | _ => 0

/-- The status of the request that a report calls completed. -/
def Effect.completion : Effect → Multiset Status
  | .log event => ↑event.completed?.toList
  | _ => 0

namespace Engine

/-- The statuses of all requests that the log calls completed. -/
def completions (e : Engine) : Multiset Status := ↑(e.records.filterMap fun r => r.event.completed?)

theorem completions_log (e : Engine) (event : Event) :
    (e.log event).completions = e.completions + ↑event.completed?.toList := by
  rw [completions, log, List.filterMap_cons]
  cases event.completed? with
  | none => exact (add_zero _).symm
  | some status => exact (Multiset.singleton_add status e.completions).symm.trans (add_comm _ _)

theorem completions_log_other (e : Engine) {event : Event} (other : event.completed? = none) :
    (e.log event).completions = e.completions := by
  rw [completions_log, other]
  exact add_zero _

theorem completions_logAll (e : Engine) {events : List Event}
    (others : ∀ event ∈ events, event.completed? = none) :
    (e.logAll events).completions = e.completions := by
  induction events generalizing e with
  | nil => rfl
  | cons event rest ih =>
    obtain ⟨here, others⟩ := List.forall_mem_cons.mp others
    exact (ih _ others).trans (e.completions_log_other here)

theorem completions_build (e : Engine) (d : Dispatcher) :
    (e.build d).2.completions = e.completions := by
  have built : (e.log d.builtEvent).completions = e.completions := e.completions_log_other rfl
  simp only [build, reserveCaptures]
  split
  · exact built
  · exact (completions_log_other _ rfl).trans built

theorem completions_update {α : Type} (e : Engine) (name : String) {change : Setup α}
    (silent : change.Silent) : (e.update name change).2.completions = e.completions := by
  rw [update]
  cases e.live? name with
  | none => rfl
  | some live =>
    have quiet : ∀ event ∈ (Setup.on live.setup change).2.2, event.completed? = none := by
      have none := silent ⟨live.setup, []⟩
      exact fun event mem => List.filterMap_eq_nil_iff.mp none event (List.mem_reverse.mp mem)
    dsimp only
    generalize Setup.on live.setup change = ran at quiet
    obtain ⟨result, d, events⟩ := ran
    have logged : (e.logAll events).completions = e.completions := e.completions_logAll quiet
    cases result with
    | error reason => exact (completions_log_other (e.logAll events) rfl).trans logged
    | ok value =>
      have built := (completions_build (e.logAll events) d).trans logged
      exact (completions_log_other _ rfl).trans built

theorem counters_build (e : Engine) (d : Dispatcher) : (e.build d).2.counters = e.counters := by
  simp only [build, reserveCaptures]
  split <;> rfl

theorem counters_update {α : Type} (e : Engine) (name : String) (change : Setup α) :
    (e.update name change).2.counters = e.counters :=
  update_keeps (fun e e' => e'.counters = e.counters) (fun _ => rfl)
    (fun first second => second.trans first) (fun _ _ => rfl) counters_build (fun _ _ => rfl) change e

/-- Counters are raised by reports that count. -/
theorem metered_counters (id : Nat) : Metered (fun e => e.counters id) (Effect.tick id) where
  perform e effect := by
    cases effect with
    | count n status failed =>
      simp only [perform, count, Effect.tick, eq_comm (a := id)]
      split
      · exact Counters.record_eq _ status failed
      · rfl
    | recordStatus status =>
      simp only [perform, recordStatus]
      split <;> rfl
    | _ => rfl
  spans _ _ := rfl
  notes _ := rfl
  updates name change e := congrFun (e.counters_update name (Registration.change change)) id
  opens h := by
    unfold Handling.opening
    rfl
  closes h := by
    unfold Handling.closing
    rcases h.run with ⟨outcome, c, e⟩
    cases outcome <;> rfl

/-- Completions are added by reports of the log. -/
theorem metered_completions : Metered completions Effect.completion where
  perform e effect := by
    cases effect with
    | log event => exact e.completions_log event
    | recordStatus status =>
      rw [perform, recordStatus]
      split <;> exact (add_zero _).symm
    | _ => exact (add_zero _).symm
  spans _ _ := rfl
  notes _ := rfl
  updates name change e := e.completions_update name (Registration.change_silent change)
  opens h := by
    unfold Handling.opening
    exact completions_log_other _ rfl
  closes h := by
    unfold Handling.closing
    rcases h.run with ⟨outcome, c, e⟩
    cases outcome with
    | panic p => exact e.completions_log_other rfl
    | _ => rfl

end Engine

/-! ### What the outer middleware adds -/

/-- Reports that count in this set of counters. -/
def Effect.Counts (id : Nat) : Effect → Prop
  | .count n _ _ => n = id
  | _ => False

theorem Effect.tick_of_not_counts {id : Nat} {effect : Effect} (unused : ¬ effect.Counts id) :
    effect.tick id = 0 := by
  cases effect with
  | count n status failed => exact if_neg unused
  | _ => rfl

/-- Reports that neither count in this set of counters nor call a request completed. -/
def Effect.Spares (id : Nat) : Effect → Prop
  | .count n _ _ => n ≠ id
  | .log (.requestCompleted ..) => False
  | _ => True

namespace Effect.Spares

variable {id : Nat} {effect : Effect}

theorem tick (spares : effect.Spares id) : effect.tick id = 0 := by
  cases effect with
  | count n status failed => exact if_neg spares
  | _ => rfl

theorem completion (spares : effect.Spares id) : effect.completion = 0 := by
  cases effect with
  | log event =>
    cases event with
    | requestCompleted status params => exact spares.elim
    | _ => rfl
  | _ => rfl

end Effect.Spares

theorem Effect.Plain.spares {effect : Effect} (plain : effect.Plain) (id : Nat) :
    effect.Spares id := by
  cases effect with
  | count n status failed => exact plain.elim
  | log event =>
    cases event with
    | requestCompleted status params => exact plain.elim
    | _ => trivial
  | _ => trivial

theorem Effect.Plain.not_counts {effect : Effect} (plain : effect.Plain) (id : Nat) :
    ¬ effect.Counts id := by
  intro counts
  cases effect with
  | count n status failed => exact plain
  | _ => exact counts

namespace Conduct

/-- No report counts in this set of counters. -/
def uncounted (id : Nat) : Conduct :=
  .reporting (fun effect => ¬ effect.Counts id) fun _ plain => plain.not_counts id

/-- No report counts in this set of counters, and none calls a request completed. -/
def sparing (id : Nat) : Conduct := .reporting (Effect.Spares id) fun _ plain => plain.spares id

end Conduct

section Front

variable {M : Type} [AddCommMonoid M] {w : Effect → M} {nested : Nested}

/-- What is said of an end that is no panic. -/
def Outcome.told (said : HandlerResult → Context → M) : Outcome → Context → M
  | .ok, c => said .ok c
  | .error f, c => said (.error f) c
  | .panic _, _ => 0

theorem Outcome.told_toOutcome (said : HandlerResult → Context → M) (result : HandlerResult)
    (c : Context) : result.toOutcome.told said c = said result c := by
  cases result <;> rfl

/-- The middleware lets every request through on the context that it met and keeps the context that what
comes next leaves; to the reports of that it adds what `said` gives for its end. -/
def Middleware.Watches (w : Effect → M) (enter : Context → Engine → Engine) (ends : Outcome → Outcome)
    (said : HandlerResult → Context → M) (m : Middleware) : Prop :=
  ∀ (nested : Nested) (next : Stage) (inner : Context → Trail) (c : Context) (e : Engine),
    let ended := next c (enter c e)
    let run := m.around nested next c e
    run.1 = ends ended.1 ∧ run.2.1 = ended.2.1 ∧
      tally w (m.trail nested next inner c e) =
        tally w (inner c (enter c e)) + ended.1.told said ended.2.1

/-- Around whatever comes next the middleware ends as that does, and adds what `said` gives for that end
unless it is a panic. -/
def Middleware.Adds (w : Effect → M) (said : HandlerResult → Context → M) (m : Middleware) : Prop :=
  ∀ (nested : Nested) (next : Stage) (inner : Context → Trail) (c : Context) (e : Engine),
    ∃ below, let run := m.around nested next c e
      run.1 = (next c below).1 ∧ run.2.1 = (next c below).2.1 ∧
        ∀ result, run.1 = HandlerResult.toOutcome result →
          tally w (m.trail nested next inner c e) = tally w (inner c below) + said result run.2.1

/-- Middleware that reports before and after what comes next and ends as that does. -/
def Middleware.reporting (name : String) (before : Context → List Effect)
    (after : HandlerResult → Context → List Effect) : Middleware :=
  .wrap name fun c => .emits (before c)
    (.next c fun result c => .emits (after result c) (.done result.toOutcome c))

theorem Middleware.reporting_watches (name : String) (before : Context → List Effect)
    (after : HandlerResult → Context → List Effect) (light : ∀ c, ((before c).map w).sum = 0) :
    (reporting name before after).Watches w (fun c e => (before c).foldl Engine.perform e)
      (fun outcome => outcome) fun result c => ((after result c).map w).sum := by
  intro nested next inner c e
  have reported (effects : List Effect) :
      tally w (effects.map .report) = (effects.map w).sum := by
    rw [tally, List.map_map]
    rfl
  have closed : tally w [.close e.spans] = 0 := add_zero 0
  simp only [reporting, around, trail, Program.run, Program.runTrail, Program.execute_emits,
    Program.trail_emits, tally_append, reported, light, closed, zero_add, add_zero, Program.execute,
    Program.trail, Trail.andThen]
  rcases next c _ with ⟨outcome, c', e'⟩
  have added (result : HandlerResult) :
      let rest := Program.emits (after result c') (.done result.toOutcome c')
      tally w (rest.trail nested next inner e') = ((after result c').map w).sum := by
    dsimp only
    rw [Program.trail_emits, tally_append, reported]
    exact add_zero _
  cases outcome with
  | ok => exact ⟨rfl, rfl, congrArg (_ + ·) (added .ok)⟩
  | error f => exact ⟨rfl, rfl, congrArg (_ + ·) (added (.error f))⟩
  | panic p => exact ⟨rfl, rfl, rfl⟩

theorem Middleware.Watches.adds {enter : Context → Engine → Engine} {m : Middleware}
    {said : HandlerResult → Context → M} (watches : m.Watches w enter (fun outcome => outcome) said) :
    m.Adds w said := by
  intro nested next inner c e
  obtain ⟨outcome, context, added⟩ := watches nested next inner c e
  refine ⟨enter c e, outcome, context, fun result ended => ?_⟩
  have same : (next c (enter c e)).1 = result.toOutcome := outcome.symm.trans ended
  rw [added, ← context, same, Outcome.told_toOutcome]

theorem Middleware.metrics_watches (w : Effect → M) (id : Nat) :
    (metrics id).Watches w (fun _ e => e) (fun outcome => outcome)
      fun result c => w (.count id (c.finalStatus result) (result != .ok)) := by
  have watches := reporting_watches (w := w) "metrics" (fun _ => [])
    (fun result c => [.count id (c.finalStatus result) (result != .ok)]) fun _ => rfl
  simp only [List.map_cons, List.map_nil, List.sum_cons, List.sum_nil, add_zero] at watches
  exact watches

theorem Middleware.requestLogger_watches (free : ∀ effect, effect.Plain → w effect = 0) :
    requestLogger.Watches w
      (fun c e => e.perform
        (.openSpan ⟨c.method, c.path, c.requestId.text, c.route.map (·.template), none⟩))
      (fun outcome => outcome)
      fun result c => w (.log (.requestCompleted (c.finalStatus result) c.captureCount)) := by
  have watches := reporting_watches (w := w) "request_logger"
    (fun c => [.openSpan ⟨c.method, c.path, c.requestId.text, c.route.map (·.template), none⟩])
    (fun result c => [.recordStatus (c.finalStatus result),
      .log (.requestCompleted (c.finalStatus result) c.captureCount)])
    fun c => (add_zero _).trans (free _ trivial)
  have unmarked (status : Status) : w (.recordStatus status) = 0 := free _ trivial
  simp only [List.map_cons, List.map_nil, List.sum_cons, List.sum_nil, add_zero, unmarked,
    zero_add] at watches
  exact watches

/-- Inside two such middlewares both add their part. -/
theorem Middleware.Adds.both {m₁ m₂ : Middleware} {said₁ said₂ : HandlerResult → Context → M}
    (first : m₁.Adds w said₁) (second : m₂.Adds w said₂) (nested : Nested) (chain : Chain)
    (c : Context) (e : Engine) :
    ∃ below, let run := (chain.inside [m₁, m₂]).run nested c e
      ∀ result, run.1 = HandlerResult.toOutcome result →
        tally w ((chain.inside [m₁, m₂]).trail nested c e) =
          tally w (chain.trail nested c below) + (said₂ result run.2.1 + said₁ result run.2.1) := by
  obtain ⟨between, outcome, context, outer⟩ := first nested (m₂.around nested (chain.run nested))
    (m₂.trail nested (chain.run nested) (chain.trail nested)) c e
  obtain ⟨below, _, _, inner⟩ := second nested (chain.run nested) (chain.trail nested) c between
  refine ⟨below, fun result ended => (outer result ended).trans ?_⟩
  rw [inner result (outcome.symm.trans ended), ← context, add_assoc]
  rfl

section Service

variable {conduct : Conduct} {m₁ m₂ : Middleware} {said₁ said₂ : HandlerResult → Context → M}

/-- What chain and error handler of a request add, if all but two outermost middlewares add nothing. -/
theorem Service.tally_trail (free : ∀ effect, conduct.reports effect → w effect = 0)
    (first : m₁.Adds w said₁) (second : m₂.Adds w said₂) {s : Service} {chain : Chain}
    (inside : chain.Obeys conduct) (errors : ∀ f c, (s.errorHandler f c).Obeys conduct c)
    (nested : Nested) (c : Context) (e : Engine) :
    let run := (chain.inside [m₁, m₂]).run nested c e
    ∀ result, run.1 = HandlerResult.toOutcome result →
      tally w (s.trail nested (chain.inside [m₁, m₂]) c e) =
        said₂ result run.2.1 + said₁ result run.2.1 := by
  intro run result ended
  obtain ⟨below, both⟩ := first.both second nested chain c e
  have quiet : tally w (chain.trail nested c below) = 0 :=
    tally_eq_zero free (inside.run nested c below).2
  have answered : tally w (s.errorTrail nested run.1 run.2.1 run.2.2) = 0 := by
    refine tally_eq_zero free ?_
    cases run.1 with
    | error f => exact ((errors f run.2.1).run Stage.finish_obeys run.2.2).2
    | _ => exact List.forall_mem_nil _
  rw [Service.trail, Trail.andThen, tally_append, both result ended, quiet, zero_add]
  exact (congrArg (_ + ·) answered).trans (add_zero _)

theorem Handling.weight_eq (free : ∀ effect, conduct.reports effect → w effect = 0) (first : m₁.Adds w said₁)
    (second : m₂.Adds w said₂) {h : Handling} {d : Dispatcher}
    (service : h.service = (d.inside [m₁, m₂]).build) (inner : d.build.Obeys conduct)
    {result : HandlerResult} (ended : h.chainRun.1 = result.toOutcome) :
    h.weight w = said₂ result h.chainRun.2.1 + said₁ result h.chainRun.2.1 := by
  unfold Handling.chainRun at ended ⊢
  unfold Handling.weight Handling.trail
  have errors : ∀ f c, (h.service.errorHandler f c).Obeys conduct c := by
    rw [service]
    exact inner.errorHandler
  have bound : h.bound.1 = (d.build.binding h.request h.id).1.inside [m₁, m₂] :=
    congrArg Prod.fst (Handling.bound_inside service)
  have total := Service.tally_trail free first second (inner.binding h.request h.id) errors h.nested
    h.bound.2 h.opening
  rw [← bound] at total
  exact total result ended

end Service

end Front

/-! ### Monitored services -/

/-- The two outermost middlewares of the service count requests in this set of counters and log them, in
either order.  Nothing else in it does, and failures are left to the standard error handler; contexts are
free to be bound to other requests. -/
inductive Service.Monitored (id : Nat) : Service → Prop where
  | countedInLog (d : Dispatcher) (standard : d.errorHandler = .standard)
    (inner : d.build.Obeys (.sparing id)) :
    Monitored id (d.inside [.requestLogger, .metrics id]).build
  | loggedInCount (d : Dispatcher) (standard : d.errorHandler = .standard)
    (inner : d.build.Obeys (.sparing id)) :
    Monitored id (d.inside [.metrics id, .requestLogger]).build

/-- Whether a reply is an answer with a status of this kind. -/
def Reply.shows (kind : Status → Bool) : Reply → Bool
  | .answer shown => kind shown.status
  | _ => false

def Outcome.isError : Outcome → Bool
  | .error _ => true
  | _ => false

/-- Whether the chain of a request returned an error. -/
def Handling.failed (h : Handling) : Bool := h.chainRun.1.isError

theorem Service.Monitored.standard {id : Nat} {s : Service} (monitored : s.Monitored id) :
    s.errorHandler = .standard := by
  cases monitored <;> assumption

namespace Handling

variable {h : Handling} {id : Nat} {result : HandlerResult}

/-- All that a monitored service reports is what its two outermost middlewares do. -/
theorem weight_of_monitored {M : Type} [AddCommMonoid M] {w : Effect → M}
    (free : ∀ effect, effect.Spares id → w effect = 0) (monitored : h.service.Monitored id)
    (ended : h.chainRun.1 = result.toOutcome) :
    h.weight w = w (.count id (h.chainRun.2.1.finalStatus result) (result != .ok)) +
      w (.log (.requestCompleted (h.chainRun.2.1.finalStatus result) h.chainRun.2.1.captureCount)) := by
  have counted := (Middleware.metrics_watches w id).adds
  have logged := (Middleware.requestLogger_watches fun effect plain => free effect (plain.spares id)).adds
  generalize built : h.service = s at monitored
  cases monitored with
  | countedInLog d standard inner => exact weight_eq free logged counted built inner ended
  | loggedInCount d standard inner =>
    rw [weight_eq free counted logged built inner ended, add_comm]

/-- A request to a monitored service is counted once and reported as completed once, each time with the
status of its answer. -/
theorem answered_of_monitored (monitored : h.service.Monitored id)
    (calm : ∀ p, h.chainRun.1 ≠ .panic p) :
    ∃ answer, h.reply = .answer answer ∧
      h.weight (Effect.tick id) =
        ⟨1, answer.status.isClientError.toNat, answer.status.isServerError.toNat, h.failed.toNat⟩ ∧
      h.weight Effect.completion = {answer.status} := by
  obtain ⟨result, ended⟩ : ∃ result, h.chainRun.1 = HandlerResult.toOutcome result := by
    cases outcome : h.chainRun.1 with
    | ok => exact ⟨.ok, rfl⟩
    | error f => exact ⟨.error f, rfl⟩
    | panic p => exact (calm p outcome).elim
  have failed : h.failed = (result != .ok) := by
    rw [Handling.failed, ended]
    cases result <;> rfl
  obtain ⟨answer, shown, status⟩ := standardReply_status result h.chainRun.2.1
  rw [← ended, ← reply_of_standard monitored.standard] at shown
  refine ⟨answer, shown, ?_, ?_⟩
  · rw [weight_of_monitored (fun _ => Effect.Spares.tick) monitored ended, Effect.tick, if_pos rfl,
      status, failed]
    exact add_zero _
  · rw [weight_of_monitored (fun _ => Effect.Spares.completion) monitored ended, status]
    exact zero_add _

end Handling

namespace Service

open Classical in
/-- The requests among these that this service handles. -/
noncomputable def own (s : Service) (hs : List Handling) : List Handling := hs.filter (·.service = s)

theorem mem_own {s : Service} {hs : List Handling} {h : Handling} :
    h ∈ s.own hs ↔ h ∈ hs ∧ h.service = s := by
  simp only [own, List.mem_filter, decide_eq_true_eq]

theorem own_eq_self {s : Service} {hs : List Handling} (all : ∀ h ∈ hs, h.service = s) :
    s.own hs = hs := by
  simp only [own, List.filter_eq_self, decide_eq_true_eq]
  exact all

open Classical in
/-- What requests add of which only the service's own add anything. -/
theorem weights_own {M : Type} [AddCommMonoid M] {w : Effect → M} {s : Service}
    {hs : List Handling} (foreign : ∀ h ∈ hs, h.service ≠ s → h.weight w = 0) :
    weights w hs = weights w (s.own hs) := by
  induction hs with
  | nil => rfl
  | cons h hs ih =>
    obtain ⟨here, others⟩ := List.forall_mem_cons.mp foreign
    rw [weights_cons, ih others, own, own, List.filter_cons]
    split
    · rw [weights_cons]
    · rename_i other
      rw [here (other ∘ decide_eq_true), zero_add]

/-- Over any run of a monitored service, in which no other service uses its counters and no panic escapes
its own chains, the counters and the log agree with the answers that clients get: every request that it
handles, nested ones included, is counted once, by the status of its answer, and reported as completed
once with that status. -/
theorem Monitored.tallies {s : Service} {id : Nat} (monitored : s.Monitored id) (depth : Nat)
    (requests : List Request) (e : Engine)
    (others : ∀ h ∈ s.handlings depth requests e, h.service ≠ s →
      h.service.Obeys (.uncounted id))
    (calm : ∀ h ∈ s.handlings depth requests e, h.service = s → ∀ p, h.chainRun.1 ≠ .panic p) :
    let run := s.serveAll depth requests e
    let handled := s.handlings depth requests e
    let own := s.own handled
    let replies := own.map Handling.reply
    run.1.filter (!·.isPanic) = (s.received depth requests e).map Handling.reply ∧
      run.2.counters id = e.counters id +
        ⟨own.length, replies.countP (Reply.shows Status.isClientError),
          replies.countP (Reply.shows Status.isServerError), own.countP Handling.failed⟩ ∧
      (∀ h ∈ own, ∃ answer, h.reply = .answer answer ∧
        h.weight Effect.completion = {answer.status}) ∧
      run.2.completions = e.completions + (handled.map (Handling.weight Effect.completion)).sum := by
  intro run handled own replies
  have answered (h : Handling) (listed : h ∈ handled) (same : h.service = s) :=
    Handling.answered_of_monitored (same ▸ monitored) (calm h listed same)
  refine ⟨?_, ?_, fun h mem => ?_, ?_⟩
  · refine (s.serveAll_replies depth requests e).trans (List.filter_eq_self.mpr ?_)
    refine List.forall_mem_map.mpr fun h mem => ?_
    obtain ⟨answer, shown, _⟩ := answered h (mem_handlings mem) (service_of_received mem)
    rw [shown]
    rfl
  · have foreign (h : Handling) (listed : h ∈ handled) (other : h.service ≠ s) :
        h.weight (Effect.tick id) = 0 :=
      Handling.weight_eq_zero (fun _ => Effect.tick_of_not_counts) (others h listed other)
    have counted (h : Handling) (mem : h ∈ own) : h.weight (Effect.tick id) =
        ⟨1, (h.reply.shows Status.isClientError).toNat, (h.reply.shows Status.isServerError).toNat,
          h.failed.toNat⟩ := by
      obtain ⟨listed, same⟩ := mem_own.mp mem
      obtain ⟨answer, shown, ticked, _⟩ := answered h listed same
      rw [ticked, shown]
      rfl
    have total := quantity_serveAll (Engine.metered_counters id) s depth requests e
    refine total.trans (congrArg (e.counters id + ·) ?_)
    rw [weights_own foreign, weights, List.map_congr_left counted, Counters.sum_map,
      List.countP_map, List.countP_map]
    rfl
  · obtain ⟨listed, same⟩ := mem_own.mp mem
    obtain ⟨answer, shown, _, completed⟩ := answered h listed same
    exact ⟨answer, shown, completed⟩
  · exact quantity_serveAll Engine.metered_completions s depth requests e

/-- A request that succeeds and one that fails. -/
theorem Monitored.tallies_scripts :
    let get (path : String) : Request := ⟨.get, ⟨path, none⟩, [], []⟩
    let d := Dispatcher.scripted [.text .ok "x"] [.fail ⟨[.text "no"], .http (.ofStatus .notFound)⟩]
    let s := (d.inside [.metrics 0, .requestLogger]).build
    let e := Engine.create (.empty 1) Ulid.ofNat
    let requests := [get "/inner", get "/outer"]
    let handled := s.handlings 0 requests e
    s.Monitored 0 ∧ (∀ h ∈ handled, h.service = s ∧ ∀ p, h.chainRun.1 ≠ .panic p) ∧
      (s.serveAll 0 requests e).2.counters 0 = ⟨2, 1, 0, 1⟩ ∧
      ∀ h ∈ handled, ∃ answer, h.reply = .answer answer ∧
        h.weight Effect.completion = {answer.status} := by
  intro get d s e requests handled
  have monitored : s.Monitored 0 :=
    .loggedInCount d rfl (Dispatcher.scripted_obeys _ _)
  let h₁ : Handling := ⟨s, get "/inner", e, 0⟩
  let h₂ : Handling := ⟨s, get "/outer", (s.serve (.upTo 0) (get "/inner") e).2, 0⟩
  have alone₁ : h₁.calls.filterMap Call.handling? = [] := List.isEmpty_iff.mp (by decide +kernel)
  have alone₂ : h₂.calls.filterMap Call.handling? = [] := List.isEmpty_iff.mp (by decide +kernel)
  have both : handled = [h₁, h₂] := by
    change h₁.family ++ (h₂.family ++ []) = _
    rw [Handling.family, Handling.family, alone₁, alone₂]
    rfl
  have ended₁ : h₁.chainRun.1 = .ok := by decide +kernel
  have ended₂ : h₂.chainRun.1 = .error ⟨[.text "no"], .http (.ofStatus .notFound)⟩ := by
    decide +kernel
  have calm : ∀ h ∈ handled, h.service = s ∧ ∀ p, h.chainRun.1 ≠ .panic p := by
    rw [both, List.forall_mem_cons, List.forall_mem_singleton, ended₁, ended₂]
    exact ⟨⟨rfl, nofun⟩, rfl, nofun⟩
  have all : s.own handled = handled := own_eq_self fun h mem => (calm h mem).1
  obtain ⟨_, counted, each, _⟩ := monitored.tallies 0 requests e
    (fun h mem other => (other (calm h mem).1).elim) fun h mem _ => (calm h mem).2
  rw [all] at each
  refine ⟨monitored, calm, ?_, each⟩
  rw [counted, all, both]
  decide +kernel

end Service

end RequestDispatch
