import RequestDispatch.Proofs.Serving.InternalFailures
import RequestDispatch.Proofs.Serving.Metering

/-!
# Built-in middleware that watches requests

Middleware that recovers from panics, counts requests or logs them lets every request through on the
context that it met, and leaves the context that what comes next left.  Around a chain, in any number and
order, each adds to the reports what it says of the end that it sees, and says nothing of a panic
(`Chain.run_watched`, `Chain.tally_watched`).
-/

namespace RequestDispatch

variable {M : Type} [AddCommMonoid M] {w : Effect → M}

theorem Middleware.recover_watches (free : ∀ effect, effect.Plain → w effect = 0) :
    recover.Watches w (fun _ e => e) Outcome.recovered fun _ _ => 0 := by
  intro nested next inner c e
  obtain ⟨after, recovered⟩ := recover_around nested next c e
  have closed : tally w [.close e.spans] = 0 := add_zero 0
  refine ⟨congrArg Prod.fst recovered, congrArg (·.2.1) recovered, ?_⟩
  simp only [trail, recover, Program.runTrail, tally_append, closed, add_zero, Program.trail,
    Trail.andThen]
  rcases next c e with ⟨outcome, c', e'⟩
  cases outcome with
  | ok => rfl
  | error f => rfl
  | panic p =>
    have logged : w (.log (.handlerPanicked c'.method c'.path p.message)) = 0 := free _ trivial
    exact congrArg (_ + ·) ((add_zero _).trans logged)

/-- Built-in middleware that watches requests. -/
inductive Monitor where
  | recover
  | metrics
  | logger
  deriving DecidableEq, Repr

namespace Monitor

/-- The middleware; requests are counted in this set of counters. -/
def layer (counters : Nat) : Monitor → Middleware
  | recover => .recover
  | metrics => .metrics counters
  | logger => .requestLogger

/-- The engine on which a request is let through. -/
def enter : Monitor → Context → Engine → Engine
  | logger, c, e => e.perform
      (.openSpan ⟨c.method, c.path, c.requestId.text, c.route.map (·.template), none⟩)
  | _, _, e => e

/-- How a request ends if what comes next ends like this. -/
def ends : Monitor → Outcome → Outcome
  | recover, outcome => outcome.recovered
  | _, outcome => outcome

/-- What is said of a request that returns. -/
def said (w : Effect → M) (counters : Nat) : Monitor → HandlerResult → Context → M
  | recover, _, _ => 0
  | metrics, result, c => w (.count counters (c.finalStatus result) (result != .ok))
  | logger, result, c => w (.log (.requestCompleted (c.finalStatus result) c.captureCount))

theorem watches (free : ∀ effect, effect.Plain → w effect = 0) (counters : Nat) (m : Monitor) :
    (m.layer counters).Watches w m.enter m.ends (m.said w counters) := by
  cases m with
  | recover => exact Middleware.recover_watches free
  | metrics => exact Middleware.metrics_watches w counters
  | logger => exact Middleware.requestLogger_watches free

/-- The engine on which monitors, from the outermost inward, let a request through. -/
def enterAll (ms : List Monitor) (c : Context) (e : Engine) : Engine :=
  ms.foldl (fun e m => m.enter c e) e

/-- How a request ends if what comes inside the monitors ends like this. -/
def endsAll (ms : List Monitor) (outcome : Outcome) : Outcome :=
  if .recover ∈ ms then outcome.recovered else outcome

/-- What the monitors say of a request if what comes inside them ends like this. -/
def toldAll (w : Effect → M) (counters : Nat) (outcome : Outcome) (c : Context) : List Monitor → M
  | [] => 0
  | m :: ms => toldAll w counters outcome c ms + (endsAll ms outcome).told (m.said w counters) c

theorem ends_of_ne {m : Monitor} (other : m ≠ .recover) (outcome : Outcome) : m.ends outcome = outcome := by
  cases m with
  | recover => exact absurd rfl other
  | _ => rfl

theorem ends_endsAll (m : Monitor) (ms : List Monitor) (outcome : Outcome) :
    m.ends (endsAll ms outcome) = endsAll (m :: ms) outcome := by
  unfold endsAll
  by_cases recovered : .recover ∈ ms
  · cases m <;> cases outcome <;> simp [recovered, ends, Outcome.recovered]
  · cases m <;> simp [recovered, ends]

end Monitor

/-- Whether a panic passes. -/
def Outcome.isPanic : Outcome → Bool
  | .panic _ => true
  | _ => false

namespace Monitor

variable {ms : List Monitor} {outcome : Outcome} {c : Context}

theorem endsAll_of_mem (recovers : .recover ∈ ms) : endsAll ms outcome = outcome.recovered :=
  if_pos recovers

theorem recovered_toOutcome (outcome : Outcome) :
    ∃ result, outcome.recovered = HandlerResult.toOutcome result := by
  cases outcome with
  | ok => exact ⟨.ok, rfl⟩
  | error f => exact ⟨.error f, rfl⟩
  | panic p => exact ⟨.error .recovered, rfl⟩

theorem told_eq_zero {counters : Nat} {m : Monitor} (silent : ∀ result c, m.said w counters result c = 0)
    (outcome : Outcome) (c : Context) : outcome.told (m.said w counters) c = 0 := by
  cases outcome with
  | ok => exact silent .ok c
  | error f => exact silent (.error f) c
  | panic p => rfl

theorem toldAll_eq_zero {counters : Nat}
    (silent : ∀ m ∈ ms, ∀ result c, m.said w counters result c = 0) :
    toldAll w counters outcome c ms = 0 := by
  induction ms with
  | nil => rfl
  | cons m ms ih =>
    obtain ⟨here, others⟩ := List.forall_mem_cons.mp silent
    rw [toldAll, ih others, told_eq_zero here, zero_add]

/-- Of all monitors only one says something: it tells the end that it sees, which is recovered from a panic
if `recover` stands further inside. -/
theorem toldAll_of_only {counters : Nat} {x : Monitor} (other : x ≠ .recover)
    (silent : ∀ m ≠ x, ∀ result c, m.said w counters result c = 0) (distinct : ms.Nodup) (mem : x ∈ ms) :
    toldAll w counters outcome c ms =
      (if ms.idxOf x < ms.idxOf .recover then endsAll ms outcome else outcome).told
        (x.said w counters) c := by
  induction ms with
  | nil => cases mem
  | cons m ms ih =>
    obtain ⟨fresh, distinct⟩ := List.nodup_cons.mp distinct
    rw [toldAll]
    by_cases same : m = x
    · subst same
      have rest : toldAll w counters outcome c ms = 0 :=
        toldAll_eq_zero fun n mem => silent n fun eq => fresh (eq ▸ mem)
      rw [rest, zero_add, List.idxOf_cons_self, List.idxOf_cons_ne _ other, if_pos (Nat.succ_pos _),
        ← ends_endsAll, ends_of_ne other]
    · rw [told_eq_zero (silent m same), add_zero,
        ih distinct (List.mem_of_ne_of_mem (Ne.symm same) mem), List.idxOf_cons_ne _ same]
      by_cases recovers : m = .recover
      · subst recovers
        have outside : ms.idxOf x < ms.idxOf .recover := by
          rw [List.idxOf_eq_length fresh]
          exact List.idxOf_lt_length_iff.mpr (List.mem_of_ne_of_mem other mem)
        rw [if_pos outside, endsAll, if_neg fresh, List.idxOf_cons_self, if_neg (Nat.not_lt_zero _)]
      · rw [List.idxOf_cons_ne _ recovers, ← ends_endsAll, ends_of_ne recovers]
        simp only [Nat.succ_lt_succ_iff]

/-- Whether a monitor misses how a request ends: a panic that only `recover` further outside turns into an
error passes by it. -/
def misses (ms : List Monitor) (x : Monitor) (outcome : Outcome) : Bool :=
  ms.idxOf .recover < ms.idxOf x && outcome.isPanic

/-- Of all monitors only one says something, and some recover from panics: it tells the end that all of
them see, unless it misses it. -/
theorem toldAll_of_recovered {counters : Nat} {x : Monitor} (other : x ≠ .recover)
    (silent : ∀ m ≠ x, ∀ result c, m.said w counters result c = 0) (distinct : ms.Nodup) (mem : x ∈ ms)
    (recovers : .recover ∈ ms) {result : HandlerResult} (ended : endsAll ms outcome = result.toOutcome) :
    toldAll w counters outcome c ms =
      if misses ms x outcome then 0 else x.said w counters result c := by
  rw [toldAll_of_only other silent distinct mem, misses]
  rcases Nat.lt_or_ge (ms.idxOf x) (ms.idxOf .recover) with inside | outside
  · rw [if_pos inside, ended, Outcome.told_toOutcome, decide_eq_false (Nat.lt_asymm inside)]
    rfl
  · have apart : ms.idxOf .recover ≠ ms.idxOf x := fun same =>
      other ((List.idxOf_inj recovers).mp same).symm
    rw [if_neg (Nat.not_lt.mpr outside), decide_eq_true (Nat.lt_of_le_of_ne outside apart), Bool.true_and]
    rw [endsAll_of_mem recovers] at ended
    have told := (congrArg (fun o => o.told (x.said w counters) c) ended).trans
      (Outcome.told_toOutcome ..)
    cases outcome with
    | panic p => rfl
    | _ => exact told

end Monitor

namespace Chain

variable (nested : Nested)

/-- Inside monitors a chain runs on the context that they met, and they keep the context that it leaves. -/
theorem run_watched (counters : Nat) (ms : List Monitor) (chain : Chain) (c : Context) (e : Engine) :
    let ended := chain.run nested c (Monitor.enterAll ms c e)
    let run := (chain.inside (ms.map (Monitor.layer counters))).run nested c e
    run.1 = Monitor.endsAll ms ended.1 ∧ run.2.1 = ended.2.1 := by
  induction ms generalizing e with
  | nil => exact ⟨rfl, rfl⟩
  | cons m ms ih =>
    obtain ⟨outcome, context⟩ := ih (m.enter c e)
    obtain ⟨ends, kept, -⟩ := m.watches (w := fun _ => (0 : Nat)) (fun _ _ => rfl) counters nested
      ((chain.inside (ms.map (Monitor.layer counters))).run nested) (fun _ _ => []) c e
    refine ⟨ends.trans ?_, kept.trans context⟩
    rw [outcome]
    exact m.ends_endsAll ms _

/-- Monitors let every request through. -/
theorem entry_watched (counters : Nat) (ms : List Monitor) (handler : Handler) (c : Context) (e : Engine) :
    (Chain.mk (ms.map (Monitor.layer counters)) handler).entry nested c e =
      some (c, Monitor.enterAll ms c e) := by
  induction ms generalizing e with
  | nil => rfl
  | cons m ms ih =>
    have first : (m.layer counters).entry nested c e = some (c, m.enter c e) := by cases m <;> rfl
    rw [List.map_cons, entry, List.foldlM_cons, first]
    exact ih (m.enter c e)

/-- Monitors add to the reports of a chain what they say of its end. -/
theorem tally_watched (free : ∀ effect, effect.Plain → w effect = 0) (counters : Nat)
    (ms : List Monitor) (chain : Chain) (c : Context) (e : Engine) :
    let below := Monitor.enterAll ms c e
    let ended := chain.run nested c below
    tally w ((chain.inside (ms.map (Monitor.layer counters))).trail nested c e) =
      tally w (chain.trail nested c below) + Monitor.toldAll w counters ended.1 ended.2.1 ms := by
  induction ms generalizing e with
  | nil => exact (add_zero _).symm
  | cons m ms ih =>
    obtain ⟨outcome, context⟩ := run_watched nested counters ms chain c (m.enter c e)
    obtain ⟨-, -, added⟩ := m.watches free counters nested
      ((chain.inside (ms.map (Monitor.layer counters))).run nested)
      ((chain.inside (ms.map (Monitor.layer counters))).trail nested) c e
    rw [outcome, context, ih (m.enter c e), add_assoc] at added
    exact added

end Chain

end RequestDispatch
