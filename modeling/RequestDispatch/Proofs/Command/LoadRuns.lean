import Mathlib.Algebra.BigOperators.Group.List.Basic
import Mathlib.Data.List.Nodup
import Mathlib.Data.List.Perm.Basic
import Mathlib.Logic.Function.Basic
import RequestDispatch.Command.LoadRun
import RequestDispatch.Proofs.Command.Reports
import RequestDispatch.Proofs.Serving.StandardAnswers
import RequestDispatch.Proofs.Serving.Tallies

/-!
# Load runs

The workers of a load run take turns in any order, each with its own counts and on one shared engine.
Where the status of an answer depends on nothing but the request, what a worker has counted depends only
on how many turns it has had (`LoadState.Tallied`), so the counts of a run are the same in every order
(`LoadPlan.runs_settle`).
-/

namespace RequestDispatch

/-! ### Counting answers by kind -/

inductive AnswerKind where
  | success
  | clientError
  | serverError
  deriving DecidableEq, Repr

def Status.kind (status : Status) : AnswerKind :=
  if status.isServerError then .serverError
  else if status.isClientError then .clientError
  else .success

namespace AnswerCounts

instance : Add AnswerCounts :=
  ⟨fun a b => ⟨a.success + b.success, a.clientErrors + b.clientErrors, a.serverErrors + b.serverErrors⟩⟩

instance : Zero AnswerCounts := ⟨zero⟩

theorem add_eq (a b : AnswerCounts) :
    a + b = ⟨a.success + b.success, a.clientErrors + b.clientErrors, a.serverErrors + b.serverErrors⟩ :=
  rfl

instance : AddCommMonoid AnswerCounts where
  add_assoc a b c := by simp only [add_eq, Nat.add_assoc]
  zero_add a := by
    change zero + a = a
    simp only [add_eq, zero, Nat.zero_add]
  add_zero a := rfl
  add_comm a b := by simp only [add_eq, Nat.add_comm]
  nsmul := nsmulRec

/-- One answer of this kind. -/
def one : AnswerKind → AnswerCounts
  | .success => ⟨1, 0, 0⟩
  | .clientError => ⟨0, 1, 0⟩
  | .serverError => ⟨0, 0, 1⟩

theorem add_status (a : AnswerCounts) (status : Status) : a.add status = a + one status.kind := by
  unfold add Status.kind
  split
  · rfl
  · split <;> rfl

theorem sum_map_one {α : Type} (kind : α → AnswerKind) (jobs : List α) :
    (jobs.map fun job => one (kind job)).sum =
      ⟨jobs.countP (kind · = .success), jobs.countP (kind · = .clientError),
        jobs.countP (kind · = .serverError)⟩ := by
  induction jobs with
  | nil => rfl
  | cons job rest ih =>
    rw [List.map_cons, List.sum_cons, ih, add_comm, add_eq]
    cases here : kind job <;> simp [here, one]

/-- Every answer is of exactly one kind. -/
theorem countP_kinds {α : Type} (kind : α → AnswerKind) (jobs : List α) :
    jobs.countP (kind · = .success) + jobs.countP (kind · = .clientError) +
      jobs.countP (kind · = .serverError) = jobs.length := by
  induction jobs with
  | nil => rfl
  | cons job rest ih =>
    cases here : kind job <;> simp [here] <;> omega

end AnswerCounts

namespace LoadPlan

variable (o : LoadPlan)

/-! ### Who does what -/

theorem share_eq (w : Nat) :
    o.share w = o.requests / o.workers + if w < o.requests % o.workers then 1 else 0 := by
  unfold share
  split <;> rename_i early <;> simp [early]

/-- The shares of the first workers: a quotient each, and one more for those below the remainder. -/
theorem sum_shares (workers : Nat) :
    ((List.range workers).map o.share).sum =
      workers * (o.requests / o.workers) + min workers (o.requests % o.workers) := by
  induction workers with
  | zero => simp
  | succ n ih =>
    rw [List.range_succ, List.map_append, List.sum_append, ih, List.map_singleton, List.sum_singleton,
      share_eq, Nat.succ_mul]
    split <;> omega

theorem workers_pos : 0 < o.workers := Nat.lt_of_lt_of_le Nat.zero_lt_one (Nat.le_max_right ..)

theorem length_jobs : o.jobs.length = o.requests := by
  have each : (fun w => ((List.range (o.share w)).map fun i => (w, i)).length) = o.share := by
    funext w
    rw [List.length_map, List.length_range]
  rw [jobs, List.length_flatMap, each, sum_shares,
    Nat.min_eq_right (Nat.mod_lt _ o.workers_pos).le, Nat.div_add_mod]

theorem mem_jobs {w i : Nat} : (w, i) ∈ o.jobs ↔ w < o.workers ∧ i < o.share w := by
  simp [jobs]

theorem nodup_jobs : o.jobs.Nodup := by
  refine List.nodup_flatMap.mpr ⟨fun w _ => ?_, ?_⟩
  · exact List.nodup_range.map fun i j same => congrArg Prod.snd same
  · refine List.nodup_range.imp fun {v w} differ => ?_
    simp only [Function.onFun, List.disjoint_left, List.mem_map]
    rintro job ⟨i, -, rfl⟩ ⟨j, -, same⟩
    exact differ (congrArg Prod.fst same).symm

theorem getElem?_paths (paths : o.paths ≠ []) (w i : Nat) :
    o.paths[(w + i) % o.paths.length]? = some (o.path w i) := by
  have inside : (w + i) % o.paths.length < o.paths.length :=
    Nat.mod_lt _ (List.length_pos_iff.mpr paths)
  rw [path, List.getD_eq_getElem?_getD, List.getElem?_eq_getElem inside, Option.getD_some]

/-! ### One request -/

/-- The request of a job, if its path can be read. -/
def request? (job : Nat × Nat) : Option Request :=
  (Target.parse? (o.path job.1 job.2)).map fun target => ⟨o.method, target, [], []⟩

/-- How a job is counted where requests get answers with these statuses. -/
def kind (status : Request → Status) (job : Nat × Nat) : AnswerKind :=
  match o.request? job with
  | none => .clientError
  | some request => (status request).kind

/-- Whatever happened before, the service answers each request, and with a status that depends on nothing
but the request. -/
def AnswersBy (depth : Nat) (s : Service) (status : Request → Status) : Prop :=
  ∀ request e, ∃ answer, (s.serve (.upTo depth) request e).1 = .answer answer ∧
    answer.status = status request

variable {o} {depth : Nat} {s : Service} {status : Request → Status}

/-- It is enough that no chain panics and that what each leaves to the standard error handler foretells
the status. -/
theorem answersBy_of_chains (hook : s.hook = none) (standard : s.errorHandler = .standard)
    (chains : ∀ request id e, ∃ result : HandlerResult,
      let bound := s.binding request id
      let run := bound.1.run (.upTo depth) bound.2 e
      run.1 = result.toOutcome ∧ run.2.1.finalStatus result = status request) :
    AnswersBy depth s status := by
  intro request e
  have bound : s.binding request (e.ids e.issued) = (_, _) := Prod.mk.eta.symm
  have reply := s.reply_of_standard standard (.upTo depth) bound
  obtain ⟨result, ended, foretold⟩ := chains request (e.ids e.issued)
    (e.beginning (Service.dispatchEvent (s.binding request (e.ids e.issued)).2))
  dsimp only at reply ended foretold
  rw [ended] at reply
  obtain ⟨answer, shown, met⟩ := standardReply_status result _
  refine ⟨answer, ?_, met.trans foretold⟩
  rw [Service.serve, hook]
  exact reply.trans shown

theorem runJob_answered (answers : AnswersBy depth s status) (job : Nat × Nat)
    (counts : AnswerCounts) (e : Engine) :
    o.runJob depth s job (counts, e) =
      some (counts + .one (o.kind status job), (s.serveAll depth (o.request? job).toList e).2) := by
  have built : Request.build o.method.name (o.path job.1 job.2) [] [] =
      (o.request? job).elim (.error .target) .ok := by
    rw [Request.build, o.method.ofString?_name, request?]
    cases Target.parse? (o.path job.1 job.2) <;> rfl
  rw [runJob, built, kind]
  cases o.request? job with
  | none => rfl
  | some request =>
    obtain ⟨answer, shown, served⟩ := answers request e
    have ended : s.serve (.upTo depth) request e =
        (.answer answer, (s.serve (.upTo depth) request e).2) := Prod.ext shown rfl
    simp only [Option.elim, Option.toList_some, Service.serveAll]
    rw [ended, ← served, ← AnswerCounts.add_status]

end LoadPlan

/-! ### Workers taking turns -/

/-- Workers in the middle of a run: how many requests each of them has done and what it counted, and the
engine that they share. -/
structure LoadState where
  done : Nat → Nat
  counts : Nat → AnswerCounts
  engine : Engine

def LoadState.start (e : Engine) : LoadState := ⟨fun _ => 0, fun _ => .zero, e⟩

/-- What each worker has counted is the answers to the requests it has done. -/
def LoadState.Tallied (o : LoadPlan) (status : Request → Status) (state : LoadState) : Prop :=
  ∀ w, state.counts w =
    ((List.range (state.done w)).map fun i => AnswerCounts.one (o.kind status (w, i))).sum

namespace LoadPlan

/-- A worker does its next request. -/
def turn (o : LoadPlan) (depth : Nat) (s : Service) (state : LoadState) (w : Nat) : Option LoadState :=
  (o.runJob depth s (w, state.done w) (state.counts w, state.engine)).map fun (counts, engine) =>
    ⟨Function.update state.done w (state.done w + 1), Function.update state.counts w counts, engine⟩

/-- Workers take turns in this order. -/
def takeTurns (o : LoadPlan) (depth : Nat) (s : Service) (order : List Nat) (state : LoadState) :
    Option LoadState :=
  order.foldlM (o.turn depth s) state

/-- Every worker has as many turns as its share demands, and nobody else has any. -/
def Shares (o : LoadPlan) (order : List Nat) : Prop :=
  ∀ w, order.count w = if w < o.workers then o.share w else 0

/-- The jobs done when workers take turns in this order, some having been done before. -/
def performed (done : Nat → Nat) : List Nat → List (Nat × Nat)
  | [] => []
  | w :: rest => (w, done w) :: performed (Function.update done w (done w + 1)) rest

variable {o : LoadPlan} {depth : Nat} {s : Service} {status : Request → Status} {state : LoadState}

theorem count_performed (done : Nat → Nat) (order : List Nat) (w i : Nat) :
    (performed done order).count (w, i) =
      if done w ≤ i ∧ i < done w + order.count w then 1 else 0 := by
  induction order generalizing done with
  | nil => simp [performed]
  | cons v rest ih =>
    rw [performed, List.count_cons, ih, List.count_cons]
    by_cases same : v = w
    · subst same
      simp only [Function.update_self, beq_self_eq_true, if_true, Prod.mk.injEq, beq_iff_eq, true_and]
      split_ifs <;> omega
    · simp [same, Function.update_of_ne (Ne.symm same)]

/-- When every worker has had its share, exactly the jobs of the plan have been done. -/
theorem performed_perm {order : List Nat} (shares : o.Shares order) :
    (performed (fun _ => 0) order).Perm o.jobs := by
  refine List.perm_iff_count.mpr fun (w, i) => ?_
  rw [count_performed, shares w, o.nodup_jobs.count]
  by_cases worker : w < o.workers
  · simp [worker, o.mem_jobs]
  · simp [worker, o.mem_jobs]

/-- A turn moves one worker on and counts its answer. -/
theorem turn_answered (answers : AnswersBy depth s status) (state : LoadState) (w : Nat) :
    o.turn depth s state w = some
      ⟨Function.update state.done w (state.done w + 1),
        Function.update state.counts w (state.counts w + .one (o.kind status (w, state.done w))),
        (s.serveAll depth (o.request? (w, state.done w)).toList state.engine).2⟩ := by
  rw [turn, runJob_answered answers]
  rfl

theorem turn_tallied (answers : AnswersBy depth s status) (tallied : state.Tallied o status) {w : Nat}
    {next : LoadState} (moved : o.turn depth s state w = some next) : next.Tallied o status := by
  rw [turn_answered answers] at moved
  obtain rfl := Option.some.inj moved
  intro v
  by_cases same : v = w
  · subst same
    simp only [Function.update_self]
    rw [tallied v, List.range_succ, List.map_append, List.sum_append, List.map_singleton,
      List.sum_singleton]
  · simp only [Function.update_of_ne same]
    exact tallied v

/-- Turns in any order are all answered; they leave the counts in keeping with what was done, and the
engine as it is after the requests in that order. -/
theorem takeTurns_answered (answers : AnswersBy depth s status) (order : List Nat)
    (tallied : state.Tallied o status) :
    ∃ last, o.takeTurns depth s order state = some last ∧ last.Tallied o status ∧
      (∀ w, last.done w = state.done w + order.count w) ∧
      last.engine =
        (s.serveAll depth ((performed state.done order).filterMap o.request?) state.engine).2 := by
  induction order generalizing state with
  | nil => exact ⟨state, rfl, tallied, fun _ => rfl, rfl⟩
  | cons w rest ih =>
    have moved := turn_answered (o := o) answers state w
    obtain ⟨last, ran, done, each, engine⟩ := ih (turn_tallied answers tallied moved)
    refine ⟨last, ?_, done, fun v => ?_, ?_⟩
    · rw [takeTurns, List.foldlM_cons, moved]
      exact ran
    · rw [each, List.count_cons]
      by_cases same : v = w
      · subst same
        simp only [Function.update_self, beq_self_eq_true, if_true]
        omega
      · simp [Function.update_of_ne same, Ne.symm same]
    · rw [engine, performed, List.filterMap_cons]
      cases o.request? (w, state.done w) <;> rfl

/-- Jobs done one after the other are all answered and all counted. -/
theorem runJobs_answered (answers : AnswersBy depth s status) (jobs : List (Nat × Nat))
    (counts : AnswerCounts) (e : Engine) :
    o.runJobs depth s jobs (counts, e) =
      some (counts + (jobs.map fun job => .one (o.kind status job)).sum,
        (s.serveAll depth (jobs.filterMap o.request?) e).2) := by
  induction jobs generalizing counts e with
  | nil => rfl
  | cons job rest ih =>
    have first : o.runJobs depth s (job :: rest) (counts, e) =
        (o.runJob depth s job (counts, e)).bind (o.runJobs depth s rest) := rfl
    rw [first, runJob_answered answers, Option.bind_some, ih, List.map_cons, List.sum_cons, add_assoc,
      List.filterMap_cons]
    cases o.request? job <;> rfl

/-- All that the workers have counted in the end. -/
theorem sum_counts {last : LoadState} (tallied : last.Tallied o status)
    (done : ∀ w < o.workers, last.done w = o.share w) :
    ((List.range o.workers).map last.counts).sum =
      (o.jobs.map fun job => AnswerCounts.one (o.kind status job)).sum := by
  rw [jobs, List.map_flatMap, List.flatMap_def, List.sum_flatten, List.map_map]
  refine congrArg List.sum (List.map_congr_left fun w worker => ?_)
  rw [Function.comp_apply, tallied w, done w (List.mem_range.mp worker), List.map_map]
  rfl

/-- Where the status of an answer depends on nothing but the request, a load run sends each worker's share
of requests, each for the path that is next in the worker's rotation, and the counts are the numbers of
requests answered with a status of each kind, in whatever order the workers take their turns.  A path that
cannot be read counts as an error of the client and is not served. -/
theorem runs_settle (o : LoadPlan) (paths : o.paths ≠ []) {depth : Nat} {s : Service}
    {status : Request → Status} (answers : AnswersBy depth s status) :
    let workers := max o.concurrency 1
    let count (kind : AnswerKind) : Nat := o.jobs.countP fun job => o.kind status job = kind
    let counts : AnswerCounts := ⟨count .success, count .clientError, count .serverError⟩
    (o.jobs.Nodup ∧ o.jobs.length = o.requests ∧
      ∀ w i, (w, i) ∈ o.jobs ↔
        w < workers ∧ i < o.requests / workers + if w < o.requests % workers then 1 else 0) ∧
    (∀ w i, o.paths[(w + i) % o.paths.length]? = some (o.path w i)) ∧
    counts.success + counts.clientErrors + counts.serverErrors = o.requests ∧
    (∀ order, o.Shares order → ∀ e, ∃ last, o.takeTurns depth s order (.start e) = some last ∧
      (performed (fun _ => 0) order).Perm o.jobs ∧
      ((List.range workers).map last.counts).sum = counts ∧
      last.engine =
        (s.serveAll depth ((performed (fun _ => 0) order).filterMap o.request?) e).2) ∧
    ∀ counters e,
      let after := (s.serveAll depth (o.jobs.filterMap o.request?) (e.log o.startedEvent)).2
      o.runWithin depth s counters e =
        (.ok ⟨o.requests, workers, counts, after.pool.usage, after.counters counters⟩, after) := by
  intro workers count counts
  have total : (o.jobs.map fun job => AnswerCounts.one (o.kind status job)).sum = counts :=
    AnswerCounts.sum_map_one ..
  refine ⟨⟨o.nodup_jobs, o.length_jobs, fun w i => ?_⟩, o.getElem?_paths paths,
    (AnswerCounts.countP_kinds ..).trans o.length_jobs, fun order shares e => ?_, fun counters e => ?_⟩
  · rw [o.mem_jobs, share_eq]
    rfl
  · have fresh : (LoadState.start e).Tallied o status := fun _ => rfl
    obtain ⟨last, ran, tallied, done, engine⟩ := takeTurns_answered answers order fresh
    refine ⟨last, ran, performed_perm shares, ?_, engine⟩
    refine (sum_counts tallied fun w worker => ?_).trans total
    rw [done, shares w, if_pos worker]
    exact Nat.zero_add _
  · intro after
    rw [runWithin, if_neg (mt List.isEmpty_iff.mp paths)]
    dsimp only
    rw [runJobs_answered answers, total]
    refine Prod.ext (congrArg Except.ok ?_) rfl
    exact congrArg (LoadOutcome.mk _ _ · _ _) (zero_add counts)

/-- Seven requests of three workers for a path that is up, one that is down and one that cannot be read. -/
theorem runs_settle_rotating :
    let shown (path : String) : Status :=
      if path = "/up" then .ok else if path = "/down" then .internalServerError else .notFound
    let site : Handler := .context "site" fun c =>
      .done .ok { c with response := c.response.commitStatus (shown c.path) }
    let d := { Dispatcher.create .standard with notFound := site }
    let s := d.build
    let status (request : Request) : Status := shown (Routing.normalize request.target.path)
    let plan : LoadPlan := ⟨7, 3, .get, ["/up", "a b", "/down", "/none"], 4096⟩
    let order := [2, 0, 1, 0, 2, 0, 1]
    let e := Engine.create (.empty 1) Ulid.ofNat
    plan.paths ≠ [] ∧ AnswersBy 0 s status ∧ plan.Shares order ∧
      ∃ last, plan.takeTurns 0 s order (.start e) = some last ∧
        last.counts 0 + last.counts 1 + last.counts 2 = ⟨1, 3, 3⟩ := by
  intro shown site d s status plan order e
  have answers : AnswersBy 0 s status := by
    refine answersBy_of_chains rfl rfl fun request id e => ⟨.ok, ?_⟩
    have missing : s.decision request = .notFound :=
      (Dispatcher.lookup_resolves (d := d) Routing.Router.empty_records request).notFound_iff.mpr nofun
    have bound := s.binding_eq request id
    rw [missing] at bound
    rw [bound]
    refine ⟨rfl, ?_⟩
    clear_value shown
    rfl
  have shares : plan.Shares order := by
    have working : ∀ w < 3, order.count w = plan.share w := by decide +kernel
    have idle : ∀ w ∈ order, w < 3 := by decide
    intro w
    by_cases worker : w < 3
    · rw [working w worker, if_pos (show w < plan.workers from worker)]
    · rw [if_neg (show ¬ w < plan.workers from worker), List.count_eq_zero]
      exact fun mem => worker (idle w mem)
  refine ⟨by decide, answers, shares, ?_⟩
  obtain ⟨-, -, -, ran, -⟩ := runs_settle plan (by decide) answers
  obtain ⟨last, took, -, total, -⟩ := ran _ shares e
  have kinds : plan.jobs.map (plan.kind status) = [.success, .clientError, .serverError, .clientError,
      .serverError, .serverError, .clientError] := by decide +kernel
  have counted (kind : AnswerKind) : plan.jobs.countP (plan.kind status · = kind) =
      (plan.jobs.map (plan.kind status)).countP (· = kind) := by
    rw [List.countP_map]
    rfl
  refine ⟨last, took, ?_⟩
  have three : List.range (max plan.concurrency 1) = [0, 1, 2] := by decide
  simp only [counted, kinds, three, List.map_cons, List.map_nil, List.sum_cons, List.sum_nil, add_zero]
    at total
  rw [add_assoc, total]
  rfl

end LoadPlan

end RequestDispatch
