import RequestDispatch.Setup.Registration

/-!
# Updates of a live service

A change of a live service takes effect as a whole or not at all.  After any sequence of updates the
setup is the initial dispatcher with the successful changes applied one after another, the service is
its build, and the version is their number (`Engine.updates_apply_successes`).
-/

namespace RequestDispatch

/-- A change of a dispatcher, with a result of any type. -/
abbrev Change := (α : Type) × Setup α

/-- The dispatcher after a change, or the error with which the change fails. -/
def Dispatcher.apply (d : Dispatcher) (change : Change) : Except SetupError Dispatcher :=
  match Setup.on d change.2 with
  | (.ok _, d', _) => .ok d'
  | (.error error, _, _) => .error error

/-- The dispatcher after several changes, all of which succeed. -/
def Dispatcher.applyAll (d : Dispatcher) (changes : List Change) : Except SetupError Dispatcher :=
  changes.foldlM Dispatcher.apply d

namespace UpdateReply

def isApplied : UpdateReply → Bool
  | .applied .. => true
  | _ => false

end UpdateReply

/-- The changes whose update was answered with success, in order. -/
def successes (changes : List Change) (replies : List UpdateReply) : List Change :=
  ((changes.zip replies).filter (·.2.isApplied)).map (·.1)

theorem successes_cons_failed {reply : UpdateReply} (failed : reply.isApplied = false)
    (change : Change) (changes : List Change) (replies : List UpdateReply) :
    successes (change :: changes) (reply :: replies) = successes changes replies := by
  rw [successes, List.zip_cons_cons, List.filter_cons_of_neg (by simp [failed])]
  rfl

theorem successes_cons_applied {reply : UpdateReply} (applied : reply.isApplied = true)
    (change : Change) (changes : List Change) (replies : List UpdateReply) :
    successes (change :: changes) (reply :: replies) = change :: successes changes replies := by
  rw [successes, List.zip_cons_cons, List.filter_cons_of_pos (by simp [applied])]
  rfl

namespace Engine

/-- Updates a live service by each change in order; the replies and the engine after the last. -/
def updates (e : Engine) (name : String) : List Change → List UpdateReply × Engine
  | [] => ([], e)
  | change :: rest =>
    let (reply, e) := e.update name change.2
    let (replies, e) := e.updates name rest
    (reply :: replies, e)

theorem logAll_eq (e : Engine) (events : List Event) :
    ∃ records, e.logAll events = { e with records := records } := by
  induction events generalizing e with
  | nil => exact ⟨e.records, rfl⟩
  | cons event rest ih => exact ih (e.log event)

/-- An update reports, builds and stores the live service: it respects what these respect. -/
theorem update_keeps (keeps : Engine → Engine → Prop) (refl : ∀ e, keeps e e)
    (trans : ∀ {before between after}, keeps before between → keeps between after → keeps before after)
    (log : ∀ e event, keeps e (e.log event)) (build : ∀ e d, keeps e (e.build d).2) {name : String}
    (setLive : ∀ e live, keeps e (e.setLive name live)) {α : Type} (change : Setup α) (e : Engine) :
    keeps e (e.update name change).2 := by
  have logAll (events : List Event) (e : Engine) : keeps e (e.logAll events) := by
    induction events generalizing e with
    | nil => exact refl e
    | cons event rest ih => exact trans (log e event) (ih _)
  rw [update]
  cases e.live? name with
  | none => exact refl e
  | some live =>
    dsimp only
    rcases Setup.on live.setup change with ⟨result, d, events⟩
    cases result with
    | error reason => exact trans (logAll events e) (log _ _)
    | ok value =>
      have built := trans (logAll events e) (build _ d)
      exact trans (trans built (setLive _ _)) (log _ _)

theorem live?_setLive (e : Engine) (name : String) (live : Live) :
    (e.setLive name live).live? name = some live := by
  rw [live?, setLive, List.lookup_cons_self]

theorem live?_goLive (e : Engine) (name : String) (d : Dispatcher) :
    (e.goLive name d).live? name = some ⟨d, d.build, 0⟩ :=
  live?_setLive ..

variable {e : Engine} {name : String} {live : Live} {change : Change}

/-- A change that fails leaves everything but the log as it was. -/
theorem update_of_error {error : SetupError} (known : e.live? name = some live)
    (failed : live.setup.apply change = .error error) :
    ∃ records, e.update name change.2 =
      (.failed error live.version, { e with records := records }) := by
  rw [Dispatcher.apply] at failed
  rw [update, known]
  rcases ran : Setup.on live.setup change.2 with ⟨result, d, events⟩
  rw [ran] at failed
  obtain ⟨records, logged⟩ := e.logAll_eq events
  cases result with
  | ok value => cases failed
  | error reason =>
    obtain rfl : reason = error := Except.error.inj failed
    simp only [ran, logged]
    exact ⟨_, rfl⟩

/-- A change that succeeds is reported, built and stored. -/
theorem update_leaves {d : Dispatcher} (known : e.live? name = some live)
    (succeeded : live.setup.apply change = .ok d) :
    ∃ records event, e.update name change.2 =
      (.applied d.router.routes.length (live.version + 1),
        ((build { e with records := records } d).2.setLive name
          ⟨d, d.build, live.version + 1⟩).log event) := by
  rw [Dispatcher.apply] at succeeded
  rw [update, known]
  rcases ran : Setup.on live.setup change.2 with ⟨result, left, events⟩
  rw [ran] at succeeded
  obtain ⟨records, logged⟩ := e.logAll_eq events
  cases result with
  | error reason => cases succeeded
  | ok value =>
    obtain rfl : left = d := Except.ok.inj succeeded
    simp only [ran, logged]
    exact ⟨_, _, rfl⟩

/-- A change that succeeds is published as a new build. -/
theorem update_of_ok {d : Dispatcher} (known : e.live? name = some live)
    (succeeded : live.setup.apply change = .ok d) :
    (e.update name change.2).1 = .applied d.router.routes.length (live.version + 1) ∧
      (e.update name change.2).2.live? name = some ⟨d, d.build, live.version + 1⟩ := by
  obtain ⟨records, event, left⟩ := update_leaves known succeeded
  rw [left]
  exact ⟨rfl, live?_setLive ..⟩

/-- By induction on the changes, with the version counted from any start. -/
theorem updates_of_live {d : Dispatcher} {version : Nat}
    (known : e.live? name = some ⟨d, d.build, version⟩) (changes : List Change) :
    let run := e.updates name changes
    let applied := successes changes run.1
    ∃ setup, d.applyAll applied = .ok setup ∧
      run.2.live? name = some ⟨setup, setup.build, version + applied.length⟩ := by
  induction changes generalizing e d version with
  | nil => exact ⟨d, rfl, known⟩
  | cons change rest ih =>
    intro run applied
    cases changed : d.apply change with
    | error error =>
      obtain ⟨records, failed⟩ := update_of_error known changed
      have same : { e with records := records }.live? name = some ⟨d, d.build, version⟩ := known
      have skipped : applied = successes rest (updates { e with records := records } name rest).1 := by
        simp only [applied, run, updates, failed]
        exact successes_cons_failed rfl ..
      have left : run.2 = (updates { e with records := records } name rest).2 := by
        simp only [run, updates, failed]
      rw [skipped, left]
      exact ih same
    | ok d' =>
      obtain ⟨reply, published⟩ := update_of_ok known changed
      obtain ⟨setup, further, reached⟩ := ih published
      have taken : applied =
          change :: successes rest (updates (e.update name change.2).2 name rest).1 := by
        simp only [applied, run, updates, reply]
        exact successes_cons_applied rfl ..
      refine ⟨setup, ?_, ?_⟩
      · rw [taken, Dispatcher.applyAll, List.foldlM_cons, changed]
        exact further
      · rw [taken, List.length_cons, Nat.add_comm _ 1, ← Nat.add_assoc]
        exact reached

/-- After any updates of a live service its setup is the initial dispatcher with exactly the successful
changes applied in order, what it serves is the build of that setup, and its version is their number.
One more update either applies as a whole or returns the error of its change and leaves all but the log
as it was. -/
theorem updates_apply_successes (e : Engine) (name : String) (d : Dispatcher)
    (changes : List Change) :
    let run := (e.goLive name d).updates name changes
    let applied := successes changes run.1
    ∃ setup, d.applyAll applied = .ok setup ∧
      run.2.live? name = some ⟨setup, setup.build, applied.length⟩ ∧
      ∀ change : Change,
        let next := run.2.update name change.2
        match setup.apply change with
        | .ok setup' =>
          next.1 = .applied setup'.router.routes.length (applied.length + 1) ∧
            next.2.live? name = some ⟨setup', setup'.build, applied.length + 1⟩
        | .error error =>
          next.1 = .failed error applied.length ∧
            ∃ records, next.2 = { run.2 with records := records } := by
  intro run applied
  obtain ⟨setup, changed, known⟩ := updates_of_live (e.live?_goLive name d) changes
  rw [Nat.zero_add] at known
  refine ⟨setup, changed, known, fun change => ?_⟩
  intro next
  cases result : setup.apply change with
  | ok setup' => exact update_of_ok known result
  | error error =>
    obtain ⟨records, failed⟩ := update_of_error known result
    exact ⟨congrArg Prod.fst failed, records, congrArg Prod.snd failed⟩

/-- A route that was registered before its change gave up is gone, the one of the next change is there. -/
example :
    let changes : List Change :=
      [⟨Unit, Registration.change [.route [.get] "/a" .echo, .refuse "late"]⟩,
        ⟨Unit, Registration.change [.route [.get] "/b" .echo]⟩]
    let live := (create (.empty 0) fun _ => .nil).goLive "main" (.create .standard)
    (live.updates "main" changes).1 = [.failed (.refused "late") 0, .applied 1 1] := by
  rfl

end Engine
end RequestDispatch
