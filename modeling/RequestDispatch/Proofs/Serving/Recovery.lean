import RequestDispatch.Proofs.Script.Conduct
import RequestDispatch.Proofs.Serving.StandardAnswers

/-!
# Recovering from panics

With `recover` as its outermost middleware a service answers every request, whatever panics inside
(`Dispatcher.recover_answers`).  It does not matter what ran before the panic: only the context that it
left decides the answer.
-/

namespace RequestDispatch

variable {nested : Nested} {next : Stage}

/-- The failure that takes the place of a panic. -/
def Failure.recovered : Failure := .of (.http (.ofStatus .internalServerError))

/-- How a chain ends around which panics are recovered. -/
def Outcome.recovered : Outcome → Outcome
  | .panic _ => .error .recovered
  | outcome => outcome

/-- Panics are recovered on the context that they left; all else is as it was. -/
theorem Middleware.recover_around (nested : Nested) (next : Stage) (c : Context) (e : Engine) :
    let run := next c e
    ∃ after, recover.around nested next c e = (run.1.recovered, run.2.1, after) := by
  dsimp only
  simp only [around, recover, Program.run, Program.execute]
  rcases next c e with ⟨outcome, c', e'⟩
  cases outcome <;> exact ⟨_, rfl⟩

theorem Chain.run_recover (nested : Nested) (chain : Chain) :
    (chain.inside [.recover]).run nested = Middleware.recover.around nested (chain.run nested) :=
  rfl

/-- The text that stands for all failures whose own text is not shown. -/
theorem ErrorHandler.body_internalServerError :
    body Status.internalServerError.reason =
      Utf8.ofString "\x7b\"error\":\"Internal Server Error\"\x7d" := by
  decide +kernel

theorem ErrorHandler.verdict_recovered (debug : Bool) :
    verdict .recovered debug = (.internalServerError, Status.internalServerError.reason) := rfl

namespace Service

/-- Without a hook every request is handled. -/
theorem serve_of_no_hook {s : Service} (hook : s.hook = none) (nested : Nested) (request : Request)
    (e : Engine) : s.serve nested request e = s.handle nested request e := by
  simp only [serve, hook]

end Service

namespace Dispatcher

/-- Every request to a service that recovers from panics is answered, and its context goes back to the
pool.  After a panic the answer is what had been committed, or else status 500 with a fixed body and the
headers set so far; without one it is that of the service without `recover`.  Inside, the context may even
be bound to another request. -/
theorem recover_answers (d : Dispatcher) (hook : d.hook = none)
    (standard : d.errorHandler = .standard) (inner : d.build.Obeys .sound) (nested : Nested)
    (request : Request) (e : Engine) :
    let s := (d.inside [.recover]).build
    let bound := d.build.binding request (e.ids e.issued)
    let run := bound.1.run nested bound.2 (e.beginning (Service.dispatchEvent bound.2))
    let written := run.2.1.response
    (∃ answer, (s.serve nested request e).1 = .answer answer ∧
      match run.1 with
      | .panic _ =>
        if written.committed then answer = ⟨written.status, written.headers, written.body⟩
        else answer = ⟨.internalServerError, written.headers.insert .contentType Context.jsonType,
          Utf8.ofString "\x7b\"error\":\"Internal Server Error\"\x7d"⟩
      | _ => (d.build.serve nested request e).1 = .answer answer) ∧
    Service.Leased nested e.pool (s.serve nested request e).2.pool := by
  have sound := inner.bound nested request (e.ids e.issued)
    (e.beginning (Service.dispatchEvent (d.build.binding request (e.ids e.issued)).2))
    (d.build.binding_sound request (e.ids e.issued))
  rcases found : d.build.binding request (e.ids e.issued) with ⟨chain, c⟩
  rw [found] at sound
  intro s bound run written
  have alone : (d.build.serve nested request e).1 = standardReply run.1 run.2.1 := by
    rw [Service.serve_of_no_hook hook]
    exact Service.reply_of_standard standard nested found
  have inside : (s.serve nested request e).1 = standardReply run.1.recovered run.2.1 := by
    have found' := d.binding_inside [.recover] request (e.ids e.issued)
    rw [found] at found'
    obtain ⟨after, recovered⟩ := Middleware.recover_around nested (chain.run nested) c
      (e.beginning (Service.dispatchEvent c))
    rw [Service.serve_of_no_hook hook]
    refine (Service.reply_of_standard standard nested found').trans ?_
    dsimp only
    rw [Chain.run_recover, recovered]
  refine ⟨?_, ?_⟩
  · rw [inside, alone]
    change written.Sound at sound
    cases run.1 with
    | ok => exact ⟨_, rfl, rfl⟩
    | error f => exact ⟨_, rfl, rfl⟩
    | panic p =>
      refine ⟨_, rfl, ?_⟩
      dsimp only
      split
      · rename_i committed
        rw [ErrorHandler.answered, if_pos committed]
        rfl
      · rename_i uncommitted
        rw [ErrorHandler.answered_take sound (Bool.eq_false_iff.mpr uncommitted),
          ErrorHandler.verdict_recovered, ErrorHandler.body_internalServerError]
  · rw [Service.serve_of_no_hook hook]
    exact s.handle_leased nested request e

theorem obeys_inside {conduct : Conduct} {d : Dispatcher} {outer : List Middleware}
    (obeys : d.build.Obeys conduct) (more : ∀ m ∈ outer, m.Obeys conduct) :
    (d.inside outer).build.Obeys conduct where
  find c := by
    rw [find_inside]
    exact ⟨List.forall_mem_append.mpr ⟨more, (obeys.find c).layers⟩, (obeys.find c).handler⟩
  errorHandler := obeys.errorHandler

/-- A panic after a header was set, and one after a text was sent, inside middleware that binds the
context to another request. -/
theorem recover_answers_scripts :
    let rebind : Middleware := .wrap "rebind" fun c =>
      .next (c.reset ⟨.get, ⟨"/other", none⟩, [], []⟩ c.debug c.requestId) fun result c =>
        .done result.toOutcome c
    let d := (scripted [.respond (.header "x-a" "1"), .panic "boom"]
      [.text .ok "sent", .panic "boom"]).inside [rebind]
    let e := Engine.create (.empty 1) Ulid.ofNat
    let serve (path : String) : Reply × Engine :=
      (d.inside [.recover]).build.serve (.upTo 0) ⟨.get, ⟨path, none⟩, [], []⟩ e
    d.hook = none ∧ d.errorHandler = .standard ∧ d.build.Obeys .sound ∧
      (serve "/inner").1 = .answer
        ⟨.internalServerError, [(⟨"x-a"⟩, ⟨"1"⟩), (.contentType, Context.jsonType)],
          Utf8.ofString "\x7b\"error\":\"Internal Server Error\"\x7d"⟩ ∧
      (serve "/outer").1 = .answer
        ⟨.ok, [(.contentType, Context.textType)], Utf8.ofString "sent"⟩ ∧
      ∀ path, Service.Leased (.upTo 0) e.pool (serve path).2.pool := by
  intro rebind d e serve
  have rebinds : rebind.Obeys .sound := fun c =>
    .next (fun _ => Response.fresh_sound) fun _ _ led => .done _ led
  have sound : d.build.Obeys .sound :=
    obeys_inside (scripted_obeys _ _) (List.forall_mem_singleton.mpr rebinds)
  refine ⟨rfl, rfl, sound, by decide +kernel, by decide +kernel, fun path => ?_⟩
  dsimp only [serve]
  exact (recover_answers d rfl rfl sound (.upTo 0) ⟨.get, ⟨path, none⟩, [], []⟩ e).2

end Dispatcher

end RequestDispatch
