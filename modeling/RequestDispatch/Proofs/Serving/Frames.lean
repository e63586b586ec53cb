import RequestDispatch.Setup.Registration

/-!
# What serving a request keeps

Programs, middleware, chains and services reach the engine through reports, through what comes next
and through nested calls only.  A relation between the engine before and the engine after that those
respect is therefore respected by every chain: the lemmas below lift it from programs to services.
-/

namespace RequestDispatch

/-- Induction over the steps of a program. -/
@[induction_eliminator]
theorem Program.induction {motive : Program → Prop}
    (done : ∀ outcome c, motive (.done outcome c))
    (emit : ∀ effect rest, motive rest → motive (.emit effect rest))
    (next : ∀ c resume, (∀ result c, motive (resume result c)) → motive (.next c resume))
    (attempt : ∀ c resume, (∀ outcome c, motive (resume outcome c)) → motive (.attempt c resume))
    (serve : ∀ live request c resume, (∀ reply, motive (resume reply)) →
      motive (.serve live request c resume))
    (update : ∀ live change resume, (∀ reply, motive (resume reply)) →
      motive (.update live change resume)) : ∀ program, motive program
  | .done outcome c => done outcome c
  | .emit effect rest =>
    emit effect rest (induction done emit next attempt serve update rest)
  | .next c resume =>
    next c resume fun result c => induction done emit next attempt serve update (resume result c)
  | .attempt c resume =>
    attempt c resume fun outcome c =>
      induction done emit next attempt serve update (resume outcome c)
  | .serve live request c resume =>
    serve live request c resume fun reply =>
      induction done emit next attempt serve update (resume reply)
  | .update live change resume =>
    update live change resume fun reply =>
      induction done emit next attempt serve update (resume reply)
termination_by structural program => program

/-- Runs a program and, if it succeeds, what comes next. -/
def Program.guard (nested : Nested) (program : Program) (next : Stage) (e : Engine) :
    Outcome × Context × Engine :=
  match program.run nested .finish e with
  | (.ok, c, e) => next c e
  | stopped => stopped

namespace Middleware

theorem around_exchange (nested : Nested) (name : String) (run : Request → Response → Exchange)
    (next : Stage) (c : Context) :
    (exchange name run).around nested next c =
      if c.response.committed then next c else (Exchange.toProgram run c).guard nested next := by
  funext e
  rw [around]
  split <;> rfl

end Middleware

/-- A relation between an engine before and an engine after that composes and that neither reports nor
the end of spans can break. -/
structure Engine.Frame (keeps : Engine → Engine → Prop) : Prop where
  refl : ∀ e, keeps e e
  trans : ∀ {before between after}, keeps before between → keeps between after → keeps before after
  perform : ∀ e effect, keeps e (e.perform effect)
  spans : ∀ e spans, keeps e { e with spans := spans }

/-- Nested calls respect a relation between engines. -/
structure Nested.Keeps (nested : Nested) (keeps : Engine → Engine → Prop) : Prop where
  serve : ∀ live request e, keeps e (nested.serve live request e).2
  update : ∀ live change e, keeps e (nested.update live change e).2

/-- A stage respects a relation between engines. -/
def Stage.Keeps (stage : Stage) (keeps : Engine → Engine → Prop) : Prop :=
  ∀ c e, keeps e (stage c e).2.2

namespace Engine.Frame

variable {keeps : Engine → Engine → Prop} {nested : Nested} {next : Stage}

theorem finish (frame : Frame keeps) : Stage.finish.Keeps keeps := fun _ e => frame.refl e

/-- By induction on the program; every step composes the relation once. -/
theorem execute (frame : Frame keeps) (calls : nested.Keeps keeps) (rest : next.Keeps keeps)
    (program : Program) (e : Engine) : keeps e (program.execute nested next e).2.2 := by
  induction program generalizing e with
  | done outcome c => exact frame.refl e
  | emit effect program ih => exact frame.trans (frame.perform e effect) (ih _)
  | next c resume ih =>
    have reached := rest c e
    rw [Program.execute]
    split
    · rename_i c' e' eq
      rw [eq] at reached
      exact frame.trans reached (ih .ok c' e')
    · rename_i f c' e' eq
      rw [eq] at reached
      exact frame.trans reached (ih (.error f) c' e')
    · rename_i p c' e' eq
      rwa [eq] at reached
  | attempt c resume ih => exact frame.trans (rest c e) (ih _ _ _)
  | serve live request c resume ih =>
    have reached := calls.serve live request e
    rw [Program.execute]
    split
    · rename_i p e' eq
      rwa [eq] at reached
    · rename_i reply e' _ eq
      rw [eq] at reached
      exact frame.trans reached (ih reply e')
  | update live change resume ih =>
    exact frame.trans (calls.update live change e) (ih _ _)

theorem run (frame : Frame keeps) (calls : nested.Keeps keeps) (rest : next.Keeps keeps)
    (program : Program) (e : Engine) : keeps e (program.run nested next e).2.2 :=
  frame.trans (frame.execute calls rest program e) (frame.spans _ e.spans)

theorem guard (frame : Frame keeps) (calls : nested.Keeps keeps) (rest : next.Keeps keeps)
    (program : Program) (e : Engine) : keeps e (program.guard nested next e).2.2 := by
  have reached := frame.run calls frame.finish program e
  rw [Program.guard]
  split
  · rename_i c' e' eq
    rw [eq] at reached
    exact frame.trans reached (rest c' e')
  · exact reached

theorem around (frame : Frame keeps) (calls : nested.Keeps keeps) (rest : next.Keeps keeps)
    (m : Middleware) : (m.around nested next).Keeps keeps := by
  intro c e
  cases m with
  | wrap name run => exact frame.run calls rest (run c) e
  | before name run => exact frame.guard calls rest (run c) e
  | exchange name run =>
    rw [Middleware.around_exchange]
    split
    · exact rest c e
    · exact frame.guard calls rest (Exchange.toProgram run c) e

theorem chain (frame : Frame keeps) (calls : nested.Keeps keeps) (chain : Chain) :
    (chain.run nested).Keeps keeps := by
  obtain ⟨layers, handler⟩ := chain
  induction layers with
  | nil => exact fun c e => frame.run calls frame.finish (handler.program c) e
  | cons m layers ih => exact frame.around calls ih m

theorem respond (frame : Frame keeps) (calls : nested.Keeps keeps) (s : Service) (chain : Chain) :
    (s.respond nested chain).Keeps keeps := by
  intro c e
  have reached := frame.chain calls chain c e
  rw [Service.respond]
  split
  · rename_i f c' e' eq
    rw [eq] at reached
    exact frame.trans reached (frame.run calls frame.finish (s.errorHandler f c') e')
  · exact reached

end Engine.Frame

end RequestDispatch
