import RequestDispatch.Proofs.Serving.BuiltinConduct
import RequestDispatch.Proofs.Serving.Omission
import RequestDispatch.Script.Action

/-!
# Scripted handlers

Every scripted handler keeps to any conduct (`Action.program_obeys`), and none makes its response depend on
what its calls of live services return: leaving those actions out of the script leaves the calls out
(`Action.program_omits`).
-/

namespace RequestDispatch

namespace Script

namespace ResponseAction

theorem perform_sound {r r' : Response} {effects : List Effect} {action : ResponseAction}
    (done : action.perform r = .ok (r', effects)) :
    (r.Sound → r'.Sound) ∧ ∀ effect ∈ effects, effect.Plain := by
  have put {set : HeaderName → HeaderValue → Response} {name value : String}
      (kept : ∀ name value, r.Sound → (set name value).Sound)
      (done : (putHeader set name value).map (·, []) = .ok (r', effects)) :
      (r.Sound → r'.Sound) ∧ ∀ effect ∈ effects, effect.Plain := by
    rw [putHeader] at done
    split at done
    · cases done
    · split at done
      · cases done
      · cases done
        exact ⟨kept _ _, List.forall_mem_nil _⟩
  cases action with
  | commitStatus status =>
    cases done
    exact ⟨fun _ => r.commitStatus_sound status, r.conflict_plain status⟩
  | write bytes =>
    cases done
    exact ⟨fun _ => r.write_sound bytes, List.forall_mem_nil _⟩
  | header name value => exact put (fun _ _ sound => sound.setHeader _ _) done
  | append name value => exact put (fun _ _ sound => sound.addHeader _ _) done
  | take =>
    cases done
    exact ⟨fun _ => Response.fresh_sound, List.forall_mem_singleton.mpr trivial⟩
  | reset =>
    cases done
    exact ⟨fun _ => Response.fresh_sound, List.forall_mem_nil _⟩
  | noteResponse =>
    cases done
    exact ⟨id, List.forall_mem_singleton.mpr trivial⟩
  | note text =>
    cases done
    exact ⟨id, List.forall_mem_singleton.mpr trivial⟩

end ResponseAction

namespace Action

variable {conduct : Conduct} {start c : Context} {resume alone : HandlerResult → Context → Program}

theorem sent_obeys {c' : Context} {status : Status}
    (rest : ∀ result c, conduct.leads start c → (resume result c).Obeys conduct start)
    (led : conduct.leads start c') :
    (perform.sent resume (c', c.response.conflict status)).Obeys conduct start :=
  .emitsPlain (c.response.conflict_plain status) (rest .ok c' led)

theorem redirect_evolves {status : Status} {location : String} {c' : Context}
    {effects : List Effect} (done : c.redirect status location = .ok (c', effects)) :
    c.Evolves c' ∧ effects = c.response.conflict status := by
  rw [Context.redirect] at done
  split at done
  · cases done
  · split at done
    · cases done
    · cases done
      exact ⟨c.evolves_response fun _ => Response.commitStatus_sound _ status, rfl⟩

/-- One action at a time, whatever goes on with its result. -/
theorem perform_obeys (led : conduct.leads start c)
    (rest : ∀ result c, conduct.leads start c → (resume result c).Obeys conduct start)
    (action : Action) : (action.perform c resume).Obeys conduct start := by
  have same : (resume .ok c).Obeys conduct start := rest .ok c led
  have own (request : Request) (extensions : Extensions) (id : Ulid) :
      (resume .ok { c with request := request, extensions := extensions, requestId := id }).Obeys
        conduct start :=
    rest .ok _ (conduct.further led (c.evolves_own request extensions id))
  cases action with
  | text status body => exact sent_obeys rest (conduct.further led (c.evolves_send ..))
  | json status value => exact sent_obeys rest (conduct.further led (c.evolves_send ..))
  | noContent status => exact sent_obeys rest (conduct.further led (c.evolves_sendStatus status))
  | redirect status location =>
    rw [perform]
    cases done : c.redirect status location with
    | error failure => exact rest _ c led
    | ok result =>
      obtain ⟨c', effects⟩ := result
      obtain ⟨further, rfl⟩ := redirect_evolves done
      exact sent_obeys rest (conduct.further led further)
  | fail failure => exact rest _ c led
  | panic message => exact .done _ led
  | set value => exact .emitPlain trivial (own _ _ _)
  | unset => exact .emitPlain trivial (own _ _ _)
  | param name => exact .emitPlain trivial same
  | position index => exact .emitPlain trivial same
  | describe => exact .emitPlain trivial same
  | noteRequestId => exact .emitPlain trivial same
  | setRequestId id =>
    rw [perform]
    cases Ulid.parse id with
    | error error => exact rest _ c led
    | ok id => exact own _ _ _
  | setBody bytes => exact own _ _ _
  | setMethod name =>
    rw [perform]
    cases Method.ofString? name with
    | none => exact rest _ c led
    | some method => exact own _ _ _
  | serve live request =>
    refine .serve live request led fun reply => ?_
    split
    · exact same
    · exact .emitPlain trivial same
  | update live change =>
    refine .update live change fun reply => ?_
    split
    · exact same
    · exact .emitPlain trivial same
  | respond action =>
    rw [perform]
    cases done : action.perform c.response with
    | error failure => exact rest _ c led
    | ok result =>
      obtain ⟨response, effects⟩ := result
      obtain ⟨sound, plain⟩ := ResponseAction.perform_sound done
      exact .emitsPlain plain (rest .ok _ (conduct.further led (c.evolves_response sound)))

theorem runAll_obeys (actions : List Action) (led : conduct.leads start c)
    (rest : ∀ result c, conduct.leads start c → (resume result c).Obeys conduct start) :
    (runAll actions c resume).Obeys conduct start := by
  induction actions generalizing c with
  | nil => exact rest .ok c led
  | cons action actions ih =>
    refine perform_obeys led (fun result c led => ?_) action
    cases result with
    | ok => exact ih led
    | error failure => exact rest _ c led

theorem program_obeys (name : String) (actions : List Action) :
    (Handler.context name (program actions)).Obeys conduct :=
  fun c => runAll_obeys actions (conduct.refl c) fun _ _ led => .done _ led

/-- Whether an action calls a live service. -/
def isCall : Action → Bool
  | .serve .. => true
  | .update .. => true
  | _ => false

theorem perform_omits_of_call {action : Action} (call : action.isCall = true) {alone : Program}
    (rest : (resume .ok c).Omits alone) : (action.perform c resume).Omits alone := by
  cases action with
  | serve live request =>
    refine .serve live request c fun reply _ => ?_
    split
    · exact rest
    · exact .report _ rest
  | update live change =>
    refine .update live change fun reply => ?_
    split
    · exact rest
    · exact .report _ rest
  | _ => cases call

theorem perform_omits_of_not_call {action : Action} (quiet : action.isCall = false)
    (rest : ∀ result c, (resume result c).Omits (alone result c)) :
    (action.perform c resume).Omits (action.perform c alone) := by
  have sent (result : Context × List Effect) :
      (perform.sent resume result).Omits (perform.sent alone result) :=
    .emits result.2 (rest .ok result.1)
  cases action with
  | text status body => exact sent _
  | json status value => exact sent _
  | noContent status => exact sent _
  | redirect status location =>
    rw [perform, perform]
    cases c.redirect status location with
    | error failure => exact rest _ c
    | ok result => exact sent result
  | fail failure => exact rest _ c
  | panic message => exact .done _ c
  | set value => exact .emit _ (rest _ _)
  | unset => exact .emit _ (rest _ _)
  | param name => exact .emit _ (rest _ _)
  | position index => exact .emit _ (rest _ _)
  | describe => exact .emit _ (rest _ _)
  | noteRequestId => exact .emit _ (rest _ _)
  | setRequestId id =>
    rw [perform, perform]
    cases Ulid.parse id <;> exact rest _ _
  | setBody bytes => exact rest _ _
  | setMethod name =>
    rw [perform, perform]
    cases Method.ofString? name <;> exact rest _ _
  | serve live request => cases quiet
  | update live change => cases quiet
  | respond action =>
    rw [perform, perform]
    cases action.perform c.response with
    | error failure => exact rest _ _
    | ok result => exact .emits _ (rest _ _)

/-- By induction on the script; a call is left out, any other action stays. -/
theorem runAll_omits (actions : List Action) (c : Context)
    (rest : ∀ result c, (resume result c).Omits (alone result c)) :
    (runAll actions c resume).Omits (runAll (actions.filter (!·.isCall)) c alone) := by
  induction actions generalizing c with
  | nil => exact rest .ok c
  | cons action actions ih =>
    cases call : action.isCall with
    | true =>
      rw [List.filter_cons_of_neg (by simp [call])]
      exact perform_omits_of_call call (ih c)
    | false =>
      rw [List.filter_cons_of_pos (by simp [call])]
      refine perform_omits_of_not_call call fun result c => ?_
      cases result with
      | ok => exact ih c
      | error failure => exact rest _ c

theorem program_omits (actions : List Action) (c : Context) :
    (program actions c).Omits (program (actions.filter (!·.isCall)) c) :=
  runAll_omits actions c fun _ _ => .done _ _

end Action

end Script

namespace Dispatcher

open Routing (Router Submission)
open Script (Action)

/-- Two routes whose handlers run scripts. -/
def scripted (inner outer : List Action) : Dispatcher :=
  { create .standard with
    router := Router.empty.addAll
      [⟨.get, "/inner", "inner", ⟨none, ⟨[], .context "inner" (Action.program inner)⟩⟩⟩,
        ⟨.get, "/outer", "outer", ⟨none, ⟨[], .context "outer" (Action.program outer)⟩⟩⟩] }

variable (inner outer : List Action)

theorem scripted_holds : (scripted inner outer).router.Holds
    [⟨.get, "/inner", "inner", ⟨none, ⟨[], .context "inner" (Action.program inner)⟩⟩⟩,
      ⟨.get, "/outer", "outer", ⟨none, ⟨[], .context "outer" (Action.program outer)⟩⟩⟩] := by
  have accepted (a b : Mount) :
      Router.empty.accepted [⟨.get, "/inner", "inner", a⟩, ⟨.get, "/outer", "outer", b⟩] =
        [⟨.get, "/inner", "inner", a⟩, ⟨.get, "/outer", "outer", b⟩] := by cbv
  have holds (calls : List (Submission Mount)) := Router.holds_accepted calls
  exact accepted _ _ ▸ holds _

theorem scripted_obeys {conduct : Conduct} : (scripted inner outer).build.Obeys conduct :=
  build_obeys (scripted_holds inner outer)
    (List.forall_mem_cons.mpr ⟨Action.program_obeys _ inner,
      List.forall_mem_singleton.mpr (Action.program_obeys _ outer)⟩)
    nofun nofun Handler.notFound_obeys Handler.methodNotAllowed_obeys ErrorHandler.standard_obeys

end Dispatcher

end RequestDispatch
