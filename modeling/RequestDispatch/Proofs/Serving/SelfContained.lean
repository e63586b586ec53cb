import RequestDispatch.Proofs.Routing.Actions
import RequestDispatch.Proofs.Routing.Resolution
import RequestDispatch.Setup.Dispatcher

/-!
# Self-contained programs

A handler or middleware is self-contained when what it does depends on nothing but its context and what
the rest of its chain comes back with.  It may report and update live services, but it does not look at
what comes of an update, and it calls no live service.  The built-in ones are all of this kind.
-/

namespace RequestDispatch

open Routing (Router Submission)

/-- The program goes on in a way that its context and the rest of its chain decide. -/
inductive Program.SelfContained : Program → Prop where
  | done (outcome : Outcome) (c : Context) : SelfContained (.done outcome c)
  | emit (effect : Effect) {rest : Program} (contained : SelfContained rest) :
    SelfContained (.emit effect rest)
  | next (c : Context) {resume : HandlerResult → Context → Program}
    (contained : ∀ result c, SelfContained (resume result c)) : SelfContained (.next c resume)
  | attempt (c : Context) {resume : Outcome → Context → Program}
    (contained : ∀ outcome c, SelfContained (resume outcome c)) : SelfContained (.attempt c resume)
  | update (live : String) (change : List Registration) {rest : Program}
    (contained : SelfContained rest) : SelfContained (.update live change fun _ => rest)

namespace Program.SelfContained

theorem emits {effects : List Effect} {rest : Program} (contained : rest.SelfContained) :
    (Program.emits effects rest).SelfContained := by
  induction effects with
  | nil => exact contained
  | cons effect effects ih => exact .emit effect ih

theorem sent (result : Context × List Effect) : (Program.sent result).SelfContained :=
  .emits (.done .ok result.1)

end Program.SelfContained

def Middleware.SelfContained : Middleware → Prop
  | .wrap _ run => ∀ c, (run c).SelfContained
  | .before _ run => ∀ c, (run c).SelfContained
  | .exchange .. => True

def Handler.SelfContained (h : Handler) : Prop := ∀ c, (h.program c).SelfContained

structure Chain.SelfContained (chain : Chain) : Prop where
  layers : ∀ m ∈ chain.layers, m.SelfContained
  handler : chain.handler.SelfContained

/-- All that the service can run for a request is self-contained. -/
structure Service.SelfContained (s : Service) : Prop where
  routes : ∀ m path buffer endpoint captures,
    s.router.lookup m path buffer = (.found endpoint, captures) →
      endpoint.action.chain.SelfContained
  notFound : s.notFound.SelfContained
  methodNotAllowed : s.methodNotAllowed.SelfContained
  errorHandler : ∀ f c, (s.errorHandler f c).SelfContained

theorem Exchange.toProgram_selfContained (run : Request → Response → Exchange) (c : Context) :
    (Exchange.toProgram run c).SelfContained :=
  .emits (.done ..)

namespace Middleware

open Program.SelfContained

theorem recover_selfContained : recover.SelfContained := fun c =>
  .attempt c fun outcome c => by
    cases outcome with
    | ok => exact .done ..
    | error f => exact .done ..
    | panic payload => exact .emit _ (.done ..)

theorem requestId_selfContained : requestId.SelfContained := fun c => by
  dsimp only
  split
  · exact .done ..
  · exact .next _ fun _ _ => .done ..

theorem requestLogger_selfContained : requestLogger.SelfContained := fun c =>
  .emit _ (.next c fun _ _ => .emit _ (.emit _ (.done ..)))

theorem metrics_selfContained (counters : Nat) : (metrics counters).SelfContained := fun c =>
  .next c fun _ _ => .emit _ (.done ..)

end Middleware

namespace Handler

theorem notFound_selfContained : notFound.SelfContained := fun _ => .done ..

theorem methodNotAllowed_selfContained : methodNotAllowed.SelfContained := fun c => by
  simp only [methodNotAllowed, program]
  split <;> exact .done ..

theorem statusOk_selfContained : statusOk.SelfContained := fun _ => .sent _

theorem noContent_selfContained : noContent.SelfContained := fun _ => .sent _

theorem echo_selfContained : echo.SelfContained := fun _ => .sent _

end Handler

theorem ErrorHandler.standard_selfContained (f : Failure) (c : Context) :
    (standard f c).SelfContained := by
  refine .emit _ ?_
  split
  · exact .done ..
  · exact .sent _

/-- The chain that a self-contained service finds is self-contained. -/
theorem Service.SelfContained.find {s : Service} (contained : s.SelfContained) (c : Context) :
    (s.find c).1.SelfContained := by
  unfold Service.find
  rcases looked : s.router.lookup c.method c.path c.captures with ⟨found, captures⟩
  cases found with
  | found endpoint => exact contained.routes _ _ _ _ _ looked
  | methodNotAllowed methods => exact contained.methodNotAllowed
  | notFound => exact contained.notFound

theorem Dispatcher.scope_selfContained (d : Dispatcher)
    (groups : ∀ stack ∈ d.scopes, ∀ m ∈ stack, m.SelfContained) (owner : Option Nat) :
    ∀ m ∈ (owner.map d.scope).getD [], m.SelfContained := by
  intro m mem
  cases owner with
  | none => exact absurd mem List.not_mem_nil
  | some i =>
    simp only [Option.map_some, Option.getD_some, scope] at mem
    cases stack : d.scopes[i]? with
    | none =>
      rw [stack] at mem
      exact absurd mem List.not_mem_nil
    | some stack' =>
      rw [stack] at mem
      exact groups stack' (List.mem_of_getElem? stack) m mem

/-- What is built from a dispatcher is self-contained if all that was registered with it is. -/
theorem Dispatcher.build_selfContained {d : Dispatcher} {registered : List (Submission Mount)}
    (holds : d.router.Holds registered)
    (handlers : ∀ r ∈ registered, r.action.chain.handler.SelfContained)
    (middleware : ∀ m ∈ d.middleware, m.SelfContained)
    (groups : ∀ stack ∈ d.scopes, ∀ m ∈ stack, m.SelfContained)
    (notFound : d.notFound.SelfContained) (methodNotAllowed : d.methodNotAllowed.SelfContained)
    (errorHandler : ∀ f c, (d.errorHandler f c).SelfContained) : d.build.SelfContained where
  routes := by
    intro m path buffer endpoint captures found
    change (d.router.map d.compose).lookup m path buffer = _ at found
    rw [Router.lookup_map] at found
    have resolved := holds.resolves m path buffer
    generalize d.router.lookup m path buffer = result at found resolved
    cases resolved with
    | found r values captures readable wins filled places =>
      cases found
      refine ⟨fun m mem => ?_, handlers r wins.mem⟩
      rcases List.mem_append.mp mem with outer | inner
      · exact middleware m outer
      · exact d.scope_selfContained groups r.action.scope m inner
    | methodNotAllowed allowed captures nonempty distinct offered missing cleared => cases found
    | notFound captures missing cleared => cases found
  notFound := ⟨middleware, notFound⟩
  methodNotAllowed := ⟨middleware, methodNotAllowed⟩
  errorHandler := errorHandler

end RequestDispatch
