import RequestDispatch.Proofs.Routing.Actions
import RequestDispatch.Proofs.Serving.Conduct
import RequestDispatch.Serving.Builtin

/-!
# Built-in parts are obedient

The built-in middleware and handlers and the standard error handler keep to the operations on their
context.  All but the logger and the counters make plain reports: they neither count a request nor report
one as completed.  So they keep to any conduct.
-/

namespace RequestDispatch

open Routing (Router Submission)

variable {conduct : Conduct}

theorem Response.conflict_plain (r : Response) (status : Status) :
    ∀ effect ∈ r.conflict status, effect.Plain := by
  intro effect mem
  rw [conflict] at mem
  split at mem
  · obtain rfl := List.mem_singleton.mp mem
    exact trivial
  · cases mem

namespace Program.Obeys

variable {start c : Context} {rest : Program}

theorem emitPlain {effect : Effect} (plain : effect.Plain) (obeys : rest.Obeys conduct start) :
    (Program.emit effect rest).Obeys conduct start :=
  .emit (conduct.plain effect plain) obeys

theorem emitsPlain {effects : List Effect} (plain : ∀ effect ∈ effects, effect.Plain)
    (obeys : rest.Obeys conduct start) : (Program.emits effects rest).Obeys conduct start :=
  .emits (fun effect mem => conduct.plain effect (plain effect mem)) obeys

theorem sendJson (led : conduct.leads start c) (status : Status) (value : Json) :
    (Program.sent (c.sendJson status value)).Obeys conduct start :=
  .emitsPlain (c.response.conflict_plain status)
    (.done .ok (conduct.further led (c.evolves_send ..)))

end Program.Obeys

namespace Middleware

theorem recover_obeys : recover.Obeys conduct := fun c =>
  .attempt (conduct.refl c) fun outcome c led => by
    cases outcome with
    | ok => exact .done .ok led
    | error f => exact .done (.error f) led
    | panic payload => exact .emitPlain trivial (.done _ led)

theorem requestId_obeys : requestId.Obeys conduct := fun c => by
  dsimp only
  split
  · exact .done _ (conduct.operations (c.evolves_own c.request c.extensions _))
  · refine .next (conduct.operations ?_) fun _ _ led => .done _ led
    exact ⟨rfl, rfl, rfl, rfl, rfl, rfl, fun sound => sound.setHeader _ _⟩

theorem requestLogger_obeys (any : ∀ effect, conduct.reports effect) :
    requestLogger.Obeys conduct := fun c =>
  .emit (any _) (.next (conduct.refl c) fun _ _ led =>
    .emit (any _) (.emit (any _) (.done _ led)))

theorem metrics_obeys (any : ∀ effect, conduct.reports effect) (counters : Nat) :
    (metrics counters).Obeys conduct := fun c =>
  .next (conduct.refl c) fun _ _ led => .emit (any _) (.done _ led)

end Middleware

namespace Handler

theorem notFound_obeys : notFound.Obeys conduct := fun c => .done _ (conduct.refl c)

theorem methodNotAllowed_obeys : methodNotAllowed.Obeys conduct := fun c => by
  simp only [methodNotAllowed, program]
  split
  · exact .done _ (conduct.refl c)
  · exact .done _ (conduct.operations (c.evolves_response fun sound => sound.setHeader _ _))

end Handler

namespace ErrorHandler

theorem report_plain (f : Failure) (status : Status) (c : Context) :
    (Effect.log (report f status c)).Plain := by
  rw [report]
  split <;> exact trivial

theorem standard_obeys (f : Failure) (c : Context) : (standard f c).Obeys conduct c := by
  refine .emitPlain (report_plain f _ c) ?_
  split
  · exact .done .ok (conduct.refl c)
  · exact .sendJson (conduct.refl c) _ _

end ErrorHandler

namespace Dispatcher

variable {d : Dispatcher} {registered : List (Submission Mount)}

theorem exists_scope_of_mem {owner : Option Nat} {m : Middleware}
    (mem : m ∈ (owner.map d.scope).getD []) : ∃ stack ∈ d.scopes, m ∈ stack := by
  cases owner with
  | none => cases mem
  | some i =>
    simp only [Option.map_some, Option.getD_some, scope] at mem
    cases known : d.scopes[i]? with
    | none =>
      rw [known] at mem
      cases mem
    | some stack =>
      rw [known] at mem
      exact ⟨stack, List.mem_of_getElem? known, mem⟩

/-- What a build finds: global middleware and that of a group around a handler that was registered. -/
theorem find_build (holds : d.router.Holds registered) (c : Context) :
    ∃ inner handler, (d.build.find c).1 = ⟨d.middleware ++ inner, handler⟩ ∧
      (∀ m ∈ inner, ∃ stack ∈ d.scopes, m ∈ stack) ∧
      (handler = d.notFound ∨ handler = d.methodNotAllowed ∨
        ∃ r ∈ registered, handler = r.action.chain.handler) := by
  unfold Service.find build
  dsimp only
  rw [Router.lookup_map]
  have resolved := holds.resolves c.method c.path c.captures
  generalize d.router.lookup c.method c.path c.captures = result at resolved
  cases resolved with
  | found r values captures readable wins filled places =>
    exact ⟨_, _, rfl, fun m mem => exists_scope_of_mem mem, .inr (.inr ⟨r, wins.mem, rfl⟩)⟩
  | methodNotAllowed allowed captures nonempty distinct offered missing cleared =>
    exact ⟨[], _, by rw [List.append_nil]; rfl, nofun, .inr (.inl rfl)⟩
  | notFound captures missing cleared =>
    exact ⟨[], _, by rw [List.append_nil]; rfl, nofun, .inl rfl⟩

/-- What is built from a dispatcher is obedient if all that was registered with it is. -/
theorem build_obeys (holds : d.router.Holds registered)
    (handlers : ∀ r ∈ registered, r.action.chain.handler.Obeys conduct)
    (middleware : ∀ m ∈ d.middleware, m.Obeys conduct)
    (groups : ∀ stack ∈ d.scopes, ∀ m ∈ stack, m.Obeys conduct)
    (notFound : d.notFound.Obeys conduct) (methodNotAllowed : d.methodNotAllowed.Obeys conduct)
    (errorHandler : ∀ f c, (d.errorHandler f c).Obeys conduct c) : d.build.Obeys conduct where
  find c := by
    obtain ⟨inner, handler, found, owned, known⟩ := find_build holds c
    rw [found]
    refine ⟨List.forall_mem_append.mpr ⟨middleware, fun m mem => ?_⟩, ?_⟩
    · obtain ⟨stack, listed, mem⟩ := owned m mem
      exact groups stack listed m mem
    · rcases known with rfl | rfl | ⟨r, mem, rfl⟩
      · exact notFound
      · exact methodNotAllowed
      · exact handlers r mem
  errorHandler := errorHandler

end Dispatcher

end RequestDispatch
