import RequestDispatch.Setup.Registration
import RequestDispatch.Proofs.Routing.Records

/-!
# What a setup step does

Every step of a setup as one equation: what comes back, and the dispatcher it leaves.  Of the methods of
one registration those before the first that is refused are taken up, and nothing but the router is
touched on the way (`Setup.route_run`).
-/

namespace RequestDispatch

namespace Setup

open Routing

variable {α β : Type}

theorem run_bind (x : Setup α) (f : α → Setup β) (s : SetupState) :
    (x >>= f).run s =
      match x.run s with
      | (.ok a, s') => (f a).run s'
      | (.error e, s') => (.error e, s') := by
  have unfolded : (x >>= f).run s =
      (fun p : Except SetupError α × SetupState => ExceptT.bindCont f p.1 p.2) (x.run s) := rfl
  rw [unfolded]
  rcases x.run s with ⟨_ | _, s'⟩
  · rfl
  · rfl

theorem dispatcher_run (s : SetupState) : dispatcher.run s = (.ok s.dispatcher, s) := rfl

/-- What a site asks for when it mounts a handler. -/
def request (scope : Option Nat) (template : String) (handler : Handler) (m : Method) :
    Submission Mount :=
  ⟨m, template, handler.name, ⟨scope, ⟨[], handler⟩⟩⟩

theorem mount_admitted {scope : Option Nat} {m : Method} {template : String} {handler : Handler}
    {s : SetupState} {route : RouteDescription} {router : Router Mount}
    (ok : s.dispatcher.router.submit (request scope template handler m) = .ok (route, router)) :
    (mount scope m template handler).run s =
      (.ok (), ⟨{ s.dispatcher with router := router },
        .routeRegistered m template route.handlerName route.paramNames.length :: s.events⟩) := by
  have ok : s.dispatcher.router.add m template handler.name ⟨scope, ⟨[], handler⟩⟩ = _ := ok
  unfold mount
  simp only [run_bind, dispatcher_run, ok]
  rfl

theorem mount_refused {scope : Option Nat} {m : Method} {template : String} {handler : Handler}
    {s : SetupState} {error : RouteError}
    (refused : s.dispatcher.router.submit (request scope template handler m) = .error error) :
    (mount scope m template handler).run s = (.error (.route error), s) := by
  have refused : s.dispatcher.router.add m template handler.name ⟨scope, ⟨[], handler⟩⟩ = _ :=
    refused
  unfold mount
  simp only [run_bind, dispatcher_run, refused]
  rfl

/-- The template of a route of a site. -/
def templateAt (site : Site) (path : String) : String := join "" (join site.path path)

/-- No method means `GET`. -/
def orGet (methods : List Method) : List Method := if methods.isEmpty then [.get] else methods

/-- A registration for several methods takes up routes and leaves everything but the router alone. -/
theorem forM_add_run (site : Site) (methods : List Method) (path : String) (handler : Handler)
    (s : SetupState) :
    ∃ result router events,
      (methods.forM fun m => add site m path handler).run s =
          (result, ⟨{ s.dispatcher with router := router }, events⟩) ∧
        ∀ registered, s.dispatcher.router.Records registered → router.Records
          (takeUp (request site.scope (templateAt site path) handler) methods registered) := by
  induction methods generalizing s with
  | nil => exact ⟨.ok (), s.dispatcher.router, s.events, rfl, fun _ records => records⟩
  | cons m rest ih =>
    have unfolded : ((m :: rest).forM fun m => add site m path handler).run s =
        (add site m path handler >>= fun _ => rest.forM fun m => add site m path handler).run s := rfl
    rw [unfolded, run_bind]
    cases answer : s.dispatcher.router.submit
        (request site.scope (templateAt site path) handler m) with
    | ok accepted =>
      have first : (add site m path handler).run s = _ := mount_admitted answer
      obtain ⟨result, router, events, ran, taken⟩ :=
        ih ⟨{ s.dispatcher with router := accepted.2 }, _⟩
      rw [first]
      refine ⟨result, router, events, ran, fun registered records => ?_⟩
      obtain ⟨admitted, recordsNext⟩ := records.submit_ok answer
      rw [takeUp, if_pos admitted]
      exact taken _ recordsNext
    | error error =>
      have first : (add site m path handler).run s = _ := mount_refused answer
      rw [first]
      refine ⟨.error (.route error), s.dispatcher.router, s.events, rfl, fun registered records => ?_⟩
      rw [takeUp, if_neg (records.submit_error answer)]
      exact records

theorem route_eq_forM (site : Site) (methods : List Method) (path : String) (handler : Handler)
    (s : SetupState) :
    (route site methods path handler).run s =
      ((orGet methods).forM fun m => add site m path handler).run s := by
  cases methods with
  | cons m rest => rfl
  | nil =>
    have unfolded : ((orGet []).forM fun m => add site m path handler).run s =
        (add site .get path handler >>= fun _ => pure ()).run s := rfl
    have only : (route site [] path handler).run s = (add site .get path handler).run s := rfl
    rw [unfolded, run_bind, only]
    rcases (add site .get path handler).run s with ⟨_ | _, _⟩
    · rfl
    · rfl

theorem route_run (site : Site) (methods : List Method) (path : String) (handler : Handler)
    (s : SetupState) :
    ∃ result router events,
      (route site methods path handler).run s =
          (result, ⟨{ s.dispatcher with router := router }, events⟩) ∧
        ∀ registered, s.dispatcher.router.Records registered → router.Records
          (takeUp (request site.scope (templateAt site path) handler) (orGet methods) registered) := by
  rw [route_eq_forM]
  exact forM_add_run site (orGet methods) path handler s

/-- The dispatcher after middleware is added at a site. -/
def used (site : Site) (m : Middleware) (d : Dispatcher) : Dispatcher :=
  match site.scope with
  | none => { d with middleware := d.middleware ++ [m] }
  | some id => { d with scopes := d.scopes.modify id (· ++ [m]) }

theorem use_run (site : Site) (m : Middleware) (s : SetupState) :
    ∃ events, (use site m).run s = (.ok (), ⟨used site m s.dispatcher, events⟩) := by
  unfold use used
  rcases site with ⟨path, _ | id⟩
  · exact ⟨_, rfl⟩
  · exact ⟨_, rfl⟩

/-- The stack with which a group opened at a site starts. -/
def inherited (d : Dispatcher) (site : Site) : List Middleware := (site.scope.map d.scope).getD []

/-- The dispatcher after a group is opened at a site, and the site of the group. -/
def opened (site : Site) (path : String) (d : Dispatcher) : Site × Dispatcher :=
  (⟨join site.path path, some d.scopes.length⟩, { d with scopes := d.scopes ++ [inherited d site] })

theorem scope_opened_of_lt (site : Site) (path : String) {d : Dispatcher} {i : Nat}
    (below : i < d.scopes.length) : (opened site path d).2.scope i = d.scope i := by
  unfold opened Dispatcher.scope
  rw [List.getElem?_append_left below]

theorem scope_opened_self (site : Site) (path : String) (d : Dispatcher) :
    (opened site path d).2.scope d.scopes.length = inherited d site := by
  unfold opened Dispatcher.scope
  rw [List.getElem?_concat_length]
  rfl

theorem openGroup_run (site : Site) (path : String) (s : SetupState) :
    ∃ events, (openGroup site path).run s =
      (.ok (opened site path s.dispatcher).1, ⟨(opened site path s.dispatcher).2, events⟩) :=
  ⟨_, rfl⟩

end Setup

namespace Registration

/-- Whatever a step comes back with, the state is the one it leaves. -/
theorem answer_run (step : Setup SetupAnswer) (s : SetupState) :
    ∃ a, (answer step).run s = (.ok a, (step.run s).2) := by
  unfold answer
  simp only [tryCatch, tryCatchThe, MonadExceptOf.tryCatch, ExceptT.tryCatch, ExceptT.run_mk]
  change ∃ a, StateT.run (ExceptT.run step >>= _) s = (_, (StateT.run (ExceptT.run step) s).2)
  rw [StateT.run_bind]
  rcases StateT.run (ExceptT.run step) s with ⟨e | a, s'⟩
  · exact ⟨.failed e, rfl⟩
  · exact ⟨a, rfl⟩

end Registration
end RequestDispatch
