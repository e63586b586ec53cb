import Mathlib.Data.List.Permutation
import RequestDispatch.Proofs.Script.Conduct
import RequestDispatch.Proofs.Serving.NestedCalls

/-!
# Handlers that call the live service they run on

While a request is served on a live service, its middleware and handlers may serve further requests on
that service and change it.  The request stays on the build that it found: nothing that the calls do
reaches its context or its response, the requests nested in it have contexts of their own, and they are
resolved by the routes as last changed (`Handling.served_on_snapshot`).  Only a panic gets out of a call.
-/

namespace RequestDispatch

open Routing (Router Submission)
open Script (Action)

theorem Live.Continues.built {start later : Live} (continues : start.Continues later)
    (built : start.current = start.setup.build) : later.current = later.setup.build := by
  cases continues with
  | refl => exact built
  | update _ _ => rfl

namespace Engine

variable {e : Engine} {name : String}

/-- An update that is answered with success has published the changed setup. -/
theorem update_applied {change : List Registration} {routes version : Nat}
    (applied : (Nested.updateLive name change e).1 = .applied routes version) :
    ∃ old d, e.live? name = some old ∧
      old.setup.apply ⟨Unit, Registration.change change⟩ = .ok d ∧ version = old.version + 1 ∧
      (Nested.updateLive name change e).2.live? name = some ⟨d, d.build, version⟩ := by
  cases known : e.live? name with
  | none =>
    rw [Nested.updateLive, update, known] at applied
    cases applied
  | some old =>
    cases changed : old.setup.apply ⟨Unit, Registration.change change⟩ with
    | error error =>
      obtain ⟨records, failed⟩ := update_of_error known changed
      have reply := congrArg Prod.fst failed
      rw [Nested.updateLive, reply] at applied
      cases applied
    | ok d =>
      obtain ⟨reply, published⟩ := update_of_ok known changed
      rw [Nested.updateLive, reply] at applied
      cases applied
      exact ⟨old, d, rfl, changed, rfl, published⟩

end Engine

namespace Handling

/-- A request on a live service keeps to the build that it found, whatever calls are made meanwhile;
`alone` is that build without the calls. -/
structure OnSnapshot (h : Handling) (live : Live) (alone : Service) : Prop where
  /-- Routes, middleware, fallbacks, error handler and mode are those of the build. -/
  service : h.service = live.current
  /-- What routing found there is in place to the end. -/
  context : h.bound.2.Evolves h.run.2.1
  /-- Unless a nested request panics out of its call, the request fares the same without the calls, on
  every engine that gives it the same identifier. -/
  alone : (∀ call ∈ h.ownCalls, ¬call.Panics) → ∀ a : Handling, a.service = alone →
    a.request = h.request → a.id = h.id →
    a.bound.2 = h.bound.2 ∧ a.run.1 = h.run.1 ∧ a.run.2.1 = h.run.2.1 ∧ a.reply = h.reply
  /-- When the chain of a nested request starts, its context has been taken from the pool and that of
  this request has not been given back. -/
  contexts : ∀ call ∈ h.calls, ∀ inner, call.handling? = some inner →
    ∀ l : Ledger, l.pool = h.engine.pool → ∃ calls between, (l.run calls).pool = inner.opening.pool ∧
      (l.run calls).held = inner.lease :: between ++ h.lease :: l.held
  /-- A nested request that comes after a nested update finds a build of the updated setup or of one
  that further updates made of it. -/
  updates : ∀ before between rest name change e₁ asked depth e₂ routes version,
    h.calls = before ++ .update name change e₁ :: between ++ .serve name asked depth e₂ :: rest →
    (Nested.updateLive name change e₁).1 = .applied routes version →
    ∃ old d later, e₁.live? name = some old ∧
      old.setup.apply ⟨Unit, Registration.change change⟩ = .ok d ∧
      Live.Continues ⟨d, d.build, version⟩ later ∧ e₂.live? name = some later ∧
      later.current = later.setup.build ∧
      ∀ inner, (Call.serve name asked depth e₂).handling? = some inner → inner.service = later.current

theorem updates_resolve {h : Handling} {before between rest : List Call} {name : String}
    {change : List Registration} {e₁ e₂ : Engine} {asked : Except RequestError Request}
    {depth routes version : Nat}
    (split : h.calls = before ++ .update name change e₁ :: between ++
      .serve name asked depth e₂ :: rest)
    (applied : (Nested.updateLive name change e₁).1 = .applied routes version) :
    ∃ old d later, e₁.live? name = some old ∧
      old.setup.apply ⟨Unit, Registration.change change⟩ = .ok d ∧
      Live.Continues ⟨d, d.build, version⟩ later ∧ e₂.live? name = some later ∧
      later.current = later.setup.build ∧
      ∀ inner, (Call.serve name asked depth e₂).handling? = some inner →
        inner.service = later.current := by
  obtain ⟨old, d, known, changed, _, published⟩ := Engine.update_applied applied
  obtain ⟨later, found, continues⟩ := calls_grow split name _ published
  refine ⟨old, d, later, known, changed, continues, found, continues.built rfl, fun inner admitted => ?_⟩
  obtain ⟨live, _, known', _, _, entered⟩ := Nested.handling_inv admitted
  obtain rfl : later = live := Option.some.inj (found.symm.trans known')
  exact (Service.service_of_handling entered).1

/-- A request that is served on a live service finishes on the build that it found there, however its
middleware and handlers call live services on the way; none of them binds the context to another
request. -/
theorem served_on_snapshot {name : String} {asked : Except RequestError Request} {depth : Nat}
    {e : Engine} {live : Live} {h : Handling} {alone : Service} (known : e.live? name = some live)
    (admitted : (Call.serve name asked depth e).handling? = some h)
    (proper : live.current.Proper) (omits : live.current.Omits alone) :
    (Nested.upTo depth).serve name asked e = (h.reply, h.closing) ∧ h.OnSnapshot live alone := by
  have service : h.service = live.current := by
    obtain ⟨found, _, known', _, _, entered⟩ := Nested.handling_inv admitted
    obtain rfl : live = found := Option.some.inj (known.symm.trans known')
    exact (Service.service_of_handling entered).1
  rw [← service] at proper omits
  refine ⟨Nested.serve_of_handling admitted, service, (obeys proper).1, ?_, ?_, ?_⟩
  · rintro calm a rfl request id
    exact agrees_alone omits request id calm
  · intro call mem inner admitted l start
    exact lease_held mem admitted start
  · intro before between rest name change e₁ asked depth e₂ routes version split applied
    exact updates_resolve split applied

end Handling

/-! ### Scripts that call the service they run on -/

namespace Dispatcher

variable (inner outer : List Action)

/-- A handler, or the one of the same name that runs its script without the calls. -/
def withoutCalls (inner outer : List Action) (h : Handler) : Handler :=
  if h.name = "inner" then .context "inner" (Action.program (inner.filter (!·.isCall)))
  else if h.name = "outer" then .context "outer" (Action.program (outer.filter (!·.isCall)))
  else h

theorem scripted_rehandled : (scripted inner outer).rehandled (withoutCalls inner outer) =
    scripted (inner.filter (!·.isCall)) (outer.filter (!·.isCall)) := by
  cbv

theorem scripted_omits : (scripted inner outer).build.Omits
    (scripted (inner.filter (!·.isCall)) (outer.filter (!·.isCall))).build := by
  rw [← scripted_rehandled]
  exact omits_rehandled (scripted_holds inner outer)
    (List.forall_mem_cons.mpr ⟨Action.program_omits inner,
      List.forall_mem_singleton.mpr (Action.program_omits outer)⟩)
    nofun nofun Handler.notFound_omits Handler.methodNotAllowed_omits ErrorHandler.standard_omits

end Dispatcher

namespace Handling

/-- Two nested requests with an update between them: the second one finds the new route. -/
theorem served_on_snapshot_across_update :
    let get (path : String) : Except RequestError Request := .ok ⟨.get, ⟨path, none⟩, [], []⟩
    let inner : List Action := [.text .ok "in"]
    let outer : List Action :=
      [.serve "l" (get "/inner"), .update "l" [.route [.get] "/:new" .echo], .serve "l" (get "/new"),
        .text .ok "x"]
    let d := Dispatcher.scripted inner outer
    let alone := (Dispatcher.scripted inner [.text .ok "x"]).build
    let e := (Engine.create (.empty 2) Ulid.ofNat).goLive "l" d
    ∃ h, (Call.serve "l" (get "/outer") 2 e).handling? = some h ∧
      h.calls.map (fun call => (call.handling?.map (·.bound.2.route.isSome))) =
        [some true, none, some true] ∧
      (∀ call ∈ h.ownCalls, ¬call.Panics) ∧ h.OnSnapshot ⟨d, d.build, 0⟩ alone := by
  intro get inner outer d alone e
  have known : e.live? "l" = some ⟨d, d.build, 0⟩ := Engine.live?_goLive _ "l" d
  have admitted : (Call.serve "l" (get "/outer") 2 e).handling? =
      some ⟨d.build, ⟨.get, ⟨"/outer", none⟩, [], []⟩, e, 1⟩ := by
    rw [Call.handling?, known]
    rfl
  refine ⟨⟨d.build, ⟨.get, ⟨"/outer", none⟩, [], []⟩, e, 1⟩, admitted, by decide +kernel,
    by decide +kernel, ?_⟩
  exact (served_on_snapshot known admitted (Dispatcher.scripted_obeys inner outer)
    (Dispatcher.scripted_omits inner outer)).2

/-- A nested request that panics takes the outer one with it, which succeeds on its own. -/
theorem nested_panic_passes :
    let get (path : String) : Except RequestError Request := .ok ⟨.get, ⟨path, none⟩, [], []⟩
    let inner : List Action := [.panic "boom"]
    let outer : List Action := [.serve "l" (get "/inner"), .text .ok "x"]
    let d := Dispatcher.scripted inner outer
    let alone := (Dispatcher.scripted inner [.text .ok "x"]).build
    let e := (Engine.create (.empty 2) Ulid.ofNat).goLive "l" d
    d.build.Proper ∧ d.build.Omits alone ∧
      ∃ h a : Handling, (Call.serve "l" (get "/outer") 2 e).handling? = some h ∧
        a.service = alone ∧ a.request = h.request ∧ a.id = h.id ∧
        h.reply = .panicked (.text "boom") ∧
        a.reply = .answer ⟨.ok, [(.contentType, Context.textType)], Utf8.ofString "x"⟩ := by
  intro get inner outer d alone e
  let request : Request := ⟨.get, ⟨"/outer", none⟩, [], []⟩
  let h : Handling := ⟨d.build, request, e, 1⟩
  let a : Handling := ⟨alone, request, e, 1⟩
  have known : e.live? "l" = some ⟨d, d.build, 0⟩ := Engine.live?_goLive _ "l" d
  have admitted : (Call.serve "l" (get "/outer") 2 e).handling? = some h := by
    rw [Call.handling?, known]
    rfl
  have cut : h.reply = .panicked (.text "boom") := by decide +kernel
  have answered : a.reply = .answer ⟨.ok, [(.contentType, Context.textType)], Utf8.ofString "x"⟩ := by
    decide +kernel
  have asked : a.request = h.request := by
    change request = request
    rfl
  have id : a.id = h.id := by
    change e.ids e.issued = e.ids e.issued
    rfl
  refine ⟨Dispatcher.scripted_obeys inner outer, Dispatcher.scripted_omits inner outer, h, a,
    admitted, rfl, asked, id, cut, answered⟩

end Handling

end RequestDispatch
