import RequestDispatch.Proofs.Routing.Submissions

/-!
# Routers and their lists of routes

A router that holds certain routes also lists them in the order of their registration
(`Router.Records`).  A route is admitted if its template can be read and no route of its method and shape
is there (`Admits`); of several asked for in turn those before the first that is refused are taken up
(`takeUp`).  After any calls exactly the accepted ones are recorded (`Router.records_accepted`).
-/

namespace RequestDispatch.Routing

variable {α β : Type}

namespace Submission

def map (g : α → β) (s : Submission α) : Submission β := { s with action := g s.action }

/-- The line of the flat list of routes. -/
def route (s : Submission α) : Route := ⟨s.method, s.template, s.handlerName⟩

instance (s : Submission α) : Decidable s.Readable :=
  inferInstanceAs (Decidable (Template.parse s.template = .ok s.segments))

instance (s t : Submission α) : Decidable (s.SamePlace t) :=
  inferInstanceAs (Decidable (s.method = t.method ∧ s.tokens = t.tokens))

end Submission

/-- The template can be read, and no route of its method and shape is registered. -/
def Admits (registered : List (Submission α)) (s : Submission α) : Prop :=
  s.Readable ∧ ∀ t ∈ registered, ¬ t.SamePlace s

instance (registered : List (Submission α)) (s : Submission α) : Decidable (Admits registered s) :=
  inferInstanceAs (Decidable (_ ∧ _))

/-- What a route does has no part in whether it is admitted. -/
theorem admits_map_iff (g : α → β) {registered : List (Submission α)} {s : Submission α} :
    Admits (registered.map (Submission.map g)) (s.map g) ↔ Admits registered s := by
  unfold Admits
  rw [List.forall_mem_map]
  exact Iff.rfl

/-- Asks for a route for each method in turn, up to the first that is refused. -/
def takeUp (ask : Method → Submission α) :
    List Method → List (Submission α) → List (Submission α)
  | [], registered => registered
  | m :: rest, registered =>
    if Admits registered (ask m) then takeUp ask rest (registered ++ [ask m]) else registered

theorem takeUp_map (g : α → β) (ask : Method → Submission α) (methods : List Method)
    (registered : List (Submission α)) :
    (takeUp ask methods registered).map (Submission.map g) =
      takeUp (fun m => (ask m).map g) methods (registered.map (Submission.map g)) := by
  induction methods generalizing registered with
  | nil => rfl
  | cons m rest ih =>
    unfold takeUp
    simp only [admits_map_iff]
    split
    · rw [ih, List.map_append, List.map_singleton]
    · rfl

namespace Router

/-- The router holds these routes and lists them in the order of their registration. -/
structure Records (router : Router α) (registered : List (Submission α)) : Prop where
  holds : router.Holds registered
  listed : router.routes = registered.map Submission.route

theorem empty_records : (empty : Router α).Records [] := ⟨empty_holds, rfl⟩

namespace Records

variable {router : Router α} {registered : List (Submission α)} {s : Submission α}

theorem submit_ok (h : router.Records registered) {route : RouteDescription} {next : Router α}
    (ok : router.submit s = .ok (route, next)) :
    Admits registered s ∧ next.Records (registered ++ [s]) := by
  obtain ⟨readable, free, holds⟩ := h.holds.submit_ok ok
  have answered := ok.symm.trans (submit_readable readable)
  split at answered
  · cases answered
  · cases answered
    refine ⟨⟨readable, free⟩, holds, ?_⟩
    rw [List.map_append, ← h.listed]
    rfl

theorem submit_error (h : router.Records registered) {error : RouteError}
    (refused : router.submit s = .error error) : ¬ Admits registered s := by
  intro admitted
  obtain ⟨route, next, ok⟩ := h.holds.accepts_iff.mpr admitted
  rw [refused] at ok
  cases ok

/-- After any calls the router records what it recorded before and the calls that were accepted. -/
theorem addAll (h : router.Records registered) (calls : List (Submission α)) :
    (router.addAll calls).Records (registered ++ router.accepted calls) := by
  induction calls generalizing router registered with
  | nil =>
    rw [Router.accepted, List.append_nil]
    exact h
  | cons s rest ih =>
    unfold Router.addAll Router.accepted
    cases answer : router.submit s with
    | error error => exact ih h
    | ok result =>
      have later := ih (h.submit_ok answer).2
      rwa [List.append_assoc] at later

end Records

/-- From an empty router on, exactly the accepted calls are recorded. -/
theorem records_accepted (calls : List (Submission α)) :
    (empty.addAll calls).Records (empty.accepted calls) :=
  empty_records.addAll calls

end Router

end RequestDispatch.Routing
