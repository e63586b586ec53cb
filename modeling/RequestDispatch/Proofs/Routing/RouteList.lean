import RequestDispatch.Proofs.Routing.Records
import RequestDispatch.Proofs.Routing.Walks

/-!
# The list of routes and the tree

A router keeps its routes twice: in the tree, where splits move them about, and in a flat list.  After any
calls both describe the same routes, and the largest number of parameters is that of the listed templates
(`Router.Mirrors`).  A walk comes to each listed route once, and no lookup depends on what it leaves there
(`Router.tree_mirrors_list`).
-/

namespace RequestDispatch.Routing

variable {α β σ : Type}

/-- The line of the flat list that describes an endpoint. -/
def Endpoint.listing (e : Endpoint α) : Route :=
  ⟨e.route.method, e.route.template, e.route.handlerName⟩

/-- Number of parameters that the template of a listed route captures. -/
def Route.paramCount (r : Route) : Nat :=
  match Template.parse r.path with
  | .ok segments => (paramNames segments).length
  | .error _ => 0

/-- An endpoint lies where its own template leads, for its own method, and has the names of the
template. -/
structure Entry.Own (e : Entry (Endpoint α)) : Prop where
  method : e.method = e.value.route.method
  template : ∃ segments, Template.parse e.value.route.template = .ok segments ∧
    shape segments = e.tokens ∧ paramNames segments = e.value.route.paramNames

namespace Router

/-- The tree and the list describe the same routes. -/
structure Mirrors (router : Router α) : Prop where
  /-- One endpoint for each line, and one line for each endpoint. -/
  endpoints : (router.root.values.map Endpoint.listing).Perm router.routes
  once : router.routes.Nodup
  own : ∀ e ∈ router.root.entries, e.Own
  /-- The largest number of parameters of a listed route, and zero without routes. -/
  maxParams : router.maxParams = (router.routes.map Route.paramCount).max?.getD 0

/-- Visits every endpoint and puts in its place what the visit makes of it. -/
def walk (visit : Endpoint α → StateM σ (Endpoint β)) (router : Router α) : StateM σ (Router β) := do
  return ⟨← router.root.walk visit, router.routes, router.maxParams⟩

end Router

theorem Submission.paramCount_route (s : Submission α) :
    s.route.paramCount = (paramNames s.segments).length := by
  unfold Route.paramCount Submission.segments Submission.route
  cases Template.parse s.template with
  | ok segments => rfl
  | error error => rfl

theorem Submission.own_entry {s : Submission α} (h : s.Readable) : s.entry.Own :=
  ⟨rfl, s.segments, h, rfl, rfl⟩

namespace Router

/-- An accepted call raises the largest number of parameters to that of its template. -/
theorem maxParams_of_submit {router next : Router α} {s : Submission α} {route : RouteDescription}
    (ok : router.submit s = .ok (route, next)) :
    next.maxParams = max router.maxParams s.route.paramCount := by
  have readable : s.Readable := by
    by_contra unreadable
    obtain ⟨error, refused⟩ := submit_unreadable router unreadable
    rw [refused] at ok
    cases ok
  rw [submit_readable readable] at ok
  split at ok
  · cases ok
  · cases ok
    rw [Submission.paramCount_route]

theorem maxParams_addAll (router : Router α) (calls : List (Submission α)) :
    (router.addAll calls).maxParams =
      ((router.accepted calls).map fun s => s.route.paramCount).foldl max router.maxParams := by
  induction calls generalizing router with
  | nil => rfl
  | cons s rest ih =>
    unfold addAll accepted
    cases answer : router.submit s with
    | error error => exact ih router
    | ok result =>
      have raised := maxParams_of_submit answer
      rw [List.map_cons, List.foldl_cons, ← raised]
      exact ih result.2

theorem foldl_max_zero (counts : List Nat) : counts.foldl max 0 = counts.max?.getD 0 := by
  cases counts with
  | nil => rfl
  | cons n rest => rw [List.max?_cons', Option.getD_some, List.foldl_cons, Nat.zero_max]

namespace Records

variable {router : Router α} {registered : List (Submission α)}

theorem endpoints_perm (h : router.Records registered) :
    router.root.values.Perm (registered.map Submission.endpoint) := by
  have entries := h.holds.entries.map Entry.value
  rw [List.map_map] at entries
  exact router.root.values_perm_entries.trans entries

theorem listings_perm (h : router.Records registered) :
    (router.root.values.map Endpoint.listing).Perm router.routes := by
  have listed := h.endpoints_perm.map Endpoint.listing
  rw [List.map_map] at listed
  rw [h.listed]
  exact listed

/-- No two routes of one method and one template are listed. -/
theorem nodup_routes (h : router.Records registered) : router.routes.Nodup := by
  rw [h.listed]
  refine List.pairwise_map.mpr (h.holds.distinct.imp fun {s t} apart same => apart ?_)
  have methods : s.method = t.method := congrArg Route.method same
  have templates : s.template = t.template := congrArg Route.path same
  refine ⟨methods, ?_⟩
  unfold Submission.tokens Submission.segments
  rw [templates]

theorem own_of_mem_entries (h : router.Records registered) :
    ∀ e ∈ router.root.entries, e.Own := by
  intro e mem
  obtain ⟨s, here, rfl⟩ := h.holds.mem_entries_iff.mp mem
  exact Submission.own_entry (h.holds.readable s here)

end Records

theorem mirrors_accepted (calls : List (Submission α)) : (empty.addAll calls).Mirrors where
  endpoints := (records_accepted calls).listings_perm
  once := (records_accepted calls).nodup_routes
  own := (records_accepted calls).own_of_mem_entries
  maxParams := by
    rw [maxParams_addAll, (records_accepted calls).listed, List.map_map, ← foldl_max_zero]
    rfl

/-- Replacing the action of every route, as composing middleware does, is a walk. -/
theorem walk_pure (g : α → β) (router : Router α) :
    router.walk (fun e => (return ⟨e.route, g e.action⟩ : StateM σ (Endpoint β))) =
      return router.map g := by
  rw [walk, Node.walk_pure]
  rfl

/-- What a walk of a router does. -/
theorem walk_spec (router : Router α) (visit : Endpoint α → StateM σ (Endpoint β)) (s : σ) :
    let after := ((router.walk visit).run s).1
    (after.root.values, ((router.walk visit).run s).2) = (router.root.values.mapM visit).run s ∧
      ∀ m path buffer,
        (router.lookup m path buffer).1.Related
            (fun e e' => (e, e') ∈ router.root.values.zip after.root.values)
            (after.lookup m path buffer).1 ∧
          (router.lookup m path buffer).2 = (after.lookup m path buffer).2 := by
  intro after
  refine ⟨?_, lookup_related (router.root.related_of_walk visit s)⟩
  have walked := router.root.walk_walks visit s
  simp only [Prod.mk.injEq] at walked
  exact Prod.ext walked.1.1 walked.2

/-- After any calls the tree and the list describe the same routes.  A walk of the tree visits each listed
route once, in some order, and every lookup decides as before: it finds what the visit made of the endpoint
that it found before.  Composing middleware is such a walk. -/
theorem tree_mirrors_list (calls : List (Submission α)) :
    let router := empty.addAll calls
    router.Mirrors ∧
      (∀ {β σ : Type} (visit : Endpoint α → StateM σ (Endpoint β)) (s : σ),
        let after := ((router.walk visit).run s).1
        (after.root.values, ((router.walk visit).run s).2) =
            (router.root.values.mapM visit).run s ∧
          ∀ m path buffer,
            (router.lookup m path buffer).1.Related
                (fun e e' => (e, e') ∈ router.root.values.zip after.root.values)
                (after.lookup m path buffer).1 ∧
              (router.lookup m path buffer).2 = (after.lookup m path buffer).2) ∧
      ∀ {β σ : Type} (g : α → β),
        router.walk (fun e => (return ⟨e.route, g e.action⟩ : StateM σ (Endpoint β))) =
          return router.map g :=
  ⟨mirrors_accepted calls, fun visit s => walk_spec _ visit s, fun g => walk_pure g _⟩

end Router
end RequestDispatch.Routing
