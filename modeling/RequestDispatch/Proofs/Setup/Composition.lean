import RequestDispatch.Proofs.Routing.Canonicity
import RequestDispatch.Proofs.Routing.Resolution
import RequestDispatch.Proofs.Setup.Enrollment
import RequestDispatch.Serving.Engine

/-!
# The middleware around a handler

What a service built after any setup history executes: the handler of the accepted route that a lookup
finds, inside all global middleware and then the stack of the group that owns the route, or a fallback
inside the global middleware alone (`Dispatcher.build_composes`).  A chain that is composed again is
replaced (`Service.recompose_recompose`).
-/

namespace RequestDispatch

open Routing

namespace Routing

variable {α β γ : Type}

theorem Stop.map_map (f : α → β) (g : β → γ) (stop : Stop α) :
    (stop.map f).map g = stop.map (g ∘ f) := by
  simp [Stop.map, Function.comp_def]

theorem Tree.map_map (f : α → β) (g : β → γ) (tree : Tree α) :
    (tree.map f).map g = tree.map (g ∘ f) := by
  induction tree with
  | leaf => rfl
  | param stop below ih => simp only [Tree.map, Stop.map_map, ih]
  | literal label stop below siblings ihBelow ihSiblings =>
    simp only [Tree.map, Stop.map_map, ihBelow, ihSiblings]

namespace Router

theorem map_map (f : α → β) (g : β → γ) (router : Router α) :
    (router.map f).map g = router.map (g ∘ f) := by
  simp only [Router.map, Node.map, Stop.map_map, Tree.map_map]
  rfl

/-- What the routes do has no part in where they are held. -/
theorem Records.map {router : Router α} {registered : List (Submission α)}
    (h : router.Records registered) (g : α → β) :
    (router.map g).Records (registered.map (Submission.map g)) where
  holds := {
    wellFormed := ⟨Stop.hasOwners_map _ h.holds.wellFormed.1, Tree.wellFormed_map _ h.holds.wellFormed.2⟩
    entries := by
      have mapped := h.holds.entries.map (Entry.map fun e => (⟨e.route, g e.action⟩ : Endpoint β))
      rw [Router.map, Node.entries_map]
      rw [List.map_map] at mapped ⊢
      exact mapped
    readable := List.forall_mem_map.mpr h.holds.readable
    distinct := List.pairwise_map.mpr h.holds.distinct }
  listed := by
    rw [List.map_map]
    exact h.listed

end Router

theorem Wins.map {registered : List (Submission α)} {m : Method} {path : String}
    {s : Submission α} (h : Wins registered m path s) (g : α → β) :
    Wins (registered.map (Submission.map g)) m path (s.map g) where
  mem := List.mem_map_of_mem h.mem
  method := h.method
  matching := h.matching
  best := List.forall_mem_map.mpr fun t mem method matching other =>
    h.best t mem method matching fun same => other (congrArg (Submission.map g) same)

end Routing

/-- A chain inside further middleware. -/
def Chain.inside (outer : List Middleware) (chain : Chain) : Chain :=
  ⟨outer ++ chain.layers, chain.handler⟩

/-- A handler on its own. -/
def Stage.ofHandler (nested : Nested) (handler : Handler) : Stage := fun c e =>
  (handler.program c).run nested .finish e

/-- A handler wrapped in middleware, the first outermost. -/
def Stage.wrapped (nested : Nested) (layers : List Middleware) (stage : Stage) : Stage :=
  layers.foldr (Middleware.around nested) stage

theorem Chain.run_inside (nested : Nested) (outer : List Middleware) (chain : Chain) :
    (chain.inside outer).run nested =
      .wrapped nested outer
        (.wrapped nested chain.layers (.ofHandler nested chain.handler)) :=
  List.foldr_append

/-- What a service executes for a method and a path when these routes are accepted, each under the
stack of its group. -/
inductive Executes (nested : Nested) (routes : List (Submission Chain)) (global : List Middleware)
    (notFound methodNotAllowed : Handler) (m : Method) (path : String) : Stage → Prop
  | route (r : Submission Chain) (wins : Wins routes m path r) :
      Executes nested routes global notFound methodNotAllowed m path
        (.wrapped nested global
          (.wrapped nested r.action.layers (.ofHandler nested r.action.handler)))
  | methodNotAllowed (missing : ∀ r ∈ routes, r.method = m → ¬ Template.Matches r.template path)
      (other : ∃ r ∈ routes, Template.Matches r.template path) :
      Executes nested routes global notFound methodNotAllowed m path
        (.wrapped nested global (.ofHandler nested methodNotAllowed))
  | notFound (missing : ∀ r ∈ routes, ¬ Template.Matches r.template path) :
      Executes nested routes global notFound methodNotAllowed m path
        (.wrapped nested global (.ofHandler nested notFound))

namespace Service

/-- The service with every chain composed again, from the handlers as they were registered, under the
middleware and the stacks of a dispatcher. -/
def recompose (s : Service) (d : Dispatcher) : Service :=
  { s with
    router := s.router.map d.compose
    notFound := ⟨d.middleware, s.notFound.handler⟩
    methodNotAllowed := ⟨d.middleware, s.methodNotAllowed.handler⟩ }

/-- Composing again replaces what was composed before. -/
theorem recompose_recompose (s : Service) (d d' : Dispatcher) :
    (s.recompose d).recompose d' = s.recompose d' := by
  unfold recompose
  rw [Router.map_map]
  rfl

end Service

namespace Dispatcher

/-- Composing a service again is building from the handlers as they were registered. -/
theorem recompose_build (d d' : Dispatcher) :
    d.build.recompose d' =
      build { d with middleware := d'.middleware, scopes := d'.scopes } := by
  unfold Service.recompose build
  rw [Router.map_map]
  rfl

/-- The dispatcher after a history of registrations. -/
def after (config : DispatchSettings) (history : List Registration) : Dispatcher :=
  (Setup.on (create config) (Registration.performAll .outside history)).2.1

theorem after_carriedOut (config : DispatchSettings) (history : List Registration) :
    Registration.CarriedOut .outside history (create config) (after config history) := by
  obtain ⟨answers, s', ran, carried⟩ :=
    Registration.performAll_carriedOut .outside history ⟨create config, []⟩ nofun
  unfold after Setup.on
  rw [ran]
  exact carried

/-- The routes after a history, under the stacks it has left. -/
theorem after_records (config : DispatchSettings) (history : List Registration) :
    ∃ registered, (after config history).router.Records registered ∧
      registered.map (Submission.map (Mount.under (after config history).scope)) =
        Registration.enrolled history := by
  obtain ⟨next, records, routes⟩ := (after_carriedOut config history).routes [] Router.empty_records
  exact ⟨next, records, routes _ fun _ _ _ => rfl⟩

theorem chain_compose (d : Dispatcher) (mount : Mount) :
    (d.compose mount).chain = (mount.under d.scope).inside d.middleware :=
  rfl

/-- The chains of a build, each of a route that is registered. -/
theorem records_build {d : Dispatcher} {registered : List (Submission Mount)}
    (records : d.router.Records registered) :
    (d.build.router.map Mount.chain).Records
      ((registered.map (Submission.map (Mount.under d.scope))).map
        (Submission.map (Chain.inside d.middleware))) := by
  have composed := (records.map d.compose).map Mount.chain
  rw [List.map_map] at composed ⊢
  exact composed

/-- A build executes the routes that are registered, each under the stack of its scope. -/
theorem executes_of_records {d : Dispatcher} {registered : List (Submission Mount)}
    (records : d.router.Records registered) (nested : Nested) (c : Context) :
    Executes nested (registered.map (Submission.map (Mount.under d.scope))) d.middleware d.notFound
      d.methodNotAllowed c.method c.path ((d.build.find c).1.run nested) := by
  -- the routes of the build are those registered, composed; composing keeps what they stand under
  have resolved := (records.map d.compose).holds.resolves c.method c.path c.captures
  have same : (registered.map (Submission.map d.compose)).map (Submission.map (Mount.under d.scope)) =
      registered.map (Submission.map (Mount.under d.scope)) := by
    rw [List.map_map]
    rfl
  rw [← same]
  change Resolves _ _ _ (d.build.router.lookup c.method c.path c.captures) at resolved
  unfold Service.find
  generalize d.build.router.lookup c.method c.path c.captures = result at resolved
  cases resolved with
  | found s values captures readable wins filled places =>
    obtain ⟨t, mem, rfl⟩ := List.mem_map.mp wins.mem
    change Executes _ _ _ _ _ _ _ ((d.compose t.action).chain.run nested)
    rw [chain_compose, Chain.run_inside]
    exact .route _ (wins.map (Mount.under d.scope))
  | methodNotAllowed allowed captures nonempty distinct offered missing cleared =>
    obtain ⟨x, listed⟩ := List.exists_mem_of_ne_nil _ nonempty
    obtain ⟨s, mem, _, matching⟩ := (offered x).mp listed
    exact .methodNotAllowed (List.forall_mem_map.mpr missing)
      ⟨_, List.mem_map_of_mem mem, matching⟩
  | notFound captures missing cleared => exact .notFound (List.forall_mem_map.mpr missing)

/-- What is built after any history holds exactly the accepted routes of the history, each with its
handler inside all global middleware and then the stack of the group that owns it; it executes them so,
and the fallbacks inside the global middleware alone; and composing it again under any middleware and
stacks gives what would have been built from these. -/
theorem build_composes (config : DispatchSettings) (history : List Registration) :
    let d := after config history
    let global := Registration.additionsAll history
    let routes := Registration.enrolled history
    let notFound := Registration.latest Registration.notFound? .notFound
      (Registration.leavesAll history)
    let methodNotAllowed := Registration.latest Registration.methodNotAllowed? .methodNotAllowed
      (Registration.leavesAll history)
    (d.build.router.map Mount.chain).Records (routes.map (Submission.map (Chain.inside global))) ∧
      d.build.notFound = ⟨global, notFound⟩ ∧ d.build.methodNotAllowed = ⟨global, methodNotAllowed⟩ ∧
      (∀ nested c, Executes nested routes global notFound methodNotAllowed c.method c.path
        ((d.build.find c).1.run nested)) ∧
      ∀ d' d'' : Dispatcher,
        d.build.recompose d' = build { d with middleware := d'.middleware, scopes := d'.scopes } ∧
          (d.build.recompose d').recompose d'' = d.build.recompose d'' := by
  intro d global routes notFound methodNotAllowed
  have carried := after_carriedOut config history
  have middleware : d.middleware = global := carried.middleware.trans (List.nil_append _)
  have fallback : d.notFound = notFound := carried.notFound
  have fallback' : d.methodNotAllowed = methodNotAllowed := carried.methodNotAllowed
  obtain ⟨registered, records, same⟩ : ∃ registered, d.router.Records registered ∧
      registered.map (Submission.map (Mount.under d.scope)) = routes := after_records config history
  refine ⟨?_, ?_, ?_, fun nested c => ?_, fun d' d'' =>
    ⟨recompose_build d d', Service.recompose_recompose d.build d' d''⟩⟩
  · have composed := (records.map d.compose).map Mount.chain
    have chains : (registered.map (Submission.map d.compose)).map (Submission.map Mount.chain) =
        routes.map (Submission.map (Chain.inside global)) := by
      rw [← middleware, ← same, List.map_map, List.map_map]
      rfl
    rwa [chains] at composed
  · exact congrArg₂ Chain.mk middleware fallback
  · exact congrArg₂ Chain.mk middleware fallback'
  · have executes := executes_of_records records nested c
    rwa [same, middleware, fallback, fallback'] at executes

/-- A nested group starts with the stack its parent has by then.  What the parent gets later wraps the
parent's own routes, those added before it too, and not those of the nested group. -/
example :
    let named (name : String) : Registration := .use (.before name .ok)
    let history : List Registration :=
      [.group "/a" false
        [named "early", .route [.get] "/x" .echo,
          .group "/b" false [named "inner", .route [.get] "/y" .echo], named "late"]]
    (Registration.enrolled history).map
        (fun r => (r.template, r.action.layers.map Middleware.name)) =
      [("/a/x", ["early", "late"]), ("/a/b/y", ["early", "inner"])] := by
  decide +kernel

end Dispatcher
end RequestDispatch
