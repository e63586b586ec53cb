import RequestDispatch.Proofs.Setup.Steps

/-!
# The routes of a setup history

Which routes a history of registrations leads to, and under which stack of group middleware, read off
the history as it is written: a group starts with the stack its parent has at that point and ends up
with it and all middleware added to it (`Registration.enroll`).  Scope numbers have no part in this.

Carrying out the history leads there (`performAll_carriedOut`).  The induction is on the history; what
the routes of a group that is still open will run under depends on the steps to come, so the routes are
compared under any numbering of stacks that agrees with the one the history leaves.
-/

namespace RequestDispatch

open Routing

namespace Registration

/-- The middleware that a step adds where it stands. -/
def additions : Registration → List Middleware
  | .use middleware => [middleware]
  | _ => []

/-- The middleware that steps add where they stand, in order; that of groups inside is not theirs. -/
def additionsAll (steps : List Registration) : List Middleware := steps.flatMap additions

/-- A route as it is asked for, under the stack of the group that owns it. -/
def underStack (stack : List Middleware) (template : String) (handler : Handler) (m : Method) :
    Submission Chain :=
  ⟨m, template, handler.name, ⟨stack, handler⟩⟩

mutual

/-- The routes there are after a step.  The step stands under the path `base`, in a group that ends up
with the stack `final` and has the stack `now` before the step; outside groups there is none. -/
def enroll (base : String) (final : List Middleware) (now : Option (List Middleware)) :
    Registration → List (Submission Chain) → List (Submission Chain)
  | .route methods path handler, routes =>
    takeUp (underStack final (join "" (join base path)) handler) (Setup.orGet methods) routes
  | .group path _ body, routes =>
    let stack := now.getD []
    enrollAll (join base path) (stack ++ additionsAll body) (some stack) body routes
  | _, routes => routes

/-- The routes there are after steps that stand side by side. -/
def enrollAll (base : String) (final : List Middleware) (now : Option (List Middleware)) :
    List Registration → List (Submission Chain) → List (Submission Chain)
  | [], routes => routes
  | step :: rest, routes =>
    enrollAll base final (now.map (· ++ step.additions)) rest (enroll base final now step routes)

end

/-- The accepted routes of a history, in order, each under the stack of the group that owns it. -/
def enrolled (history : List Registration) : List (Submission Chain) :=
  enrollAll "" [] none history []

mutual

/-- The steps of a history without the groups around them. -/
def leaves : Registration → List Registration
  | .group _ _ body => leavesAll body
  | step => [step]

def leavesAll : List Registration → List Registration
  | [] => []
  | step :: rest => leaves step ++ leavesAll rest

end

/-- What was set last, or what there was before. -/
def latest {α : Type} (pick : Registration → Option α) (before : α) (steps : List Registration) : α :=
  steps.foldl (fun value step => (pick step).getD value) before

def notFound? : Registration → Option Handler
  | .notFound handler => some handler
  | _ => none

def methodNotAllowed? : Registration → Option Handler
  | .methodNotAllowed handler => some handler
  | _ => none

def errorHandler? : Registration → Option ErrorHandler
  | .errorHandler run => some run
  | _ => none

end Registration

/-- The chain of a route under a numbering of stacks. -/
def Mount.under (stackOf : Nat → List Middleware) (mount : Mount) : Chain :=
  ⟨(mount.scope.map stackOf).getD [], mount.chain.handler⟩

namespace Registration

/-- Steps carried out at a site lead from one dispatcher to another. -/
structure CarriedOut (site : Site) (steps : List Registration) (d d' : Dispatcher) : Prop where
  /-- Middleware is global outside groups only. -/
  middleware : d'.middleware = d.middleware ++ if site.scope.isSome then [] else additionsAll steps
  notFound : d'.notFound = latest notFound? d.notFound (leavesAll steps)
  methodNotAllowed :
    d'.methodNotAllowed = latest methodNotAllowed? d.methodNotAllowed (leavesAll steps)
  errorHandler : d'.errorHandler = latest errorHandler? d.errorHandler (leavesAll steps)
  growing : d.scopes.length ≤ d'.scopes.length
  /-- The stacks of other groups stay as they are. -/
  others : ∀ i < d.scopes.length, site.scope ≠ some i → d'.scope i = d.scope i
  own : ∀ i, site.scope = some i → d'.scope i = d.scope i ++ additionsAll steps
  routes : ∀ registered, d.router.Records registered →
    ∃ next, d'.router.Records next ∧ ∀ stackOf : Nat → List Middleware,
      (∀ i, d.scopes.length ≤ i → i < d'.scopes.length → stackOf i = d'.scope i) →
        next.map (Submission.map (Mount.under stackOf)) =
          enrollAll site.path ((site.scope.map stackOf).getD []) (site.scope.map d.scope) steps
            (registered.map (Submission.map (Mount.under stackOf)))

/-- The site stands outside groups or in a group that has been opened. -/
def Opened (site : Site) (d : Dispatcher) : Prop := ∀ i, site.scope = some i → i < d.scopes.length

theorem opened_group (site : Site) (path : String) (d : Dispatcher) :
    Opened (Setup.opened site path d).1 (Setup.opened site path d).2 := by
  intro i own
  cases own
  rw [Setup.opened, List.length_append]
  exact Nat.lt_succ_self _

theorem CarriedOut.nil (site : Site) (d : Dispatcher) : CarriedOut site [] d d where
  middleware := by simp [additionsAll]
  notFound := rfl
  methodNotAllowed := rfl
  errorHandler := rfl
  growing := Nat.le_refl _
  others := fun _ _ _ => rfl
  own := fun i _ => by simp [additionsAll]
  routes := fun registered records => ⟨registered, records, fun _ _ => rfl⟩

theorem additionsAll_append (steps rest : List Registration) :
    additionsAll (steps ++ rest) = additionsAll steps ++ additionsAll rest :=
  List.flatMap_append

theorem leavesAll_append (steps rest : List Registration) :
    leavesAll (steps ++ rest) = leavesAll steps ++ leavesAll rest := by
  induction steps with
  | nil => rfl
  | cons step steps ih => rw [List.cons_append, leavesAll, ih, leavesAll, List.append_assoc]

theorem latest_append {α : Type} (pick : Registration → Option α) (before : α)
    (steps rest : List Registration) :
    latest pick before (leavesAll (steps ++ rest)) =
      latest pick (latest pick before (leavesAll steps)) (leavesAll rest) := by
  rw [latest, latest, latest, leavesAll_append, List.foldl_append]

/-- Steps after others stand in a group that has got the middleware of these. -/
theorem enrollAll_append (base : String) (final : List Middleware)
    (now : Option (List Middleware)) (steps rest : List Registration)
    (routes : List (Submission Chain)) :
    enrollAll base final now (steps ++ rest) routes =
      enrollAll base final (now.map (· ++ additionsAll steps)) rest
        (enrollAll base final now steps routes) := by
  induction steps generalizing now routes with
  | nil => simp [additionsAll, enrollAll]
  | cons step steps ih =>
    rw [List.cons_append, enrollAll, ih, enrollAll, Option.map_map]
    congr 2
    funext stack
    simp [additionsAll]

/-- Steps and the steps after them. -/
theorem CarriedOut.append {site : Site} {steps rest : List Registration}
    {d d' d'' : Dispatcher} (opened : Opened site d) (first : CarriedOut site steps d d')
    (later : CarriedOut site rest d' d'') : CarriedOut site (steps ++ rest) d d'' where
  middleware := by
    rw [later.middleware, first.middleware]
    by_cases inside : site.scope.isSome = true
    · simp [inside]
    · simp [inside, additionsAll_append]
  notFound := by rw [later.notFound, first.notFound, latest_append]
  methodNotAllowed := by rw [later.methodNotAllowed, first.methodNotAllowed, latest_append]
  errorHandler := by rw [later.errorHandler, first.errorHandler, latest_append]
  growing := Nat.le_trans first.growing later.growing
  others := fun i below other =>
    (later.others i (Nat.lt_of_lt_of_le below first.growing) other).trans (first.others i below other)
  own := fun i own => by
    rw [later.own i own, first.own i own, additionsAll_append, List.append_assoc]
  routes := by
    intro registered records
    obtain ⟨middle, recordsMiddle, firstRoutes⟩ := first.routes registered records
    obtain ⟨next, recordsNext, laterRoutes⟩ := later.routes middle recordsMiddle
    refine ⟨next, recordsNext, fun stackOf agree => ?_⟩
    -- the stacks of groups opened by the first steps are closed when the others are carried out
    have agreeFirst : ∀ i, d.scopes.length ≤ i → i < d'.scopes.length → stackOf i = d'.scope i := by
      intro i opening below
      have other : site.scope ≠ some i := by
        intro own
        exact absurd (opened i own) (Nat.not_lt.mpr opening)
      rw [agree i opening (Nat.lt_of_lt_of_le below later.growing), later.others i below other]
    have agreeLater : ∀ i, d'.scopes.length ≤ i → i < d''.scopes.length → stackOf i = d''.scope i :=
      fun i opening below => agree i (Nat.le_trans first.growing opening) below
    have grown : site.scope.map d'.scope =
        (site.scope.map d.scope).map (· ++ additionsAll steps) := by
      cases own : site.scope with
      | none => rfl
      | some i => exact congrArg some (first.own i own)
    rw [laterRoutes stackOf agreeLater, firstRoutes stackOf agreeFirst, grown, enrollAll_append]

/-- A step that touches neither routes nor stacks. -/
theorem CarriedOut.of_fixed {site : Site} {step : Registration} {d d' : Dispatcher}
    (middleware : d'.middleware = d.middleware) (router : d'.router = d.router)
    (scopes : d'.scopes = d.scopes) (adds : step.additions = [])
    (notFound : d'.notFound = latest notFound? d.notFound (leavesAll [step]))
    (methodNotAllowed :
      d'.methodNotAllowed = latest methodNotAllowed? d.methodNotAllowed (leavesAll [step]))
    (errorHandler : d'.errorHandler = latest errorHandler? d.errorHandler (leavesAll [step]))
    (enrolls : ∀ base final now routes, enroll base final now step routes = routes) :
    CarriedOut site [step] d d' where
  middleware := by simp [middleware, additionsAll, adds]
  notFound := notFound
  methodNotAllowed := methodNotAllowed
  errorHandler := errorHandler
  growing := Nat.le_of_eq (congrArg List.length scopes.symm)
  others := fun i _ _ => by simp only [Dispatcher.scope, scopes]
  own := fun i _ => by simp [Dispatcher.scope, scopes, additionsAll, adds]
  routes := fun registered records =>
    ⟨registered, by rwa [router], fun stackOf _ => by simp [enrollAll, enrolls]⟩

theorem carriedOut_use {site : Site} {d : Dispatcher} (opened : Opened site d) (m : Middleware) :
    CarriedOut site [.use m] d (Setup.used site m d) := by
  rcases site with ⟨base, _ | id⟩
  · exact {
      middleware := rfl
      notFound := rfl
      methodNotAllowed := rfl
      errorHandler := rfl
      growing := Nat.le_refl _
      others := fun _ _ _ => rfl
      own := nofun
      routes := fun registered records => ⟨registered, records, fun _ _ => rfl⟩ }
  · exact {
      middleware := (List.append_nil _).symm
      notFound := rfl
      methodNotAllowed := rfl
      errorHandler := rfl
      growing := Nat.le_of_eq (List.length_modify ..).symm
      others := fun i _ other => by
        have apart : id ≠ i := fun same => other (congrArg some same)
        simp [Dispatcher.scope, Setup.used, apart]
      own := fun i own => by
        have below := opened i own
        cases own
        simp [Dispatcher.scope, Setup.used, below, additionsAll, additions]
      routes := fun registered records => ⟨registered, records, fun _ _ => rfl⟩ }

theorem carriedOut_route {site : Site} {d : Dispatcher} {router : Router Mount}
    {methods : List Method} {path : String} {handler : Handler}
    (taken : ∀ registered, d.router.Records registered → router.Records
      (takeUp (Setup.request site.scope (Setup.templateAt site path) handler)
        (Setup.orGet methods) registered)) :
    CarriedOut site [.route methods path handler] d { d with router := router } where
  middleware := by simp [additionsAll, additions]
  notFound := rfl
  methodNotAllowed := rfl
  errorHandler := rfl
  growing := Nat.le_refl _
  others := fun _ _ _ => rfl
  own := fun i _ => by simp [Dispatcher.scope, additionsAll, additions]
  routes := fun registered records => by
    refine ⟨_, taken registered records, fun stackOf _ => ?_⟩
    rw [takeUp_map]
    rfl

/-- The steps inside a group are those of the group's own site; around it nothing else changes. -/
theorem carriedOut_group {site : Site} {d d' : Dispatcher} {path : String} {strict : Bool}
    {body : List Registration} (opened : Opened site d)
    (inside : CarriedOut (Setup.opened site path d).1 body (Setup.opened site path d).2 d') :
    CarriedOut site [.group path strict body] d d' := by
  have longer : d.scopes.length + 1 ≤ d'.scopes.length := by
    have grown := inside.growing
    rwa [Setup.opened, List.length_append, List.length_singleton] at grown
  have kept : ∀ i < d.scopes.length, d'.scope i = d.scope i := by
    intro i below
    have outside : (Setup.opened site path d).1.scope ≠ some i :=
      fun same => absurd (Option.some.inj same) (Nat.ne_of_gt below)
    have present : i < (Setup.opened site path d).2.scopes.length := by
      rw [Setup.opened, List.length_append]
      exact Nat.lt_of_lt_of_le below (Nat.le_add_right ..)
    rw [inside.others i present outside, Setup.scope_opened_of_lt site path below]
  have stack : d'.scope d.scopes.length = Setup.inherited d site ++ additionsAll body := by
    rw [inside.own d.scopes.length rfl, Setup.scope_opened_self]
  have whole : leavesAll [.group path strict body] = leavesAll body := List.append_nil _
  exact {
    middleware := by
      rw [inside.middleware]
      simp [Setup.opened, additionsAll, additions]
    notFound := whole ▸ inside.notFound
    methodNotAllowed := whole ▸ inside.methodNotAllowed
    errorHandler := whole ▸ inside.errorHandler
    growing := Nat.le_of_succ_le longer
    others := fun i below _ => kept i below
    own := fun i own => by
      rw [kept i (opened i own)]
      simp [additionsAll, additions]
    routes := fun registered records => by
      obtain ⟨next, recordsNext, routes⟩ := inside.routes registered records
      refine ⟨next, recordsNext, fun stackOf agree => ?_⟩
      have agreeInside : ∀ i, (Setup.opened site path d).2.scopes.length ≤ i →
          i < d'.scopes.length → stackOf i = d'.scope i := by
        intro i opening below
        rw [Setup.opened, List.length_append] at opening
        exact agree i (Nat.le_trans (Nat.le_add_right ..) opening) below
      have final : stackOf d.scopes.length = Setup.inherited d site ++ additionsAll body :=
        (agree _ (Nat.le_refl _) longer).trans stack
      have start : (Setup.opened site path d).1.scope.map (Setup.opened site path d).2.scope =
          some (Setup.inherited d site) := congrArg some (Setup.scope_opened_self site path d)
      rw [routes stackOf agreeInside, start]
      change enrollAll _ (stackOf d.scopes.length) _ _ _ = _
      rw [final]
      rfl }

mutual

theorem perform_carriedOut (site : Site) (step : Registration) (s : SetupState)
    (opened : Opened site s.dispatcher) :
    ∃ answer s', (perform site step).run s = (.ok answer, s') ∧
      CarriedOut site [step] s.dispatcher s'.dispatcher :=
  match step with
  | .route methods path handler => by
    obtain ⟨result, router, events, ran, taken⟩ := Setup.route_run site methods path handler s
    obtain ⟨answer, ranAnswer⟩ := answer_run
      (do Setup.route site methods path handler; return .done) s
    have left : ((do Setup.route site methods path handler; return .done : Setup SetupAnswer).run s).2 =
        ⟨{ s.dispatcher with router := router }, events⟩ := by
      rw [Setup.run_bind, ran]
      rcases result with _ | _
      · rfl
      · rfl
    rw [left] at ranAnswer
    exact ⟨answer, _, ranAnswer, carriedOut_route taken⟩
  | .use m => by
    obtain ⟨events, ran⟩ := Setup.use_run site m s
    refine ⟨.done, ⟨Setup.used site m s.dispatcher, events⟩, ?_, carriedOut_use opened m⟩
    rw [perform, Setup.run_bind, ran]
    rfl
  | .group path strict body => by
    obtain ⟨events, ran⟩ := Setup.openGroup_run site path s
    obtain ⟨answers, s', ranBody, inside⟩ := performAll_carriedOut
      (Setup.opened site path s.dispatcher).1 body
      ⟨(Setup.opened site path s.dispatcher).2, events⟩ (opened_group site path s.dispatcher)
    have ends : ∃ answer, (perform site (.group path strict body)).run s = (.ok answer, s') := by
      rw [perform, Setup.run_bind, ran]
      change ∃ answer, (performAll _ body >>= _).run _ = _
      rw [Setup.run_bind, ranBody]
      dsimp only
      split
      · exact ⟨_, rfl⟩
      · exact ⟨_, rfl⟩
    obtain ⟨answer, ranGroup⟩ := ends
    exact ⟨answer, s', ranGroup, carriedOut_group opened inside⟩
  | .debug on => by
    refine ⟨.debug on, _, rfl, ?_⟩
    exact .of_fixed rfl rfl rfl rfl rfl rfl rfl (fun _ _ _ _ => rfl)
  | .notFound handler => ⟨.done, _, rfl, .of_fixed rfl rfl rfl rfl rfl rfl rfl (fun _ _ _ _ => rfl)⟩
  | .methodNotAllowed handler =>
    ⟨.done, _, rfl, .of_fixed rfl rfl rfl rfl rfl rfl rfl (fun _ _ _ _ => rfl)⟩
  | .errorHandler run => ⟨.done, _, rfl, .of_fixed rfl rfl rfl rfl rfl rfl rfl (fun _ _ _ _ => rfl)⟩
  | .hook run => ⟨.done, _, rfl, .of_fixed rfl rfl rfl rfl rfl rfl rfl (fun _ _ _ _ => rfl)⟩
  | .refuse reason =>
    ⟨.failed (.refused reason), s, rfl, .of_fixed rfl rfl rfl rfl rfl rfl rfl (fun _ _ _ _ => rfl)⟩
termination_by structural step

theorem performAll_carriedOut (site : Site) (steps : List Registration) (s : SetupState)
    (opened : Opened site s.dispatcher) :
    ∃ answers s', (performAll site steps).run s = (.ok answers, s') ∧
      CarriedOut site steps s.dispatcher s'.dispatcher :=
  match steps with
  | [] => ⟨[], s, rfl, .nil site s.dispatcher⟩
  | step :: rest => by
    obtain ⟨answer, s', ranStep, first⟩ := perform_carriedOut site step s opened
    have openedRest : Opened site s'.dispatcher :=
      fun i own => Nat.lt_of_lt_of_le (opened i own) first.growing
    obtain ⟨answers, s'', ranRest, later⟩ := performAll_carriedOut site rest s' openedRest
    refine ⟨answer :: answers, s'', ?_, .append opened first later⟩
    rw [performAll, Setup.run_bind, ranStep]
    change (performAll site rest >>= _).run s' = _
    rw [Setup.run_bind, ranRest]
    rfl
termination_by structural steps

end

end Registration
end RequestDispatch
