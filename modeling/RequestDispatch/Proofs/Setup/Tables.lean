import RequestDispatch.Proofs.Setup.Demands
import RequestDispatch.Proofs.Setup.Enrollment

/-!
# Applying a table

Applying a table meets its demands one after the other and stops at the first that fails
(`RouteTable.carries_apply`).  If none does, the table has led where carrying out its steps leads, which
are registrations in groups as the table has them (`RouteTable.steps`); a route is one step for each of its
methods.

The induction is on the groups.  The paths of the sites on the way are joined group by group; what they
come to is kept as the pieces of the paths of all groups around (`Inside`).
-/

namespace RequestDispatch

open Routing

/-- The registration that meets a demand. -/
def Demand.step? (registry : Registry) : Demand → Option Registration
  | .middleware name => (registry.middleware.lookup name).map .use
  | .route _ entry m => (registry.handlers.lookup entry.handler).map (.route [m] entry.path)
  | _ => none

namespace GroupEntry

mutual

/-- A group as a registration. -/
def step (registry : Registry) (around : List Enclosure) : GroupEntry → Registration
  | .mk base middleware routes groups =>
    .group base false
      ((levelDemands (around ++ [⟨base, middleware⟩]) middleware routes).filterMap
          (Demand.step? registry) ++
        steps registry (around ++ [⟨base, middleware⟩]) groups)

def steps (registry : Registry) (around : List Enclosure) : List GroupEntry → List Registration
  | [] => []
  | group :: rest => step registry around group :: steps registry around rest

end

end GroupEntry

/-- A table as registrations. -/
def RouteTable.steps (table : RouteTable) (registry : Registry) : List Registration :=
  (levelDemands [] table.middleware table.routes).filterMap (Demand.step? registry) ++
    GroupEntry.steps registry [] table.groups

/-- The routes that are registered. -/
def SetupState.addresses (s : SetupState) : List (Method × String) :=
  s.dispatcher.router.routes.map Route.address

/-- The router of the dispatcher records its routes. -/
def Dispatcher.Sound (d : Dispatcher) : Prop := ∃ registered, d.router.Records registered

theorem Registration.CarriedOut.sound {site : Site} {steps : List Registration} {d d' : Dispatcher}
    (carried : CarriedOut site steps d d') (sound : d.Sound) : d'.Sound := by
  obtain ⟨registered, records⟩ := sound
  obtain ⟨next, records, -⟩ := carried.routes registered records
  exact ⟨next, records⟩

theorem Registration.Opened.of_carriedOut {site : Site} {steps : List Registration}
    {d d' : Dispatcher} (opened : Opened site d) (carried : CarriedOut site steps d d') :
    Opened site d' :=
  fun i own => Nat.lt_of_lt_of_le (opened i own) carried.growing

/-- A path is joined from the paths of these groups. -/
def Inside (base : String) (around : List Enclosure) : Prop :=
  segments base.toList = (around.map Enclosure.base).flatMap fun path => segments path.toList

theorem segments_join (base path : String) :
    segments (join base path).toList = segments base.toList ++ segments path.toList := by
  unfold join
  rw [String.toList_ofList, segments_joinChars]

namespace Inside

variable {base : String} {around : List Enclosure}

theorem outside : Inside Site.outside.path [] := rfl

theorem group (inside : Inside base around) (path : String) (middleware : List String) :
    Inside (join base path) (around ++ [⟨path, middleware⟩]) := by
  unfold Inside at *
  rw [segments_join, inside]
  simp

theorem join_eq (inside : Inside base around) (entry : RouteEntry) :
    join "" (join base entry.path) = entry.fullPath around := by
  unfold RouteEntry.fullPath
  rw [join, joinChars, segments_join, inside, List.flatMap_append, List.flatMap_singleton]
  rfl

end Inside

/-- How setup steps end that are to meet demands, and where they lead. -/
inductive Ending (registry : Registry) (site : Site) (demands : List Demand)
    (steps : List Registration) (s : SetupState) : Except SetupError Unit × SetupState → Prop
  | done {s' : SetupState} (met : Met registry s.addresses demands)
      (grown : s'.addresses = s.addresses ++ addresses demands)
      (carried : Registration.CarriedOut site steps s.dispatcher s'.dispatcher)
      (kept : s'.dispatcher =
        { s.dispatcher with
          router := s'.dispatcher.router
          middleware := s'.dispatcher.middleware
          scopes := s'.dispatcher.scopes }) :
      Ending registry site demands steps s (.ok (), s')
  | refused {s' : SetupState} {error : RouteError}
      (first : FirstFault registry s.addresses demands error) :
      Ending registry site demands steps s (.error (.route error), s')

/-- Wherever the site is open, the setup meets the demands in order or fails as the first that is not met,
and it leads where the steps lead. -/
structure Carries (registry : Registry) (site : Site) (demands : List Demand)
    (steps : List Registration) (x : Setup Unit) : Prop where
  ends : ∀ s, s.dispatcher.Sound → Registration.Opened site s.dispatcher →
    Ending registry site demands steps s (x.run s)

namespace Carries

variable {registry : Registry} {site : Site} {a b : List Demand} {p q : List Registration}
  {x y : Setup Unit}

theorem nil : Carries registry site [] [] (pure ()) :=
  ⟨fun s _ _ => .done met_nil (List.append_nil _).symm (.nil site s.dispatcher) rfl⟩

theorem bind (first : Carries registry site a p x) (later : Carries registry site b q y) :
    Carries registry site (a ++ b) (p ++ q) (x >>= fun _ => y) := by
  refine ⟨fun s sound opened => ?_⟩
  rw [Setup.run_bind]
  have ending := first.ends s sound opened
  generalize x.run s = result at ending
  cases ending with
  | refused fault => exact .refused (fault.append_left b)
  | @done s' met grown carried kept =>
    -- the routes that were asked for first are present when the rest is carried out
    have ending := later.ends s' (carried.sound sound) (opened.of_carriedOut carried)
    change Ending registry site (a ++ b) (p ++ q) s (y.run s')
    generalize y.run s' = result at ending
    cases ending with
    | refused fault => exact .refused (.append_right met (grown ▸ fault))
    | @done s'' metLater grownLater carriedLater keptLater =>
      refine .done (met_append_iff.mpr ⟨met, grown ▸ metLater⟩) ?_ (carried.append opened carriedLater) ?_
      · rw [grownLater, grown, addresses_append, List.append_assoc]
      · rw [keptLater, kept]

theorem forM {ι : Type} {f : ι → List Demand} {x : ι → Setup Unit}
    (each : ∀ i, Carries registry site (f i) ((f i).filterMap (Demand.step? registry)) (x i))
    (is : List ι) :
    Carries registry site (is.flatMap f) ((is.flatMap f).filterMap (Demand.step? registry))
      (is.forM x) := by
  induction is with
  | nil => exact .nil
  | cons i rest ih =>
    rw [List.flatMap_cons, List.filterMap_append]
    exact (each i).bind ih

theorem forM_single {ι : Type} {f : ι → Demand} {x : ι → Setup Unit}
    (each : ∀ i, Carries registry site [f i] ([f i].filterMap (Demand.step? registry)) (x i))
    (is : List ι) :
    Carries registry site (is.map f) ((is.map f).filterMap (Demand.step? registry)) (is.forM x) := by
  rw [List.map_eq_flatMap]
  exact forM each is

/-- A look-up that decides its demands, and what is done with its result. -/
theorem lookUp {α : Type} {answer : Except RouteError α} {f : α → Setup Unit}
    (decides : Decides registry a answer) (quiet : addresses a = [])
    (rest : ∀ v, answer = .ok v → Carries registry site b q (f v)) :
    Carries registry site (a ++ b) q (Setup.ofExcept answer >>= f) := by
  refine ⟨fun s sound opened => ?_⟩
  cases found : answer with
  | error error => exact .refused ((decides.first found s.addresses).append_left b)
  | ok v =>
    have ending := (rest v found).ends s sound opened
    have met := decides.met found s.addresses
    have same : s.addresses ++ addresses a = s.addresses := by rw [quiet, List.append_nil]
    change Ending registry site (a ++ b) q s ((f v).run s)
    generalize (f v).run s = result at ending
    cases ending with
    | refused fault => exact .refused (.append_right met (same.symm ▸ fault))
    | done metRest grown carried kept =>
      refine .done (met_append_iff.mpr ⟨met, same.symm ▸ metRest⟩) ?_ carried kept
      rw [grown, addresses_append, quiet, List.nil_append]

theorem use (m : Middleware) : Carries registry site [] [.use m] (Setup.use site m) := by
  refine ⟨fun s sound opened => ?_⟩
  obtain ⟨events, ran⟩ := Setup.use_run site m s
  rw [ran]
  refine .done met_nil ?_ (Registration.carriedOut_use opened m) ?_
  · unfold SetupState.addresses Setup.used
    rcases site with ⟨path, _ | id⟩
    · exact (List.append_nil _).symm
    · exact (List.append_nil _).symm
  · unfold Setup.used
    rcases site with ⟨path, _ | id⟩
    · rfl
    · rfl

/-- A route for one method. -/
theorem add {around : List Enclosure} (inside : Inside site.path around) (entry : RouteEntry)
    (handler : Handler) (m : Method) :
    Carries registry site [.route around entry m] [.route [m] entry.path handler]
      (Setup.add site m entry.path handler) := by
  refine ⟨fun s sound opened => ?_⟩
  have path : Setup.templateAt site entry.path = entry.fullPath around := inside.join_eq entry
  obtain ⟨registered, records⟩ := sound
  have listed : s.addresses = registered.map fun t => t.route.address := records.addresses
  cases answer : s.dispatcher.router.submit
      (Setup.request site.scope (Setup.templateAt site entry.path) handler m) with
  | ok accepted =>
    have ran : (Setup.add site m entry.path handler).run s = _ := Setup.mount_admitted answer
    obtain ⟨⟨readable, free⟩, recordsNext⟩ := records.submit_ok answer
    rw [ran]
    refine .done (met_singleton_iff.mpr ⟨⟨_, path ▸ readable⟩, ?_⟩) ?_
      (Registration.carriedOut_route fun registered records => ?_) rfl
    · rw [listed, List.forall_mem_map, ← path]
      exact fun t mem collide => free t mem (Submission.collide_iff.mp collide)
    · rw [listed, addresses_singleton, Demand.address?, ← path]
      exact recordsNext.addresses.trans List.map_append
    · obtain ⟨admitted, recordsNext⟩ := records.submit_ok answer
      change accepted.2.Records (takeUp _ [m] registered)
      rw [takeUp, if_pos admitted]
      exact recordsNext
  | error error =>
    have ran : (Setup.add site m entry.path handler).run s = _ := Setup.mount_refused answer
    rw [ran]
    refine .refused (.single ?_)
    rcases records.holds.submit_refused answer with unreadable | ⟨readable, t, mem, same, rfl⟩
    · exact .template (path ▸ unreadable)
    · have there : t.route.address ∈ s.addresses := listed ▸ List.mem_map_of_mem mem
      have named : t.route.address = (m, t.template) := congrArg (·, t.template) same.1
      have collide := Submission.collide_iff.mpr same
      rw [named] at there collide
      change Demand.Fault registry s.addresses (.route around entry m)
        (.duplicateRoute m (Setup.templateAt site entry.path) t.template)
      rw [path]
      exact .taken ⟨_, path ▸ readable⟩ there (path ▸ collide)

/-- A group and what is done inside it. -/
theorem openGroup {base : String} {f : Site → Setup Unit}
    (inside : ∀ d, Carries registry (Setup.opened site base d).1 b q (f (Setup.opened site base d).1)) :
    Carries registry site b [.group base false q] (Setup.openGroup site base >>= f) := by
  refine ⟨fun s sound opened => ?_⟩
  obtain ⟨events, ran⟩ := Setup.openGroup_run site base s
  have ending := (inside s.dispatcher).ends ⟨(Setup.opened site base s.dispatcher).2, events⟩ sound
    (Registration.opened_group site base s.dispatcher)
  rw [Setup.run_bind, ran]
  change Ending registry site b _ s ((f (Setup.opened site base s.dispatcher).1).run _)
  generalize (f (Setup.opened site base s.dispatcher).1).run _ = result at ending
  cases ending with
  | refused fault => exact .refused fault
  | done met grown carried kept =>
    exact .done met grown (Registration.carriedOut_group opened carried) kept

/-- The middleware of a level. -/
theorem useNamed (names : List String) :
    Carries registry site (names.map .middleware)
      ((names.map Demand.middleware).filterMap (Demand.step? registry))
      (Setup.useNamed registry site names) := by
  refine forM_single (fun name => ?_) names
  refine .lookUp (b := []) (registry.middlewareNamed_decides name) rfl fun m found => ?_
  have known : registry.middleware.lookup name = some m := by
    unfold Registry.middlewareNamed at found
    grind
  have only : [Demand.middleware name].filterMap (Demand.step? registry) = [.use m] := by
    simp [Demand.step?, known]
  rw [only]
  exact .use m

/-- An entry, for all its methods. -/
theorem entry {around : List Enclosure} (inside : Inside site.path around) (entry : RouteEntry) :
    Carries registry site (entry.demands around)
      ((entry.demands around).filterMap (Demand.step? registry))
      (Setup.ofExcept (registry.handler entry.handler) >>= fun handler =>
        Setup.ofExcept entry.registeredMethods >>= fun methods =>
          Setup.route site methods entry.path handler) := by
  refine .lookUp (a := [_]) (registry.handler_decides entry.handler) rfl fun handler found => ?_
  refine .lookUp (entry.registeredMethods_decides registry) (addresses_methods _) fun methods read => ?_
  have known : registry.handlers.lookup entry.handler = some handler := by
    unfold Registry.handler at found
    grind
  have asked : entry.methodsAsked = methods := by rw [RouteEntry.methodsAsked, read]
  have routes : (entry.demands around).filterMap (Demand.step? registry) =
      (methods.map (Demand.route around entry)).filterMap (Demand.step? registry) := by
    rw [RouteEntry.demands, asked, List.filterMap_cons, List.filterMap_append]
    simp [Demand.step?, List.filterMap_map]
  have each (m : Method) : Carries registry site [.route around entry m]
      ([Demand.route around entry m].filterMap (Demand.step? registry))
      (Setup.add site m entry.path handler) := by
    have only : [Demand.route around entry m].filterMap (Demand.step? registry) =
        [.route [m] entry.path handler] := by simp [Demand.step?, known]
    rw [only]
    exact add inside entry handler m
  have all := forM_single each methods
  rw [routes, asked]
  -- no methods would stand for one of them, but an entry has at least one
  obtain ⟨m, rest, rfl⟩ := List.exists_cons_of_ne_nil (RouteEntry.ne_nil_of_registeredMethods read)
  exact all

/-- The entries of a level. -/
theorem routeEntries {around : List Enclosure} (inside : Inside site.path around)
    (entries : List RouteEntry) :
    Carries registry site (entries.flatMap (RouteEntry.demands around))
      ((entries.flatMap (RouteEntry.demands around)).filterMap (Demand.step? registry))
      (Setup.routeEntries registry site entries) :=
  forM (entry inside) entries

/-- What stands on a level before its groups, and what is done after it. -/
theorem level {around : List Enclosure} (inside : Inside site.path around) (names : List String)
    (entries : List RouteEntry) (rest : Carries registry site b q y) :
    Carries registry site (levelDemands around names entries ++ b)
      ((levelDemands around names entries).filterMap (Demand.step? registry) ++ q)
      (Setup.useNamed registry site names >>= fun _ =>
        Setup.routeEntries registry site entries >>= fun _ => y) := by
  rw [levelDemands, List.filterMap_append, List.append_assoc, List.append_assoc]
  exact (useNamed names).bind ((routeEntries inside entries).bind rest)

mutual

theorem group {site : Site} {around : List Enclosure} (inside : Inside site.path around)
    (entry : GroupEntry) :
    Carries registry site (entry.demands around) [entry.step registry around]
      (entry.apply registry site) :=
  match entry with
  | .mk base middleware entries inner => by
    rw [GroupEntry.demands, GroupEntry.step, GroupEntry.apply]
    refine openGroup fun d => ?_
    have within : Inside (Setup.opened site base d).1.path _ := inside.group base middleware
    exact level within middleware entries (groups within inner)
termination_by structural entry

theorem groups {site : Site} {around : List Enclosure} (inside : Inside site.path around)
    (entries : List GroupEntry) :
    Carries registry site (GroupEntry.demandsAll around entries)
      (GroupEntry.steps registry around entries) (GroupEntry.applyAll registry site entries) :=
  match entries with
  | [] => .nil
  | entry :: rest => by
    rw [GroupEntry.demandsAll, GroupEntry.steps, GroupEntry.applyAll]
    exact (group inside entry).bind (groups inside rest)
termination_by structural entries

end

end Carries

/-- A table that is applied meets all its demands in order, or fails as the first that is not met. -/
theorem RouteTable.carries_apply (table : RouteTable) (registry : Registry) :
    Carries registry .outside table.demands (table.steps registry) (table.apply registry) := by
  have announced : Carries registry .outside [] [] (Setup.dispatcher >>= fun d => Setup.report
      (.tableLoaded d.router.routes.length table.middleware.length table.groups.length)) :=
    ⟨fun s _ _ => .done met_nil (List.append_nil _).symm (.nil .outside s.dispatcher) rfl⟩
  have groups : Carries registry .outside (GroupEntry.demandsAll [] table.groups ++ []) _ _ :=
    (Carries.groups Inside.outside table.groups).bind announced
  have all := Carries.level Inside.outside table.middleware table.routes groups
  rw [List.append_nil, List.append_nil] at all
  exact all

end RequestDispatch
