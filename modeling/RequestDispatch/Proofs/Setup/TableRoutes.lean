import RequestDispatch.Proofs.Setup.Composition
import RequestDispatch.Proofs.Setup.Tables

/-!
# The routes of a table

Which routes a table asks for, each with its handler under the middleware of all groups around it
(`RouteTable.submissions`).  If its demands are met, carrying out its steps adds exactly these, in document
order (`RouteTable.enrollAll_steps`).  So a table is applied to a dispatcher if nothing in it fails, the
error is that of the first demand that does, and a service built afterwards executes the routes there were
and those of the table (`RouteTable.apply_settles`).
-/

namespace RequestDispatch

open Routing Registration

/-- The middleware that a registry has under these names. -/
def Registry.stack (registry : Registry) (names : List String) : List Middleware :=
  names.filterMap fun name => registry.middleware.lookup name

/-- The middleware of groups, from the outermost in. -/
def stackAround (registry : Registry) (around : List Enclosure) : List Middleware :=
  registry.stack (around.flatMap Enclosure.middleware)

theorem stackAround_append (registry : Registry) (around : List Enclosure) (group : Enclosure) :
    stackAround registry (around ++ [group]) =
      stackAround registry around ++ registry.stack group.middleware := by
  simp [stackAround, Registry.stack]

namespace Demand

/-- The route that is asked for, under the middleware of the groups around it. -/
def submission? (registry : Registry) : Demand → Option (Submission Chain)
  | .route around entry m =>
    (registry.handlers.lookup entry.handler).map fun handler =>
      underStack (stackAround registry around) (entry.fullPath around) handler m
  | _ => none

/-- The handler of a route is registered. -/
def Served (registry : Registry) : Demand → Prop
  | .route _ entry _ => registry.handlers.lookup entry.handler ≠ none
  | _ => True

/-- A route stands inside these groups and no others. -/
def StandsIn (around : List Enclosure) : Demand → Prop
  | .route within _ _ => within = around
  | _ => True

end Demand

/-- The routes of a table in document order. -/
def RouteTable.submissions (table : RouteTable) (registry : Registry) : List (Submission Chain) :=
  table.demands.filterMap (Demand.submission? registry)

section

variable {registry : Registry} {present : List (Method × String)} {around : List Enclosure}
  {names : List String} {entries : List RouteEntry}

theorem mem_levelDemands {around : List Enclosure} {entry : RouteEntry} {m : Method}
    {within : List Enclosure} (mem : .route within entry m ∈ levelDemands around names entries) :
    within = around ∧ entry ∈ entries := by
  rw [levelDemands, List.mem_append, List.mem_flatMap] at mem
  obtain named | ⟨own, here, mem⟩ := mem
  · simp at named
  · simp only [RouteEntry.demands, List.mem_cons, List.mem_append, List.mem_map, reduceCtorEq,
      false_or, and_false, exists_false, Demand.route.injEq] at mem
    obtain ⟨_, _, rfl, rfl, rfl⟩ := mem
    exact ⟨rfl, here⟩

theorem standsIn_level : ∀ demand ∈ levelDemands around names entries, demand.StandsIn around := by
  intro demand mem
  cases demand with
  | route within entry m => exact (mem_levelDemands mem).1
  | _ => trivial

/-- Where all demands are met the handlers of all routes are registered. -/
theorem served_level (met : Met registry present (levelDemands around names entries)) :
    ∀ demand ∈ levelDemands around names entries, demand.Served registry := by
  intro demand mem
  cases demand with
  | route within entry m =>
    refine met.handlers entry.handler (List.mem_append_right _ (List.mem_flatMap.mpr ?_))
    exact ⟨entry, (mem_levelDemands mem).2, List.mem_cons_self⟩
  | _ => trivial

mutual

theorem served_group {present : List (Method × String)} {around : List Enclosure} (node : GroupEntry)
    (met : Met registry present (node.demands around)) :
    ∀ demand ∈ node.demands around, demand.Served registry :=
  match node with
  | .mk base middleware entries groups => by
    rw [GroupEntry.demands, met_append_iff] at met
    rw [GroupEntry.demands, List.forall_mem_append]
    exact ⟨served_level met.1, served_groups groups met.2⟩
termination_by structural node

theorem served_groups {present : List (Method × String)} {around : List Enclosure}
    (nodes : List GroupEntry) (met : Met registry present (GroupEntry.demandsAll around nodes)) :
    ∀ demand ∈ GroupEntry.demandsAll around nodes, demand.Served registry :=
  match nodes with
  | [] => nofun
  | node :: rest => by
    rw [GroupEntry.demandsAll, met_append_iff] at met
    rw [GroupEntry.demandsAll, List.forall_mem_append]
    exact ⟨served_group node met.1, served_groups rest met.2⟩
termination_by structural nodes

end

theorem addresses_submissions {demands : List Demand}
    (served : ∀ demand ∈ demands, demand.Served registry) :
    (demands.filterMap (Demand.submission? registry)).map (fun s => s.route.address) =
      addresses demands := by
  induction demands with
  | nil => rfl
  | cons demand rest ih =>
    rw [List.forall_mem_cons] at served
    rw [← List.singleton_append, List.filterMap_append, List.map_append, addresses_append, ih served.2]
    congr 1
    cases demand with
    | route inside entry m =>
      obtain ⟨handler, known⟩ := Option.ne_none_iff_exists'.mp served.1
      simp [Demand.submission?, Demand.address?, known]
      rfl
    | _ => rfl

/-- What is met after demands is met after the routes that these have led to. -/
theorem met_after_submissions {first later : List Demand} {routes : List (Submission Chain)}
    (served : ∀ demand ∈ first, demand.Served registry)
    (met : Met registry ((routes.map fun s => s.route.address) ++ addresses first) later) :
    Met registry ((routes ++ first.filterMap (Demand.submission? registry)).map
      fun s => s.route.address) later := by
  rwa [List.map_append, addresses_submissions served]

theorem additionsAll_middleware :
    additionsAll ((names.map Demand.middleware).filterMap (Demand.step? registry)) =
      registry.stack names := by
  unfold Registry.stack
  induction names with
  | nil => rfl
  | cons name rest ih =>
    rw [List.map_cons, List.filterMap_cons, List.filterMap_cons, Demand.step?]
    cases registry.middleware.lookup name with
    | none => exact ih
    | some m => exact congrArg (m :: ·) ih

theorem additionsAll_entries :
    additionsAll ((entries.flatMap (RouteEntry.demands around)).filterMap (Demand.step? registry)) =
      [] := by
  refine List.flatMap_eq_nil_iff.mpr fun step mem => ?_
  obtain ⟨demand, mem, met⟩ := List.mem_filterMap.mp mem
  obtain ⟨entry, -, mem⟩ := List.mem_flatMap.mp mem
  simp only [RouteEntry.demands, List.mem_cons, List.mem_append, List.mem_map] at mem
  obtain rfl | ⟨name, -, rfl⟩ | ⟨m, -, rfl⟩ := mem
  · cases met
  · cases met
  · obtain ⟨handler, -, rfl⟩ := Option.map_eq_some_iff.mp met
    rfl

/-- The middleware that the steps of a level add where they stand. -/
theorem additionsAll_level :
    additionsAll ((levelDemands around names entries).filterMap (Demand.step? registry)) =
      registry.stack names := by
  rw [levelDemands, List.filterMap_append, additionsAll_append, additionsAll_middleware,
    additionsAll_entries, List.append_nil]

theorem additions_group (node : GroupEntry) : (node.step registry around).additions = [] := by
  cases node
  rfl

theorem additionsAll_groups (nodes : List GroupEntry) :
    additionsAll (GroupEntry.steps registry around nodes) = [] := by
  induction nodes with
  | nil => rfl
  | cons node rest ih =>
    rw [GroupEntry.steps, additionsAll, List.flatMap_cons, additions_group]
    exact ih

variable {base : String} {final : List Middleware}

/-- The step that meets a demand enrolls what the demand asks for. -/
theorem enrollAll_step {demand : Demand} {now : Option (List Middleware)}
    {routes : List (Submission Chain)} (inside : Inside base around)
    (stack : final = stackAround registry around) (stands : demand.StandsIn around)
    (served : demand.Served registry)
    (allowed : demand.Allowed registry (routes.map fun s => s.route.address)) :
    enrollAll base final now ([demand].filterMap (Demand.step? registry)) routes =
      routes ++ [demand].filterMap (Demand.submission? registry) := by
  cases demand with
  | route within entry m =>
    cases stands
    obtain ⟨handler, known⟩ := Option.ne_none_iff_exists'.mp served
    obtain ⟨⟨segments, readable⟩, free⟩ := allowed
    let asked := underStack final (entry.fullPath around) handler m
    have admitted : Admits routes asked := by
      refine ⟨(Submission.readable_of_parse (s := asked) readable).1, fun t mem same => ?_⟩
      have collide : Collide t.route.address asked.route.address := Submission.collide_iff.mpr same
      exact free _ (List.mem_map_of_mem mem) collide
    have step : [Demand.route around entry m].filterMap (Demand.step? registry) =
        [.route [m] entry.path handler] := by simp [Demand.step?, known]
    have submission : [Demand.route around entry m].filterMap (Demand.submission? registry) =
        [asked] := by
      simp only [List.filterMap_cons, List.filterMap_nil, Demand.submission?, known, Option.map_some]
      rw [← stack]
    rw [step, submission]
    simp only [enrollAll, enroll, inside.join_eq]
    change takeUp _ [m] routes = _
    rw [takeUp, if_pos admitted]
    rfl
  | middleware name =>
    have nothing : [Demand.middleware name].filterMap (Demand.submission? registry) = [] := rfl
    rw [nothing, List.append_nil, List.filterMap_cons, Demand.step?]
    cases registry.middleware.lookup name with
    | none => rfl
    | some m => rfl
  | handler name => exact (List.append_nil _).symm
  | method name => exact (List.append_nil _).symm

theorem enrollAll_demands {demands : List Demand} {now : Option (List Middleware)}
    {routes : List (Submission Chain)} (inside : Inside base around)
    (stack : final = stackAround registry around)
    (stands : ∀ demand ∈ demands, demand.StandsIn around)
    (served : ∀ demand ∈ demands, demand.Served registry)
    (met : Met registry (routes.map fun s => s.route.address) demands) :
    enrollAll base final now (demands.filterMap (Demand.step? registry)) routes =
      routes ++ demands.filterMap (Demand.submission? registry) := by
  induction demands generalizing now routes with
  | nil => exact (List.append_nil _).symm
  | cons demand rest ih =>
    rw [List.forall_mem_cons] at stands served
    rw [← List.singleton_append, met_append_iff, met_singleton_iff] at met
    have later := met_after_submissions (List.forall_mem_singleton.mpr served.1) met.2
    rw [← List.singleton_append, List.filterMap_append, List.filterMap_append, enrollAll_append,
      enrollAll_step inside stack stands.1 served.1 met.1, ih stands.2 served.2 later,
      List.append_assoc]

end

section

variable {registry : Registry} {present : List (Method × String)} {around : List Enclosure}

theorem RouteEntry.registeredMethods_of_met {entry : RouteEntry}
    (met : Met registry present (entry.demands around)) :
    entry.registeredMethods = .ok entry.methodsAsked := by
  rw [RouteEntry.demands, ← List.singleton_append, met_append_iff, met_append_iff] at met
  cases read : entry.registeredMethods with
  | ok methods => rw [RouteEntry.methodsAsked, read]
  | error error =>
    exact absurd met.2.1 ((entry.registeredMethods_decides registry).first read _).not_met

theorem countRegistrations_of_met {entries : List RouteEntry}
    (met : Met registry present (entries.flatMap (RouteEntry.demands around))) :
    countRegistrations entries =
      .ok (addresses (entries.flatMap (RouteEntry.demands around))).length := by
  induction entries generalizing present with
  | nil => rfl
  | cons entry rest ih =>
    rw [List.flatMap_cons, met_append_iff] at met
    rw [countRegistrations, RouteEntry.registeredMethods_of_met met.1, ih met.2, List.flatMap_cons,
      addresses_append, List.length_append, RouteEntry.addresses_demands, List.length_map]
    rfl

theorem countRegistrations_level {names : List String} {entries : List RouteEntry}
    (met : Met registry present (levelDemands around names entries)) :
    countRegistrations entries = .ok (addresses (levelDemands around names entries)).length := by
  rw [levelDemands, met_append_iff] at met
  rw [countRegistrations_of_met met.2, levelDemands, addresses_append, addresses_middleware,
    List.nil_append]

mutual

theorem GroupEntry.count_of_met {present : List (Method × String)} {around : List Enclosure}
    (node : GroupEntry) (met : Met registry present (node.demands around)) :
    node.count = .ok (addresses (node.demands around)).length :=
  match node with
  | .mk base middleware entries groups => by
    rw [GroupEntry.demands, met_append_iff] at met
    rw [GroupEntry.count, countRegistrations_level met.1, GroupEntry.countAll_of_met groups met.2,
      GroupEntry.demands, addresses_append, List.length_append]
    rfl
termination_by structural node

theorem GroupEntry.countAll_of_met {present : List (Method × String)} {around : List Enclosure}
    (nodes : List GroupEntry) (met : Met registry present (GroupEntry.demandsAll around nodes)) :
    GroupEntry.countAll nodes = .ok (addresses (GroupEntry.demandsAll around nodes)).length :=
  match nodes with
  | [] => rfl
  | node :: rest => by
    rw [GroupEntry.demandsAll, met_append_iff] at met
    rw [GroupEntry.countAll, GroupEntry.count_of_met node met.1, GroupEntry.countAll_of_met rest met.2,
      GroupEntry.demandsAll, addresses_append, List.length_append]
    rfl
termination_by structural nodes

end

theorem RouteTable.registrationCount_of_met {table : RouteTable}
    (met : Met registry present table.demands) :
    table.registrationCount = .ok (addresses table.demands).length := by
  rw [RouteTable.demands, met_append_iff] at met
  rw [RouteTable.registrationCount, countRegistrations_level met.1, GroupEntry.countAll_of_met _ met.2,
    RouteTable.demands, addresses_append, List.length_append]
  rfl

end

mutual

/-- The steps of a group enroll the routes of the group. -/
theorem enroll_group {registry : Registry} {around : List Enclosure} {base : String}
    {final : List Middleware} {now : Option (List Middleware)} {routes : List (Submission Chain)}
    (inside : Inside base around) (stack : now.getD [] = stackAround registry around)
    (node : GroupEntry)
    (met : Met registry (routes.map fun s => s.route.address) (node.demands around)) :
    enroll base final now (node.step registry around) routes =
      routes ++ (node.demands around).filterMap (Demand.submission? registry) :=
  match node with
  | .mk path middleware entries groups => by
    rw [GroupEntry.demands, met_append_iff] at met
    rw [GroupEntry.demands, GroupEntry.step, enroll, List.filterMap_append]
    have served := served_level met.1
    have within : Inside (join base path) _ := inside.group path middleware
    -- the stack of the group is complete when its routes are registered and its groups are opened
    have full : now.getD [] ++ registry.stack middleware =
        stackAround registry (around ++ [⟨path, middleware⟩]) := by
      rw [stackAround_append, stack]
    rw [enrollAll_append, additionsAll_append, additionsAll_level, additionsAll_groups,
      List.append_nil, Option.map_some, full,
      enrollAll_demands within rfl standsIn_level served met.1,
      enrollAll_groups within rfl groups (met_after_submissions served met.2), List.append_assoc]
termination_by structural node

theorem enrollAll_groups {registry : Registry} {around : List Enclosure} {base : String}
    {final : List Middleware} {now : Option (List Middleware)} {routes : List (Submission Chain)}
    (inside : Inside base around) (stack : now.getD [] = stackAround registry around)
    (nodes : List GroupEntry)
    (met : Met registry (routes.map fun s => s.route.address) (GroupEntry.demandsAll around nodes)) :
    enrollAll base final now (GroupEntry.steps registry around nodes) routes =
      routes ++ (GroupEntry.demandsAll around nodes).filterMap (Demand.submission? registry) :=
  match nodes with
  | [] => (List.append_nil _).symm
  | node :: rest => by
    rw [GroupEntry.demandsAll, met_append_iff] at met
    have later := met_after_submissions (served_group node met.1) met.2
    have same : (now.map (· ++ (node.step registry around).additions)).getD [] =
        stackAround registry around := by
      rw [additions_group, ← stack]
      cases now <;> simp
    rw [GroupEntry.demandsAll, GroupEntry.steps, enrollAll, enroll_group inside stack node met.1,
      enrollAll_groups inside same rest later, List.filterMap_append, List.append_assoc]
termination_by structural nodes

end

namespace RouteTable

variable {table : RouteTable} {registry : Registry} {present : List (Method × String)}

theorem served_demands (met : Met registry present table.demands) :
    ∀ demand ∈ table.demands, demand.Served registry := by
  rw [demands, met_append_iff] at met
  rw [demands, List.forall_mem_append]
  exact ⟨served_level met.1, served_groups table.groups met.2⟩

/-- The steps of a table whose demands are met enroll its routes. -/
theorem enrollAll_steps {routes : List (Submission Chain)}
    (met : Met registry (routes.map fun s => s.route.address) table.demands) :
    enrollAll Site.outside.path [] none (table.steps registry) routes =
      routes ++ table.submissions registry := by
  rw [demands, met_append_iff] at met
  have served := served_level met.1
  have empty : [] = stackAround registry [] := rfl
  rw [steps, enrollAll_append, Option.map_none,
    enrollAll_demands Inside.outside empty standsIn_level served met.1,
    enrollAll_groups Inside.outside rfl table.groups (met_after_submissions served met.2),
    List.append_assoc, ← List.filterMap_append]
  rfl

theorem additionsAll_steps : additionsAll (table.steps registry) = registry.stack table.middleware := by
  rw [steps, additionsAll_append, additionsAll_level, additionsAll_groups, List.append_nil]

/-- A table is applied: what it leaves of a dispatcher, and what is built then. -/
structure Applied (table : RouteTable) (registry : Registry) (existing : List (Submission Chain))
    (d d' : Dispatcher) : Prop where
  /-- Nothing but the routes, the middleware and the groups is touched; middleware is appended. -/
  kept : d' =
    { d with
      router := d'.router
      middleware := d.middleware ++ registry.stack table.middleware
      scopes := d'.scopes }
  /-- The routes are those that the table asks for, one for each registration. -/
  asked : (table.submissions registry).map (fun s => s.route.address) = addresses table.demands
  count : table.registrationCount = .ok (table.submissions registry).length
  routes : d'.router.routes = d.router.routes ++ (table.submissions registry).map Submission.route
  /-- Every chain has the global middleware around the stack of the route's groups. -/
  built : (d'.build.router.map Mount.chain).Records
    ((existing ++ table.submissions registry).map
      (Submission.map (Chain.inside (d.middleware ++ registry.stack table.middleware))))
  executes : ∀ nested c,
    Executes nested (existing ++ table.submissions registry)
      (d.middleware ++ registry.stack table.middleware) d.notFound d.methodNotAllowed c.method c.path
      ((d'.build.find c).1.run nested)

/-- Where all demands are met the table is applied. -/
theorem applied_of_met {table : RouteTable} {registry : Registry} {config : DispatchSettings}
    {history : List Registration} {d' : Dispatcher}
    (met : Met registry ((Dispatcher.after config history).router.routes.map Route.address)
      table.demands)
    (carried : CarriedOut .outside (table.steps registry) (Dispatcher.after config history) d')
    (kept : d' =
      { Dispatcher.after config history with
        router := d'.router
        middleware := d'.middleware
        scopes := d'.scopes }) :
    table.Applied registry (enrolled history) (Dispatcher.after config history) d' := by
  have middleware : d'.middleware =
      (Dispatcher.after config history).middleware ++ registry.stack table.middleware := by
    rw [carried.middleware, ← additionsAll_steps]
    rfl
  obtain ⟨registered, before, enrolledBefore⟩ := Dispatcher.after_records config history
  have listed : (Dispatcher.after config history).router.routes =
      (enrolled history).map Submission.route := by
    rw [before.listed, ← enrolledBefore, List.map_map]
    rfl
  have present : (Dispatcher.after config history).router.routes.map Route.address =
      (enrolled history).map fun s => s.route.address := by
    rw [listed, List.map_map]
    rfl
  -- the steps of the table come after the history, and nothing in them is refused
  have outside : Opened .outside (Dispatcher.create config) := nofun
  obtain ⟨next, records, routes⟩ :=
    ((Dispatcher.after_carriedOut config history).append outside carried).routes [] Router.empty_records
  have enrolledAfter : next.map (Submission.map (Mount.under d'.scope)) =
      enrolled history ++ table.submissions registry := by
    refine (routes d'.scope fun _ _ _ => rfl).trans ?_
    rw [enrollAll_append]
    exact enrollAll_steps (present ▸ met)
  have asked := addresses_submissions (served_demands met)
  exact {
    kept := middleware ▸ kept
    asked := asked
    count := by
      rw [registrationCount_of_met met, ← asked, List.length_map]
      rfl
    routes := by
      rw [listed, records.listed, ← List.map_append, ← enrolledAfter, List.map_map]
      rfl
    built := by
      have built := Dispatcher.records_build records
      rwa [enrolledAfter, middleware] at built
    executes := fun nested c => by
      have executes := Dispatcher.executes_of_records records nested c
      rw [enrolledAfter, middleware] at executes
      rw [kept] at executes ⊢
      exact executes }

/-- On a dispatcher with any history, a table with groups nested to any depth is applied exactly if nothing
in it fails; otherwise the error is that of the demand that fails first. -/
theorem apply_settles (table : RouteTable) (registry : Registry) (config : DispatchSettings)
    (history : List Registration) :
    let d := Dispatcher.after config history
    let present := d.router.routes.map Route.address
    let applied := Setup.on d (table.apply registry)
    (applied.1 = .ok () ↔ Met registry present table.demands) ∧
      (∀ error, applied.1 = .error error →
        ∃ fault, error = .route fault ∧ FirstFault registry present table.demands fault) ∧
      (applied.1 = .ok () → table.Applied registry (enrolled history) d applied.2.1) := by
  intro d present applied
  obtain ⟨registered, records, -⟩ := Dispatcher.after_records config history
  have ending := (table.carries_apply registry).ends ⟨d, []⟩ ⟨registered, records⟩ nofun
  have result : applied = (((table.apply registry).run ⟨d, []⟩).1,
      ((table.apply registry).run ⟨d, []⟩).2.dispatcher,
      ((table.apply registry).run ⟨d, []⟩).2.events.reverse) := rfl
  clear_value applied
  subst result
  generalize (table.apply registry).run ⟨d, []⟩ = ran at ending
  cases ending with
  | done met grown carried kept =>
    exact ⟨⟨fun _ => met, fun _ => rfl⟩, nofun, fun _ => applied_of_met met carried kept⟩
  | refused first =>
    refine ⟨⟨nofun, fun met => absurd met first.not_met⟩, fun error failed => ?_, nofun⟩
    exact ⟨_, (Except.error.inj failed).symm, first⟩

end RouteTable

end RequestDispatch
