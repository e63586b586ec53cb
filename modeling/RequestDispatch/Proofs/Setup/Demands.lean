import RequestDispatch.Proofs.Routing.Records
import RequestDispatch.Setup.Table

/-!
# What a table asks for

A table as the list of its demands, in the order in which it is applied (`RouteTable.demands`).  A demand
fails for a reason of its own (`Demand.Fault`), or because of a route that is there when its turn comes.
`Met` says of a whole list, without any order, that nothing in it fails; `FirstFault` names the demand that
fails first.
-/

namespace RequestDispatch

open Routing

/-- The shape of a template; no tokens if it cannot be read. -/
def Routing.Template.shapeOf (template : String) : List Token :=
  match Template.parse template with
  | .ok segments => shape segments
  | .error _ => []

/-- The method and the template under which a route is registered. -/
def Routing.Route.address (r : Route) : Method × String := (r.method, r.path)

/-- Two routes that cannot both be registered: one method, and templates of one shape. -/
def Collide (p q : Method × String) : Prop :=
  p.1 = q.1 ∧ Template.shapeOf p.2 = Template.shapeOf q.2

theorem Routing.Submission.collide_iff {α : Type} {s t : Submission α} :
    Collide s.route.address t.route.address ↔ s.SamePlace t := by
  have tokens (r : Submission α) : Template.shapeOf r.route.address.2 = r.tokens := by
    unfold Template.shapeOf Submission.tokens Submission.segments Submission.route Route.address
    cases Template.parse r.template with
    | ok segments => rfl
    | error error => rfl
  unfold Collide Submission.SamePlace
  rw [tokens, tokens]
  rfl

theorem Routing.Router.Records.addresses {α : Type} {router : Router α}
    {registered : List (Submission α)} (records : router.Records registered) :
    router.routes.map Route.address = registered.map fun s => s.route.address := by
  rw [records.listed, List.map_map]
  rfl

/-- A group as it stands around the routes inside it. -/
structure Enclosure where
  base : String
  middleware : List String

/-- One thing that a table needs when it is applied. -/
inductive Demand where
  | middleware (name : String)
  | handler (name : String)
  | method (name : String)
  /-- The route of an entry for one of its methods, inside these groups, the outermost first. -/
  | route (around : List Enclosure) (entry : RouteEntry) (m : Method)

namespace RouteEntry

/-- The path of an entry after the paths of all groups around it. -/
def fullPath (around : List Enclosure) (entry : RouteEntry) : String :=
  String.ofList
    (ofSegments ((around.map Enclosure.base ++ [entry.path]).flatMap fun path => segments path.toList))

/-- The methods for which an entry is registered; none if one of its names is not valid. -/
def methodsAsked (entry : RouteEntry) : List Method :=
  match entry.registeredMethods with
  | .ok methods => methods
  | .error _ => []

/-- An entry needs its handler, then all names of methods, then a route for each method. -/
def demands (around : List Enclosure) (entry : RouteEntry) : List Demand :=
  .handler entry.handler ::
    (entry.methodNames.map .method ++ entry.methodsAsked.map (.route around entry))

end RouteEntry

/-- What a level of a table needs before the groups inside it. -/
def levelDemands (around : List Enclosure) (middleware : List String) (routes : List RouteEntry) :
    List Demand :=
  middleware.map .middleware ++ routes.flatMap (RouteEntry.demands around)

namespace GroupEntry

mutual

def demands (around : List Enclosure) : GroupEntry → List Demand
  | .mk base middleware routes groups =>
    levelDemands (around ++ [⟨base, middleware⟩]) middleware routes ++
      demandsAll (around ++ [⟨base, middleware⟩]) groups

def demandsAll (around : List Enclosure) : List GroupEntry → List Demand
  | [] => []
  | group :: rest => demands around group ++ demandsAll around rest

end

end GroupEntry

/-- All that a table needs, in the order in which it is applied. -/
def RouteTable.demands (table : RouteTable) : List Demand :=
  levelDemands [] table.middleware table.routes ++ GroupEntry.demandsAll [] table.groups

namespace Demand

/-- The method and the full template of a route that is asked for. -/
def address? : Demand → Option (Method × String)
  | .route around entry m => some (m, entry.fullPath around)
  | _ => none

/-- A registry and the routes that are present allow a demand by itself. -/
def Allowed (registry : Registry) (present : List (Method × String)) : Demand → Prop
  | .middleware name => registry.middleware.lookup name ≠ none
  | .handler name => registry.handlers.lookup name ≠ none
  | .method name => ∃ methods, RouteEntry.methodsOf name = .ok methods
  | .route around entry m =>
    (∃ segments, Template.parse (entry.fullPath around) = .ok segments) ∧
      ∀ q ∈ present, ¬ Collide q (m, entry.fullPath around)

/-- How a demand fails where routes are present. -/
inductive Fault (registry : Registry) (present : List (Method × String)) : Demand → RouteError → Prop
  | middleware {name : String} (unknown : registry.middleware.lookup name = none) :
      Fault registry present (.middleware name) (.unknownMiddleware name)
  | handler {name : String} (unknown : registry.handlers.lookup name = none) :
      Fault registry present (.handler name) (.unknownHandler name)
  | method {name : String} (invalid : ∀ methods, RouteEntry.methodsOf name ≠ .ok methods) :
      Fault registry present (.method name) (.invalidMethod name)
  | template {around : List Enclosure} {entry : RouteEntry} {m : Method} {error : RouteError}
      (unreadable : Template.parse (entry.fullPath around) = .error error) :
      Fault registry present (.route around entry m) error
  | taken {around : List Enclosure} {entry : RouteEntry} {m : Method} {existing : String}
      (readable : ∃ segments, Template.parse (entry.fullPath around) = .ok segments)
      (there : (m, existing) ∈ present) (collide : Collide (m, existing) (m, entry.fullPath around)) :
      Fault registry present (.route around entry m)
        (.duplicateRoute m (entry.fullPath around) existing)

end Demand

/-- The routes that are asked for. -/
def addresses (demands : List Demand) : List (Method × String) := demands.filterMap Demand.address?

@[simp] theorem addresses_append (a b : List Demand) :
    addresses (a ++ b) = addresses a ++ addresses b :=
  List.filterMap_append ..

@[simp] theorem addresses_singleton (demand : Demand) :
    addresses [demand] = demand.address?.toList := by
  cases demand <;> rfl

@[simp] theorem addresses_methods (names : List String) : addresses (names.map .method) = [] := by
  simp [addresses, Demand.address?]

@[simp] theorem addresses_middleware (names : List String) :
    addresses (names.map .middleware) = [] := by
  simp [addresses, Demand.address?]

/-- An entry asks for its full path under each of its methods. -/
theorem RouteEntry.addresses_demands (around : List Enclosure) (entry : RouteEntry) :
    addresses (entry.demands around) =
      entry.methodsAsked.map fun m => (m, entry.fullPath around) := by
  have routes : addresses (entry.methodsAsked.map (.route around entry)) =
      entry.methodsAsked.map fun m => (m, entry.fullPath around) := by
    unfold addresses
    rw [List.filterMap_map]
    exact congrFun List.filterMap_eq_map _
  rw [RouteEntry.demands, ← List.singleton_append, addresses_append, addresses_append, routes,
    addresses_methods]
  rfl

/-- Entries of different groups may collide once their paths are joined. -/
example :
    let table : RouteTable :=
      { debug := none, pool := none, middleware := []
        routes := [⟨some "get", ["POST", "GET"], "/a/b", "ok"⟩]
        groups := [.mk "a/" ["auth"] [] [.mk "" [] [⟨none, [], "//b/", "ok"⟩] []]] }
    addresses table.demands = [(.get, "/a/b"), (.post, "/a/b"), (.get, "/a/b")] := by
  decide +kernel

/-- A registry and the routes that are present allow all demands. -/
structure Met (registry : Registry) (present : List (Method × String)) (demands : List Demand) :
    Prop where
  middleware : ∀ name, .middleware name ∈ demands → registry.middleware.lookup name ≠ none
  handlers : ∀ name, .handler name ∈ demands → registry.handlers.lookup name ≠ none
  methods : ∀ name, .method name ∈ demands → ∃ methods, RouteEntry.methodsOf name = .ok methods
  templates : ∀ p ∈ addresses demands, ∃ segments, Template.parse p.2 = .ok segments
  free : ∀ p ∈ addresses demands, ∀ q ∈ present, ¬ Collide q p
  apart : (addresses demands).Pairwise fun p q => ¬ Collide p q

/-- The error is that of the first demand that fails.  The routes asked for before are present by then. -/
def FirstFault (registry : Registry) (present : List (Method × String)) (demands : List Demand)
    (error : RouteError) : Prop :=
  ∃ before demand after, demands = before ++ demand :: after ∧ Met registry present before ∧
    demand.Fault registry (present ++ addresses before) error

section

variable {registry : Registry} {present : List (Method × String)} {a b demands : List Demand}
  {demand : Demand} {error : RouteError}

theorem met_nil : Met registry present [] := by
  constructor <;> simp [addresses]

/-- What is asked for later must go with what is asked for first. -/
theorem met_append_iff :
    Met registry present (a ++ b) ↔
      Met registry present a ∧ Met registry (present ++ addresses a) b := by
  constructor
  · intro met
    have apart := List.pairwise_append.mp (addresses_append a b ▸ met.apart)
    have templates := met.templates
    have free := met.free
    rw [addresses_append] at templates free
    exact ⟨{
      middleware := fun name mem => met.middleware name (List.mem_append_left _ mem)
      handlers := fun name mem => met.handlers name (List.mem_append_left _ mem)
      methods := fun name mem => met.methods name (List.mem_append_left _ mem)
      templates := fun p mem => templates p (List.mem_append_left _ mem)
      free := fun p mem => free p (List.mem_append_left _ mem)
      apart := apart.1 }, {
      middleware := fun name mem => met.middleware name (List.mem_append_right _ mem)
      handlers := fun name mem => met.handlers name (List.mem_append_right _ mem)
      methods := fun name mem => met.methods name (List.mem_append_right _ mem)
      templates := fun p mem => templates p (List.mem_append_right _ mem)
      free := fun p mem q there => by
        rcases List.mem_append.mp there with there | there
        · exact free p (List.mem_append_right _ mem) q there
        · exact apart.2.2 q there p mem
      apart := apart.2.1 }⟩
  · rintro ⟨first, later⟩
    have later_free := later.free
    simp only [List.forall_mem_append] at later_free
    exact {
      middleware := fun name mem =>
        (List.mem_append.mp mem).elim (first.middleware name) (later.middleware name)
      handlers := fun name mem =>
        (List.mem_append.mp mem).elim (first.handlers name) (later.handlers name)
      methods := fun name mem =>
        (List.mem_append.mp mem).elim (first.methods name) (later.methods name)
      templates := by
        rw [addresses_append, List.forall_mem_append]
        exact ⟨first.templates, later.templates⟩
      free := by
        rw [addresses_append, List.forall_mem_append]
        exact ⟨first.free, fun p mem => (later_free p mem).1⟩
      apart := by
        rw [addresses_append, List.pairwise_append]
        exact ⟨first.apart, later.apart, fun p mem q there => (later_free q there).2 p mem⟩ }

theorem met_singleton_iff : Met registry present [demand] ↔ demand.Allowed registry present := by
  constructor
  · intro met
    cases demand with
    | middleware name => exact met.middleware name (List.mem_singleton_self _)
    | handler name => exact met.handlers name (List.mem_singleton_self _)
    | method name => exact met.methods name (List.mem_singleton_self _)
    | route around entry m =>
      have asked : (m, entry.fullPath around) ∈ addresses [.route around entry m] := by
        rw [addresses_singleton, Demand.address?, Option.toList_some]
        exact List.mem_singleton_self _
      exact ⟨met.templates (m, entry.fullPath around) asked, met.free _ asked⟩
  · intro allowed
    have route : ∀ p ∈ addresses [demand], (∃ segments, Template.parse p.2 = .ok segments) ∧
        ∀ q ∈ present, ¬ Collide q p := by
      intro p mem
      rw [addresses_singleton, Option.mem_toList] at mem
      cases demand with
      | route around entry m =>
        cases mem
        exact allowed
      | _ => cases mem
    exact {
      middleware := fun name mem => by
        cases List.mem_singleton.mp mem
        exact allowed
      handlers := fun name mem => by
        cases List.mem_singleton.mp mem
        exact allowed
      methods := fun name mem => by
        cases List.mem_singleton.mp mem
        exact allowed
      templates := fun p mem => (route p mem).1
      free := fun p mem => (route p mem).2
      apart := by
        rw [addresses_singleton]
        cases demand.address? with
        | none => exact .nil
        | some p => exact List.pairwise_singleton _ p }

/-- A demand that fails is not met. -/
theorem Demand.Fault.not_allowed (fault : demand.Fault registry present error) :
    ¬ demand.Allowed registry present := by
  intro allowed
  cases fault with
  | middleware unknown => exact allowed unknown
  | handler unknown => exact allowed unknown
  | method invalid =>
    obtain ⟨methods, valid⟩ := allowed
    exact invalid methods valid
  | template unreadable =>
    obtain ⟨segments, readable⟩ := allowed.1
    rw [unreadable] at readable
    cases readable
  | taken readable there collide => exact allowed.2 _ there collide

namespace FirstFault

theorem single (fault : demand.Fault registry present error) :
    FirstFault registry present [demand] error :=
  ⟨[], demand, [], rfl, met_nil, by rwa [addresses, List.filterMap_nil, List.append_nil]⟩

theorem append_left (first : FirstFault registry present a error) (b : List Demand) :
    FirstFault registry present (a ++ b) error := by
  obtain ⟨before, demand, after, rfl, met, fault⟩ := first
  exact ⟨before, demand, after ++ b, by simp, met, fault⟩

theorem append_right (met : Met registry present a)
    (later : FirstFault registry (present ++ addresses a) b error) :
    FirstFault registry present (a ++ b) error := by
  obtain ⟨before, demand, after, rfl, metBefore, fault⟩ := later
  refine ⟨a ++ before, demand, after, by simp, met_append_iff.mpr ⟨met, metBefore⟩, ?_⟩
  rwa [addresses_append, ← List.append_assoc]

theorem not_met (first : FirstFault registry present demands error) :
    ¬ Met registry present demands := by
  obtain ⟨before, demand, after, rfl, -, fault⟩ := first
  rw [List.append_cons, met_append_iff, met_append_iff, met_singleton_iff]
  exact fun met => fault.not_allowed met.1.2

end FirstFault

end

/-- A look-up decides demands: it succeeds if they are met, and fails as the first of them that is not. -/
structure Decides {α : Type} (registry : Registry) (demands : List Demand)
    (answer : Except RouteError α) : Prop where
  met : ∀ {a}, answer = .ok a → ∀ present, Met registry present demands
  first : ∀ {error}, answer = .error error → ∀ present, FirstFault registry present demands error

namespace Registry

theorem middlewareNamed_decides (registry : Registry) (name : String) :
    Decides registry [.middleware name] (registry.middlewareNamed name) := by
  unfold middlewareNamed
  cases found : registry.middleware.lookup name with
  | some m =>
    exact ⟨fun _ _ => met_singleton_iff.mpr (found.trans_ne (Option.some_ne_none m)), nofun⟩
  | none => exact ⟨nofun, fun failed _ => Except.error.inj failed ▸ .single (.middleware found)⟩

theorem handler_decides (registry : Registry) (name : String) :
    Decides registry [.handler name] (registry.handler name) := by
  unfold handler
  cases found : registry.handlers.lookup name with
  | some h => exact ⟨fun _ _ => met_singleton_iff.mpr (found.trans_ne (Option.some_ne_none h)), nofun⟩
  | none => exact ⟨nofun, fun failed _ => Except.error.inj failed ▸ .single (.handler found)⟩

end Registry

namespace RouteEntry

theorem methodsOf_decides (registry : Registry) (name : String) :
    Decides registry [.method name] (methodsOf name) where
  met read _ := met_singleton_iff.mpr ⟨_, read⟩
  first {error} read _ := by
    have named : error = .invalidMethod name := by
      unfold methodsOf at read
      grind
    exact named ▸ .single (.method (by simp [read]))

/-- The names of methods are read in order. -/
theorem mapM_methodsOf_decides (registry : Registry) (names : List String) :
    Decides registry (names.map .method) (names.mapM methodsOf) := by
  induction names with
  | nil => exact ⟨fun _ _ => met_nil, nofun⟩
  | cons name rest ih =>
    have own := methodsOf_decides registry name
    have nothing (present : List (Method × String)) :
        present ++ addresses [.method name] = present := by simp [Demand.address?]
    rw [List.mapM_cons, List.map_cons]
    cases read : methodsOf name with
    | error error =>
      exact ⟨nofun, fun failed present =>
        Except.error.inj failed ▸ (own.first read present).append_left (rest.map .method)⟩
    | ok methods =>
      cases more : rest.mapM methodsOf with
      | error error =>
        refine ⟨nofun, fun failed present => Except.error.inj failed ▸ ?_⟩
        exact .append_right (own.met read present) ((nothing present).symm ▸ ih.first more present)
      | ok all =>
        refine ⟨fun _ present => ?_, nofun⟩
        exact met_append_iff.mpr
          ⟨own.met read present, (nothing present).symm ▸ ih.met more present⟩

theorem registeredMethods_decides (registry : Registry) (entry : RouteEntry) :
    Decides registry (entry.methodNames.map .method) entry.registeredMethods := by
  unfold registeredMethods
  by_cases empty : entry.methodNames.isEmpty = true
  · rw [if_pos empty, List.isEmpty_iff.mp empty]
    exact ⟨fun _ _ => met_nil, nofun⟩
  · rw [if_neg empty]
    have read := mapM_methodsOf_decides registry entry.methodNames
    cases all : entry.methodNames.mapM methodsOf with
    | error error =>
      exact ⟨nofun, fun failed present => Except.error.inj failed ▸ read.first all present⟩
    | ok methods => exact ⟨fun _ present => read.met all present, nofun⟩

/-- An entry is registered for at least one method. -/
theorem ne_nil_of_registeredMethods {entry : RouteEntry} {methods : List Method}
    (ok : entry.registeredMethods = .ok methods) : methods ≠ [] := by
  unfold registeredMethods at ok
  split at ok
  · cases ok
    exact List.cons_ne_nil _ _
  · rename_i named
    obtain ⟨name, rest, names⟩ := List.exists_cons_of_ne_nil (mt List.isEmpty_iff.mpr named)
    rw [names, List.mapM_cons] at ok
    cases first : methodsOf name with
    | error error =>
      rw [first] at ok
      cases ok
    | ok own =>
      rw [first] at ok
      cases more : rest.mapM methodsOf with
      | error error =>
        rw [more] at ok
        cases ok
      | ok all =>
        rw [more] at ok
        cases ok
        have nonempty : own ≠ [] := by
          unfold methodsOf at first
          grind [Method.standard]
        obtain ⟨m, mem⟩ := List.exists_mem_of_ne_nil own nonempty
        have kept : m ∈ distinct ((own :: all).flatten) :=
          (mem_distinct _ m).mpr (List.mem_append_left _ mem)
        exact List.ne_nil_of_mem kept

end RouteEntry

end RequestDispatch
