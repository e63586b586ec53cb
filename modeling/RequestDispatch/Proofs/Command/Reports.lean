import Mathlib.Data.List.TakeWhile
import RequestDispatch.Command.Report
import RequestDispatch.Proofs.Serving.AllowHeader
import RequestDispatch.Proofs.Serving.Handlings

/-!
# Reports of routing decisions

A report reads its argument as a path, while the request made from the same argument leaves a query and a
fragment out of its path.  For an argument without either, the report shows what the service does with the
request (`Dispatcher.decisionReport_agrees`).
-/

namespace RequestDispatch

open Routing (Captures Endpoint Lookup RouteDescription)

/-! ### Fields of objects -/

namespace Json

/-- The value of a field of an object. -/
def field? (name : String) : Json → Option Json
  | .obj fields => fields.lookup name
  | _ => none

theorem lookup_cons_eq {β : Type} (key name : String) (value : β) (fields : List (String × β)) :
    ((name, value) :: fields).lookup key = if key = name then some value else fields.lookup key := by
  by_cases same : key = name
  · rw [same, List.lookup_cons_self, if_pos rfl]
  · rw [List.lookup_cons, beq_false_of_ne same, if_neg same]

theorem lookup_setField (key name : String) (value : Json) (fields : List (String × Json)) :
    (setField name value fields).lookup key =
      if key = name then some value else fields.lookup key := by
  induction fields with
  | nil => exact lookup_cons_eq key name value []
  | cons field fields ih =>
    obtain ⟨n, v⟩ := field
    rw [setField]
    split
    · exact lookup_cons_eq key name value _
    split
    · rename_i replaced
      subst replaced
      rw [lookup_cons_eq, lookup_cons_eq]
      split <;> rfl
    · rename_i another
      rw [lookup_cons_eq, lookup_cons_eq, ih]
      by_cases here : key = n
      · have apart : key ≠ name := fun same => another (same.symm.trans here)
        rw [if_pos here, if_neg apart, if_pos here]
      · rw [if_neg here, if_neg here]

/-- Of two fields with one name the later counts. -/
theorem field?_object (name : String) (fields : List (String × Json)) :
    (object fields).field? name = fields.reverse.lookup name := by
  have set (listed : List (String × Json)) :
      (fields.foldl (fun listed field => setField field.1 field.2 listed) listed).lookup name =
        (fields.reverse ++ listed).lookup name := by
    induction fields generalizing listed with
    | nil => rfl
    | cons field fields ih =>
      rw [List.foldl_cons, ih, List.reverse_cons, List.append_assoc, List.lookup_append,
        List.lookup_append, lookup_setField, List.singleton_append, lookup_cons_eq]
  rw [object, field?, set, List.append_nil]

theorem nat_eq_iff {m n : Nat} : some (nat m) = some (nat n) ↔ m = n := by
  rw [nat, nat, Option.some_inj, num.injEq, Int.natCast_inj]

end Json

/-! ### Paths of targets -/

/-- Normalizing a path drops nothing but slashes. -/
theorem Routing.mem_normalize_iff {c : Char} (solid : c ≠ '/') {path : String} :
    c ∈ (normalize path).toList ↔ c ∈ path.toList := by
  have kept : c ∈ (path.toList.reverse.dropWhile (· = '/')).reverse ↔ c ∈ path.toList := by
    have slashes : c ∉ path.toList.reverse.takeWhile (· = '/') := fun mem =>
      solid (by simpa using List.mem_takeWhile_imp mem)
    calc c ∈ (path.toList.reverse.dropWhile (· = '/')).reverse
      _ ↔ c ∈ path.toList.reverse.takeWhile (· = '/') ++ path.toList.reverse.dropWhile (· = '/') := by
        rw [List.mem_reverse, List.mem_append, or_iff_right slashes]
      _ ↔ c ∈ path.toList := by rw [List.takeWhile_append_dropWhile, List.mem_reverse]
  rw [normalize, String.toList_ofList, normalizeChars]
  split
  · rename_i empty
    rw [List.isEmpty_iff.mp empty] at kept
    exact ⟨fun mem => absurd (List.mem_singleton.mp mem) solid,
      fun mem => absurd (kept.mpr mem) List.not_mem_nil⟩
  · exact kept

namespace Target

/-- Text that is free of a character goes on to its end. -/
theorem takeWhile_ne_eq_self {c : Char} {cs : List Char} (free : c ∉ cs) :
    cs.takeWhile (· ≠ c) = cs :=
  List.takeWhile_eq_self_iff.mpr fun _ mem => decide_eq_true (ne_of_mem_of_not_mem mem free)

theorem not_mem_takeWhile_ne {c : Char} {cs : List Char} : c ∉ cs.takeWhile (· ≠ c) := fun mem => by
  simpa using List.mem_takeWhile_imp mem

/-- A text that starts with a slash is a target in origin form. -/
theorem ofOrigin?_of_parse? {path : String} {target : Target} (rooted : path.toList.head? = some '/')
    (parsed : parse? path = some target) : ofOrigin? path.toList = some target := by
  obtain ⟨rest, chars⟩ : ∃ rest, path.toList = '/' :: rest := List.head?_eq_some_iff.mp rooted
  rw [parse?, chars] at parsed
  dsimp only at parsed
  split at parsed
  · cases parsed
  · rwa [chars]

/-- The path of a target is what stands before a query and a fragment. -/
theorem path_of_parse? {path : String} {target : Target} (rooted : path.toList.head? = some '/')
    (parsed : parse? path = some target) :
    target.path.toList = (path.toList.takeWhile (· ≠ '#')).takeWhile (· ≠ '?') := by
  have origin := ofOrigin?_of_parse? rooted parsed
  obtain ⟨rest, chars⟩ : ∃ rest, path.toList = '/' :: rest := List.head?_eq_some_iff.mp rooted
  have filled : (path.toList.takeWhile (· ≠ '#')).takeWhile (· ≠ '?') ≠ [] := by
    rw [chars, List.takeWhile_cons_of_pos (by decide), List.takeWhile_cons_of_pos (by decide)]
    exact List.cons_ne_nil _ _
  simp only [ofOrigin?, Option.ite_none_right_eq_some] at origin
  rw [← Option.some.inj origin.2, List.isEmpty_eq_false_iff.mpr filled]
  exact String.toList_ofList

/-- A path with neither query nor fragment is the target as it stands. -/
theorem parse?_path {path : String} {target : Target} (rooted : path.toList.head? = some '/')
    (query : '?' ∉ path.toList) (fragment : '#' ∉ path.toList) (parsed : parse? path = some target) :
    target = ⟨path, none⟩ := by
  have origin := ofOrigin?_of_parse? rooted parsed
  have filled : path.toList ≠ [] := fun empty => by simp [empty] at rooted
  have whole : path.toList.dropWhile (· ≠ '?') = [] :=
    List.dropWhile_eq_nil_iff.mpr fun _ mem => decide_eq_true (ne_of_mem_of_not_mem mem query)
  simp only [ofOrigin?, takeWhile_ne_eq_self fragment, takeWhile_ne_eq_self query, whole,
    List.isEmpty_eq_false_iff.mpr filled, Option.map_none] at origin
  split at origin
  · rw [← Option.some.inj origin]
    exact congrArg (Target.mk · none) String.ofList_toList
  · cases origin

/-- A target and the text it is read from have the same path up to slashes at the end exactly where the
text has neither query nor fragment. -/
theorem normalize_path_iff {path : String} {target : Target} (rooted : path.toList.head? = some '/')
    (parsed : parse? path = some target) :
    Routing.normalize path = Routing.normalize target.path ↔
      '?' ∉ path.toList ∧ '#' ∉ path.toList := by
  have located := path_of_parse? rooted parsed
  constructor
  · intro same
    have query : '?' ∉ target.path.toList := located ▸ not_mem_takeWhile_ne
    have fragment : '#' ∉ target.path.toList := fun mem =>
      not_mem_takeWhile_ne ((List.takeWhile_sublist _).subset (located ▸ mem))
    rw [← Routing.mem_normalize_iff (by decide), ← same, Routing.mem_normalize_iff (by decide)]
      at query fragment
    exact ⟨query, fragment⟩
  · rintro ⟨query, fragment⟩
    rw [parse?_path rooted query fragment parsed]

end Target

/-- A request without headers and body is made from any target that can be read. -/
theorem Request.build_bare {method : Method} {path : String} {request : Request}
    (built : build method.name path [] [] = .ok request) :
    ∃ target, Target.parse? path = some target ∧ request = ⟨method, target, [], []⟩ := by
  rw [build, method.ofString?_name] at built
  dsimp only at built
  cases parsed : Target.parse? path with
  | none =>
    rw [parsed] at built
    cases built
  | some target =>
    rw [parsed] at built
    cases built
    exact ⟨target, rfl, rfl⟩

/-! ### The report of a decision -/

namespace Routing.Lookup

variable {α β : Type} (found : Lookup α) (g : α → β)

theorem status_map : (found.map g).status = found.status := by
  cases found <;> rfl

theorem allowed_map : (found.map g).allowed = found.allowed := by
  cases found <;> rfl

theorem route_map : (found.map g).endpoint?.map Endpoint.route = found.endpoint?.map Endpoint.route := by
  cases found <;> rfl

theorem code_eq_200_iff : found.status.code = 200 ↔ ∃ endpoint, found = .found endpoint := by
  cases found <;> simp [status, Status.ok, Status.methodNotAllowed, Status.notFound]

theorem code_eq_405_iff : found.status.code = 405 ↔ ∃ allowed, found = .methodNotAllowed allowed := by
  cases found <;> simp [status, Status.ok, Status.methodNotAllowed, Status.notFound]

theorem code_eq_404_iff : found.status.code = 404 ↔ found = .notFound := by
  cases found <;> simp [status, Status.ok, Status.methodNotAllowed, Status.notFound]

end Routing.Lookup

theorem Service.binding_path (s : Service) (request : Request) (id : Ulid) :
    (s.binding request id).2.path = Routing.normalize request.target.path := by
  obtain ⟨-, -, located, -⟩ := s.binding_context request id
  exact located

/-- Without a hook the request that is served is the one that came in. -/
theorem Service.handling_of_no_hook (s : Service) (hook : s.hook = none) (depth : Nat) (request : Request)
    (e : Engine) :
    ∃ h, s.handling? depth request e = some h ∧ h.service = s ∧ h.request = request := by
  rw [handling?, afterHook, hook]
  exact ⟨_, rfl, rfl, rfl⟩

namespace Handling

variable (h : Handling)

theorem bound_path : h.bound.2.path = Routing.normalize h.request.target.path := by
  rw [bound, Service.binding_path]

theorem chain_of_methodNotAllowed {allowed : List Method}
    (decided : h.service.decision h.request = .methodNotAllowed allowed) :
    h.bound.1 = h.service.methodNotAllowed := by
  obtain ⟨c, eq, -⟩ := Service.binding_of_methodNotAllowed decided h.id
  rw [bound, eq]

theorem chain_of_notFound (decided : h.service.decision h.request = .notFound) :
    h.bound.1 = h.service.notFound := by
  rw [bound, Service.binding_of_notFound decided]

end Handling

namespace Dispatcher

variable {d : Dispatcher} {method : Method} {path : String} {captures : Captures}

/-- The service looks up what the report looks up. -/
theorem lookup_build (d : Dispatcher) (request : Request) :
    d.build.lookup request =
      (let result := d.router.lookup request.method (Routing.normalize request.target.path) .empty
      (result.1.map d.compose, result.2)) :=
  Routing.Router.lookup_map ..

theorem decisionReport_found {endpoint : Endpoint Mount}
    (looked : d.router.lookup method (Routing.normalize path) .empty = (.found endpoint, captures)) :
    d.decisionReport method path = .object
      [("method", .str method.name), ("path", .str (Routing.normalize path)), ("status", .nat 200),
       ("route", .str endpoint.route.template), ("handler", .str endpoint.route.handlerName),
       ("params", .arr ((endpoint.route.paramNames.zip captures.ranges).filterMap fun (name, r) =>
          (Utf8.slice? r (Routing.normalize path).toList).map fun value =>
            .strings [name, String.ofList value]))] := by
  rw [decisionReport]
  dsimp only
  rw [looked]
  rfl

theorem decisionReport_missing {found : Lookup Mount}
    (looked : d.router.lookup method (Routing.normalize path) .empty = (found, captures))
    (missing : found.endpoint? = none) :
    d.decisionReport method path = .object
      [("method", .str method.name), ("path", .str (Routing.normalize path)),
       ("status", .nat found.status.code),
       ("allowed", .strings (sortNames (found.allowed.map Method.name)))] := by
  rw [decisionReport]
  dsimp only
  rw [looked]
  cases found with
  | found endpoint => cases missing
  | _ => rfl

/-- The parameters of a context, read off its route and its captures. -/
theorem params_of_route {c : Context} {route : RouteDescription} (found : c.route = some route) :
    c.params.map (fun (name, value) => Json.strings [name, value]) =
      (route.paramNames.zip c.captures.ranges).filterMap fun (name, r) =>
        (Utf8.slice? r c.path.toList).map fun value => .strings [name, String.ofList value] := by
  rw [Context.params, Context.paramNames, found, List.map_filterMap]
  simp only [Option.map_map]
  rfl

/-- What a report shows of the context on which a request is served, and of what was decided for it. -/
structure Shows (report : Json) (decision : Lookup Mount) (c : Context) : Prop where
  path : report.field? "path" = some (.str c.path)
  route : report.field? "route" = c.route.map fun r => .str r.template
  handler : report.field? "handler" = c.route.map fun r => .str r.handlerName
  params : report.field? "params" =
    c.route.map fun _ => .arr (c.params.map fun (name, value) => .strings [name, value])
  status : report.field? "status" = some (.nat decision.status.code)
  allowed : (∀ endpoint, decision ≠ .found endpoint) →
    ∃ names, report.field? "allowed" = some (.strings names) ∧ names.Pairwise (· ≤ ·) ∧
      names.Perm (c.allowed.map Method.name)

/-- The report on a path shows what the service does with a request for it. -/
theorem decisionReport_shows (d : Dispatcher) (method : Method) (path : String) (id : Ulid) :
    Shows (d.decisionReport method path) (d.build.decision ⟨method, ⟨path, none⟩, [], []⟩)
      (d.build.binding ⟨method, ⟨path, none⟩, [], []⟩ id).2 := by
  rcases looked : d.router.lookup method (Routing.normalize path) .empty with ⟨found, captures⟩
  have same : d.build.lookup ⟨method, ⟨path, none⟩, [], []⟩ = (found.map d.compose, captures) := by
    rw [lookup_build, looked]
  obtain ⟨route, allowed, ranges⟩ := d.build.binding_found ⟨method, ⟨path, none⟩, [], []⟩ id
  have located := d.build.binding_path ⟨method, ⟨path, none⟩, [], []⟩ id
  generalize (d.build.binding _ id).2 = c at route allowed ranges located
  rw [Service.decision, same] at route allowed ⊢
  rw [same] at ranges
  dsimp only at route allowed ranges located ⊢
  rw [Lookup.route_map] at route
  rw [Lookup.allowed_map] at allowed
  cases result : found.endpoint? with
  | some endpoint =>
    obtain rfl := Lookup.endpoint?_eq_some_iff.mp result
    replace route : c.route = some endpoint.route := route
    rw [decisionReport_found looked]
    exact {
      path := by rw [Json.field?_object, located]; rfl
      route := by rw [Json.field?_object, route]; rfl
      handler := by rw [Json.field?_object, route]; rfl
      params := by
        rw [Json.field?_object, route, Option.map_some, params_of_route route, located, ranges]
        rfl
      status := by rw [Json.field?_object]; rfl
      allowed := fun missing => absurd rfl (missing _) }
  | none =>
    rw [result, Option.map_none] at route
    rw [decisionReport_missing looked result]
    exact {
      path := by rw [Json.field?_object, located]; rfl
      route := by rw [Json.field?_object, route]; rfl
      handler := by rw [Json.field?_object, route]; rfl
      params := by rw [Json.field?_object, route]; rfl
      status := by rw [Json.field?_object, Lookup.status_map]; rfl
      allowed := fun _ => by
        rw [Json.field?_object, allowed]
        exact ⟨_, rfl, ascending_sortNames _, List.mergeSort_perm _ _⟩ }

/-- Without a hook, for an argument that starts with a slash, the report shows the path of the context on
which the service starts the chain of the request made from the argument, unless the argument has a query
or a fragment.  Where it has neither, the report shows what else the context holds, and its status tells
which of the fallbacks runs, if one does. -/
theorem decisionReport_agrees {d : Dispatcher} (hook : d.hook = none) {method : Method} {path : String}
    (rooted : path.toList.head? = some '/') {request : Request}
    (built : Request.build method.name path [] [] = .ok request) (depth : Nat) (e : Engine) :
    let s := d.build
    let report := d.decisionReport method path
    ∃ h, s.handling? depth request e = some h ∧
      (report.field? "path" = some (.str h.bound.2.path) ↔ '?' ∉ path.toList ∧ '#' ∉ path.toList) ∧
      ('?' ∉ path.toList → '#' ∉ path.toList →
        Shows report (s.decision request) h.bound.2 ∧
        (report.field? "status" = some (.nat 405) ↔
          ∃ allowed, s.decision request = .methodNotAllowed allowed ∧ h.bound.1 = s.methodNotAllowed) ∧
        (report.field? "status" = some (.nat 404) ↔
          s.decision request = .notFound ∧ h.bound.1 = s.notFound)) := by
  intro s report
  obtain ⟨target, parsed, rfl⟩ := Request.build_bare built
  obtain ⟨h, admitted, service, served⟩ :=
    s.handling_of_no_hook hook depth ⟨method, target, [], []⟩ e
  have shows : Shows report _ _ := d.decisionReport_shows method path h.id
  refine ⟨h, admitted, ?_, fun query fragment => ?_⟩
  · rw [shows.path, Service.binding_path, h.bound_path, served, Option.some_inj, Json.str.injEq]
    exact Target.normalize_path_iff rooted parsed
  · obtain rfl := Target.parse?_path rooted query fragment parsed
    let request : Request := ⟨method, ⟨path, none⟩, [], []⟩
    have decides : h.service.decision h.request = s.decision request := by rw [service, served]
    have bound : h.bound = s.binding request h.id := by rw [Handling.bound, service, served]
    rw [bound]
    refine ⟨shows, ?_, ?_⟩
    · rw [shows.status, Json.nat_eq_iff, Lookup.code_eq_405_iff]
      refine exists_congr fun allowed => (and_iff_left_of_imp fun decided => ?_).symm
      rw [← bound, h.chain_of_methodNotAllowed (decides.trans decided), service]
    · rw [shows.status, Json.nat_eq_iff, Lookup.code_eq_404_iff]
      refine (and_iff_left_of_imp fun decided => ?_).symm
      rw [← bound, h.chain_of_notFound (decides.trans decided), service]

/-- Slashes at the end of the argument, and a method that the route does not have. -/
theorem decisionReport_agrees_trailing :
    let d := after .standard [.route [.get] "/users/:id" .echo]
    let path := "/users/42//"
    let request (m : Method) : Request := ⟨m, ⟨path, none⟩, [], []⟩
    let e := Engine.create (.empty 1) Ulid.ofNat
    d.hook = none ∧ path.toList.head? = some '/' ∧ '?' ∉ path.toList ∧ '#' ∉ path.toList ∧
      (∀ m : Method, Request.build m.name path [] [] = .ok (request m)) ∧
      ∀ m, ∃ h, d.build.handling? 0 (request m) e = some h ∧
        Shows (d.decisionReport m path) (d.build.decision (request m)) h.bound.2 := by
  intro d path request e
  have hook : d.hook = none := Option.isNone_iff_eq_none.mp (by decide +kernel)
  have built (m : Method) : Request.build m.name path [] [] = .ok (request m) := by
    have parsed : Target.parse? path = some ⟨path, none⟩ := by decide +kernel
    rw [Request.build, m.ofString?_name]
    dsimp only
    rw [parsed]
    rfl
  refine ⟨hook, by decide, by decide, by decide, built, fun m => ?_⟩
  obtain ⟨h, admitted, -, agrees⟩ := decisionReport_agrees hook (by decide) (built m) 0 e
  exact ⟨h, admitted, (agrees (by decide) (by decide)).1⟩

/-- A query in the argument: the report looks for a path that has it in it and finds no route, while the
service runs the route of the path without it. -/
theorem decisionReport_reads_query :
    let d := after .standard [.route [.get] "/health" .statusOk]
    let path := "/health?x=1"
    let request : Request := ⟨.get, ⟨"/health", some "x=1"⟩, [], []⟩
    let report := d.decisionReport .get path
    d.hook = none ∧ path.toList.head? = some '/' ∧ Request.build "GET" path [] [] = .ok request ∧
      (∃ endpoint, d.build.decision request = .found endpoint) ∧
      report.field? "status" = some (.nat 404) ∧
      ∀ id, ¬Shows report (d.build.decision request) (d.build.binding request id).2 := by
  intro d path request report
  have hook : d.hook = none := Option.isNone_iff_eq_none.mp (by decide +kernel)
  have served : (d.build.decision request).status.code = 200 := by decide +kernel
  have told : report.field? "status" = some (.nat 404) := by
    have missing : (d.build.decision ⟨.get, ⟨path, none⟩, [], []⟩).status.code = 404 := by
      decide +kernel
    rw [(d.decisionReport_shows .get path .nil).status, missing]
  refine ⟨hook, by decide, by decide +kernel, (Lookup.code_eq_200_iff _).mp served, told,
    fun id shows => ?_⟩
  have status := told.symm.trans shows.status
  rw [served, Json.nat_eq_iff] at status
  exact absurd status (by decide)

end Dispatcher

end RequestDispatch
