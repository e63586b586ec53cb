import RequestDispatch.Proofs.Routing.Refusals
import RequestDispatch.Proofs.Setup.Demands
import RequestDispatch.Proofs.Setup.Steps

/-!
# The methods of a table entry

An entry names its methods in two fields, in any case, repeatedly and mixed with `ANY`.  It is refused for
the first name that is neither `ANY` nor a method.  Otherwise each method is registered where it is named
first and only once, so an entry never conflicts with itself (`RouteEntry.registers_once`).
-/

namespace RequestDispatch

open Routing

section Distinct

variable {α : Type} [DecidableEq α]

/-- What is added is what is not listed yet, each item once. -/
theorem addDistinct_eq (listed items : List α) :
    addDistinct listed items = listed ++ (items.removeAll listed).eraseDups := by
  induction items generalizing listed with
  | nil => exact (List.append_nil listed).symm
  | cons a items ih =>
    have step : addDistinct listed (a :: items) =
        addDistinct (if a ∈ listed then listed else listed ++ [a]) items := rfl
    rw [step, ih]
    by_cases known : a ∈ listed
    · rw [if_pos known, List.cons_removeAll]
      simp [known]
    · have later : items.removeAll (listed ++ [a]) =
          (items.removeAll listed).filter fun b => !b == a := by
        simp only [List.removeAll, List.filter_filter]
        refine List.filter_congr fun b _ => ?_
        simp [Bool.and_comm, beq_eq_decide]
      rw [if_neg known, List.cons_removeAll, later]
      simp [known, List.eraseDups_cons]

theorem distinct_eq_eraseDups (items : List α) : distinct items = items.eraseDups := by
  rw [distinct, addDistinct_eq, List.nil_append]
  simp [List.removeAll]

end Distinct

namespace RouteEntry

/-- In upper case and without its blank margin the name is `ANY` or a token. -/
def NamesMethods (name : String) : Prop :=
  Text.upper (Text.trim name) = "ANY" ∨ isToken (Text.upper (Text.trim name)) = true

instance (name : String) : Decidable (NamesMethods name) :=
  inferInstanceAs (Decidable (_ ∨ _))

/-- The methods that a name stands for; none if it is no name of methods. -/
def methodsNamed (name : String) : List Method :=
  if Text.upper (Text.trim name) = "ANY" then Method.standard
  else (Method.ofString? (Text.upper (Text.trim name))).toList

theorem methodsOf_named {name : String} (named : NamesMethods name) :
    methodsOf name = .ok (methodsNamed name) := by
  unfold methodsOf methodsNamed
  by_cases any : Text.upper (Text.trim name) = "ANY"
  · simp only [any, if_true]
  · have token := named.resolve_left any
    simp only [any, if_false, Method.ofString?, token, dif_pos, Option.toList_some]

theorem methodsOf_unnamed {name : String} (unnamed : ¬ NamesMethods name) :
    methodsOf name = .error (.invalidMethod name) := by
  obtain ⟨other, invalid⟩ := not_or.mp unnamed
  unfold methodsOf Method.ofString?
  rw [if_neg other, dif_neg invalid]

/-- The first name that is invalid, among names of which not all are valid. -/
def FirstInvalid (names : List String) (name : String) : Prop :=
  ∃ before after, names = before ++ name :: after ∧ (∀ earlier ∈ before, NamesMethods earlier) ∧
    ¬ NamesMethods name

theorem FirstInvalid.cons {names : List String} {first name : String} (valid : NamesMethods first)
    (invalid : FirstInvalid names name) : FirstInvalid (first :: names) name := by
  obtain ⟨before, after, rfl, earlier, refused⟩ := invalid
  exact ⟨first :: before, after, rfl, List.forall_mem_cons.mpr ⟨valid, earlier⟩, refused⟩

theorem mapM_methodsOf_valid {names : List String} (valid : ∀ name ∈ names, NamesMethods name) :
    names.mapM methodsOf = .ok (names.map methodsNamed) := by
  induction names with
  | nil => rfl
  | cons name rest ih =>
    obtain ⟨named, others⟩ := List.forall_mem_cons.mp valid
    rw [List.mapM_cons, methodsOf_named named, ih others, List.map_cons]
    rfl

/-- Names are read in order up to the first that is invalid. -/
theorem mapM_methodsOf_invalid {names : List String} {name : String}
    (invalid : FirstInvalid names name) :
    names.mapM methodsOf = .error (.invalidMethod name) := by
  obtain ⟨before, after, rfl, valid, refused⟩ := invalid
  rw [List.mapM_append, mapM_methodsOf_valid valid, List.mapM_cons, methodsOf_unnamed refused]
  rfl

theorem valid_or_firstInvalid (names : List String) :
    (∀ name ∈ names, NamesMethods name) ∨ ∃ name, FirstInvalid names name := by
  induction names with
  | nil => exact .inl (List.forall_mem_nil _)
  | cons name rest ih =>
    rcases Decidable.em (NamesMethods name) with named | unnamed
    · refine ih.imp (fun valid => List.forall_mem_cons.mpr ⟨named, valid⟩) ?_
      rintro ⟨first, invalid⟩
      exact ⟨first, invalid.cons named⟩
    · exact .inr ⟨name, [], rest, rfl, List.forall_mem_nil _, unnamed⟩

/-- The methods of names that are all valid. -/
theorem registeredMethods_valid {entry : RouteEntry}
    (valid : ∀ name ∈ entry.methodNames, NamesMethods name) :
    entry.registeredMethods = .ok (if entry.methodNames = [] then [.get]
      else (entry.methodNames.flatMap methodsNamed).eraseDups) := by
  unfold registeredMethods
  by_cases empty : entry.methodNames = []
  · rw [if_pos (List.isEmpty_iff.mpr empty), if_pos empty]
  · rw [if_neg (mt List.isEmpty_iff.mp empty), if_neg empty, mapM_methodsOf_valid valid,
      ← distinct_eq_eraseDups, List.flatMap_def, Except.map]

theorem registeredMethods_invalid {entry : RouteEntry} {name : String}
    (invalid : FirstInvalid entry.methodNames name) :
    entry.registeredMethods = .error (.invalidMethod name) := by
  have some : entry.methodNames ≠ [] := by
    obtain ⟨before, after, eq, -⟩ := invalid
    rw [eq]
    exact List.append_ne_nil_of_right_ne_nil _ (List.cons_ne_nil _ _)
  unfold registeredMethods
  rw [if_neg (mt List.isEmpty_iff.mp some), mapM_methodsOf_invalid invalid, Except.map]

end RouteEntry

namespace Setup

/-- Routes for methods that differ from each other, at a place that is free for each of them, are all
taken up. -/
theorem forM_add_admitted (site : Site) (path : String) (handler : Handler) {methods : List Method}
    (differ : methods.Nodup) {registered : List (Submission Mount)} {s : SetupState}
    (records : s.dispatcher.router.Records registered)
    (admitted : ∀ m ∈ methods,
      Admits registered (request site.scope (templateAt site path) handler m)) :
    ∃ router events,
      (methods.forM fun m => add site m path handler).run s =
          (.ok (), ⟨{ s.dispatcher with router := router }, events⟩) ∧
        router.Records
          (registered ++ methods.map (request site.scope (templateAt site path) handler)) := by
  induction methods generalizing s registered with
  | nil => exact ⟨s.dispatcher.router, s.events, rfl, by rwa [List.map_nil, List.append_nil]⟩
  | cons m rest ih =>
    obtain ⟨fresh, differ⟩ := List.nodup_cons.mp differ
    obtain ⟨here, others⟩ := List.forall_mem_cons.mp admitted
    obtain ⟨route, router, ok⟩ := records.holds.accepts_iff.mpr here
    have first : (add site m path handler).run s = _ := mount_admitted ok
    have recordsNext := (records.submit_ok ok).2
    have admittedNext : ∀ n ∈ rest,
        Admits (registered ++ [request site.scope (templateAt site path) handler m])
          (request site.scope (templateAt site path) handler n) := by
      intro n mem
      refine ⟨(others n mem).1, List.forall_mem_append.mpr ⟨(others n mem).2, ?_⟩⟩
      rw [List.forall_mem_singleton]
      intro same
      obtain rfl : m = n := same.1
      exact fresh mem
    obtain ⟨routerNext, events, ran, recordsAll⟩ :=
      ih differ (s := ⟨{ s.dispatcher with router := router }, _⟩) recordsNext admittedNext
    refine ⟨routerNext, events, ?_, ?_⟩
    · have unfolded : ((m :: rest).forM fun m => add site m path handler).run s =
          (add site m path handler >>= fun _ => rest.forM fun m => add site m path handler).run s := rfl
      rw [unfolded, run_bind, first]
      exact ran
    · rwa [List.append_assoc] at recordsAll

/-- Methods that differ from each other are registered at a readable path whose shape none of them has
yet, and nothing but the router is touched. -/
theorem route_admitted {site : Site} {methods : List Method} {path : String} (handler : Handler)
    {d : Dispatcher} {registered : List (Submission Mount)} (nonempty : methods ≠ [])
    (differ : methods.Nodup) (records : d.router.Records registered)
    (readable : ∃ segments, Template.parse (templateAt site path) = .ok segments)
    (free : ∀ t ∈ registered, t.method ∈ methods →
      ¬ Template.SameShape t.template (templateAt site path)) :
    ∃ router, (on d (route site methods path handler)).1 = .ok () ∧
      (on d (route site methods path handler)).2.1 = { d with router := router } ∧
      router.Records (registered ++ methods.map (request site.scope (templateAt site path) handler)) := by
  obtain ⟨segments, parsed⟩ := readable
  have admitted : ∀ m ∈ methods,
      Admits registered (request site.scope (templateAt site path) handler m) := by
    intro m mem
    obtain ⟨read, -⟩ := Submission.readable_of_parse
      (s := request site.scope (templateAt site path) handler m) parsed
    refine ⟨read, fun t there same => ?_⟩
    have shape := ((records.holds.readable t there).sameShape_iff read).mpr same.2
    have method : t.method = m := same.1
    exact free t there (method ▸ mem) shape
  obtain ⟨router, events, ran, recordsNext⟩ :=
    forM_add_admitted site path handler differ (s := ⟨d, []⟩) records admitted
  have whole : on d (route site methods path handler) =
      (.ok (), { d with router := router }, events.reverse) := by
    unfold on
    rw [route_eq_forM, orGet, if_neg (mt List.isEmpty_iff.mp nonempty), ran]
  rw [whole]
  exact ⟨router, rfl, rfl, recordsNext⟩

end Setup

namespace RouteEntry

/-- The first name of an entry that is invalid is reported.  Otherwise the methods of the entry are those
of its names in order, `ANY` for all standard ones, each where it occurs first; an entry without names is
for `GET`.  Wherever the path of the entry can be read and its shape is free for these methods, all of them
are registered. -/
theorem registers_once (entry : RouteEntry) :
    let names := entry.method.toList ++ entry.methods
    (∃ name, FirstInvalid names name ∧ entry.registeredMethods = .error (.invalidMethod name)) ∨
    ∃ methods, entry.registeredMethods = .ok methods ∧
      (∀ name ∈ names, NamesMethods name) ∧
      methods = (if names = [] then [.get] else (names.flatMap methodsNamed).eraseDups) ∧
      methods ≠ [] ∧ methods.Nodup ∧
      ∀ (site : Site) (handler : Handler) (d : Dispatcher) (registered : List (Submission Mount)),
        let template := Setup.templateAt site entry.path
        let run := Setup.on d (Setup.route site methods entry.path handler)
        d.router.Records registered → (∃ segments, Template.parse template = .ok segments) →
        (∀ t ∈ registered, t.method ∈ methods → ¬ Template.SameShape t.template template) →
        run.1 = .ok () ∧ ∃ router, run.2.1 = { d with router := router } ∧
          router.Records (registered ++ methods.map (Setup.request site.scope template handler)) ∧
          router.routes.length = d.router.routes.length + methods.length := by
  intro names
  rcases valid_or_firstInvalid names with valid | ⟨name, invalid⟩
  · have answer := registeredMethods_valid valid
    refine .inr ⟨_, answer, valid, rfl, ?_⟩
    have nonempty := ne_nil_of_registeredMethods answer
    have differ : (if names = [] then [Method.get]
        else (names.flatMap methodsNamed).eraseDups).Nodup := by
      split
      · exact List.pairwise_singleton _ _
      · rw [← distinct_eq_eraseDups]
        exact nodup_distinct _
    refine ⟨nonempty, differ, fun site handler d registered => ?_⟩
    intro template run records readable free
    obtain ⟨router, ran, left, recordsNext⟩ :=
      Setup.route_admitted handler nonempty differ records readable free
    refine ⟨ran, router, left, recordsNext, ?_⟩
    rw [recordsNext.listed, records.listed, List.length_map, List.length_map, List.length_append,
      List.length_map]
  · exact .inl ⟨name, invalid, registeredMethods_invalid invalid⟩

/-- An entry that names `GET` three times, in one case and another, is registered next to a route of the
same shape for a method it does not name. -/
theorem registers_once_overlapping :
    let entry : RouteEntry := ⟨some " get ", ["ANY", "purge", "Get"], "/tree/:leaf", "echo"⟩
    let methods : List Method :=
      [.get, .connect, .delete, .head, .options, .patch, .post, .put, .trace, ⟨"PURGE", by decide⟩]
    let held : Submission Mount := ⟨⟨"LINK", by decide⟩, "/tree/:node", "ok", ⟨none, ⟨[], .statusOk⟩⟩⟩
    let d := { Dispatcher.create .standard with router := Router.empty.addAll [held] }
    let run := Setup.on d (Setup.route .outside methods entry.path .echo)
    entry.registeredMethods = .ok methods ∧ run.1 = .ok () ∧ run.2.1.router.routes.length = 11 := by
  intro entry methods held d run
  have read : entry.registeredMethods = .ok methods := by decide +kernel
  rcases registers_once entry with ⟨_, -, refused⟩ | ⟨_, answer, -, -, -, -, taken⟩
  · cases read.symm.trans refused
  cases read.symm.trans answer
  have parsed : Template.parse held.template =
      .ok [.literal "/tree/".toList, .param "node".toList] := by decide +kernel
  have all : Router.empty.accepted [held] = [held] :=
    Router.empty_holds.accepted_eq_self
      (List.forall_mem_singleton.mpr (Submission.readable_of_parse parsed).1)
      (List.pairwise_singleton _ _)
  have records : d.router.Records [held] := all ▸ Router.records_accepted [held]
  have foreign : held.method ∉ methods := by decide
  obtain ⟨ran, router, left, -, count⟩ := taken .outside .echo d [held] records
    ⟨[.literal "/tree/".toList, .param "leaf".toList], by decide +kernel⟩
    (List.forall_mem_singleton.mpr fun named => absurd named foreign)
  refine ⟨read, ran, ?_⟩
  rw [left, count, records.listed]
  rfl

end RouteEntry

end RequestDispatch
