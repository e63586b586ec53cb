import Mathlib.Data.Option.Basic
import Mathlib.Order.Basic
import RequestDispatch.Proofs.Command.Reports
import RequestDispatch.Proofs.Routing.CaptureBound

/-!
# Parameters as a context shows them

A context holds the ranges that the lookup captured and the description of the route, whose names belong to
them in order.  Counts, names, values by position and values by name are each read off these two in a way of
its own.  On every context of a request they agree (`Handling.params_agree`): the ranges are those of the
route that was found, so each of them has a name and lies within the path, and none is left over where a
fallback runs.
-/

namespace RequestDispatch

open Routing (Captured Lookup Resolves)

/-! ### Names and values in pairs -/

section Pairs

variable {β γ : Type} {name : String}

theorem lookup_zip (names : List String) (values : List β) :
    (names.zip values).lookup name = (names.idxOf? name).bind fun i => values[i]? := by
  induction names generalizing values with
  | nil => rfl
  | cons n names ih =>
    cases values with
    | nil => simp
    | cons value values =>
      rw [List.zip_cons_cons, Json.lookup_cons_eq, ih, List.idxOf?_cons]
      by_cases here : name = n
      · simp [here]
      · simp [here, Ne.symm here, Option.bind_map]

/-- The position of the last occurrence of a name is that of its value in the last pair with the name. -/
theorem lookup_reverse_zip {names : List String} {values : List β} (counted : names.length = values.length) :
    (names.zip values).reverse.lookup name =
      (Context.lastIndexOf? name names).bind fun i => values[i]? := by
  have reversed : (names.zip values).reverse = names.reverse.zip values.reverse :=
    List.reverse_zipWith counted
  rw [reversed, lookup_zip, Context.lastIndexOf?, Option.bind_map]
  refine Option.bind_congr fun i found => ?_
  obtain ⟨inside, -⟩ := List.idxOf?_eq_some_iff.mp found
  rw [List.length_reverse, counted] at inside
  simp [List.getElem?_reverse inside, counted]

theorem lookup_map_snd (f : β → γ) (pairs : List (String × β)) :
    (pairs.map fun pair => (pair.1, f pair.2)).lookup name = (pairs.lookup name).map f := by
  induction pairs with
  | nil => rfl
  | cons pair pairs ih =>
    rw [List.map_cons, Json.lookup_cons_eq, Json.lookup_cons_eq, ih]
    split <;> rfl

/-- Looked up from the end, a name has the value of the last pair with it. -/
theorem lookup_reverse_eq_some_iff {pairs : List (String × β)} {value : β} :
    pairs.reverse.lookup name = some value ↔
      ∃ front later, pairs = front ++ (name, value) :: later ∧ ∀ pair ∈ later, pair.1 ≠ name := by
  rw [List.lookup_eq_some_iff]
  constructor
  · rintro ⟨later, front, split, apart⟩
    refine ⟨front.reverse, later.reverse, ?_, fun pair mem same => ?_⟩
    · rw [← List.reverse_reverse pairs, split]
      simp
    · exact absurd (apart pair (List.mem_reverse.mp mem)) (by simp [same])
  · rintro ⟨front, later, rfl, apart⟩
    refine ⟨later.reverse, front.reverse, by simp, fun pair mem => ?_⟩
    exact bne_iff_ne.mpr (apart pair (List.mem_reverse.mp mem)).symm

theorem lookup_reverse_eq_none_iff {pairs : List (String × β)} :
    pairs.reverse.lookup name = none ↔ ∀ pair ∈ pairs, pair.1 ≠ name := by
  rw [List.lookup_eq_none_iff]
  refine forall_congr' fun pair => ?_
  rw [List.mem_reverse, bne_iff_ne, ne_comm]

variable {read : β → Option γ} {xs : List β} {values : List γ}

theorem filterMap_zip (reads : List.Forall₂ (fun x value => read x = some value) xs values)
    (names : List String) :
    ((names.zip xs).filterMap fun (n, x) => (read x).map fun value => (n, value)) = names.zip values := by
  induction reads generalizing names with
  | nil => simp
  | cons here _ ih =>
    cases names with
    | nil => rfl
    | cons n names => simp [here, ih]

theorem getElem?_bind (reads : List.Forall₂ (fun x value => read x = some value) xs values) (i : Nat) :
    (xs[i]?).bind read = values[i]? := by
  induction reads generalizing i with
  | nil => rfl
  | cons here _ ih =>
    cases i with
    | zero => simp [here]
    | succ i => simp [ih]

theorem isSome_of_mem (reads : List.Forall₂ (fun x value => read x = some value) xs values) :
    ∀ x ∈ xs, (read x).isSome := by
  induction reads with
  | nil => exact List.forall_mem_nil _
  | cons here _ ih => exact List.forall_mem_cons.mpr ⟨by simp [here], ih⟩

end Pairs

namespace Context

/-- The ranges of the context hold the values, and each of them has a name. -/
structure Holds (c : Context) (values : List String) : Prop where
  sliced : List.Forall₂
    (fun r value => (Utf8.slice? r c.path.toList).map String.ofList = some value) c.captures.ranges values
  named : c.paramNames.length = values.length

namespace Holds

variable {c : Context} {values : List String}

theorem captureCount_eq (holds : c.Holds values) : c.captureCount = values.length :=
  holds.sliced.length_eq

theorem params_eq (holds : c.Holds values) : c.params = c.paramNames.zip values := by
  rw [← filterMap_zip holds.sliced]
  unfold params
  simp only [Option.map_map]
  rfl

theorem paramAt_eq (holds : c.Holds values) (i : Nat) : c.paramAt i = values[i]? :=
  getElem?_bind holds.sliced i

theorem param_eq (holds : c.Holds values) (name : String) : c.param name = c.params.reverse.lookup name := by
  rw [holds.params_eq, lookup_reverse_zip holds.named, param]
  simp only [holds.paramAt_eq]

end Holds

end Context

/-! ### Names of fields -/

namespace Json

theorem mem_names_iff {name : String} {object : Json} :
    name ∈ object.names ↔ (object.field? name).isSome := by
  cases object with
  | obj fields =>
    rw [names, field?, List.lookup_isSome_iff, List.mem_map]
    exact exists_congr fun field => and_congr_right fun _ => by rw [beq_iff_eq, eq_comm]
  | _ => simp [names, field?]

theorem fst_of_mem_setField {name : String} {value : Json} {fields : List (String × Json)}
    {field : String × Json} (mem : field ∈ setField name value fields) :
    field.1 = name ∨ field ∈ fields := by
  fun_induction setField name value fields with
  | case4 n v rest _ _ ih =>
    rcases List.mem_cons.mp mem with rfl | later
    · exact .inr (List.mem_cons_self ..)
    · exact (ih later).imp_right (List.mem_cons_of_mem _)
  | _ => grind

/-- The fields stay in ascending order of their names. -/
theorem ascending_setField (name : String) (value : Json) {fields : List (String × Json)}
    (ascending : fields.Pairwise fun a b => a.1 < b.1) :
    (setField name value fields).Pairwise fun a b => a.1 < b.1 := by
  fun_induction setField name value fields with
  | case1 => exact List.pairwise_singleton ..
  | case2 n v rest before =>
    refine List.pairwise_cons.mpr ⟨fun field mem => ?_, ascending⟩
    rcases List.mem_cons.mp mem with rfl | later
    · exact before
    · exact Std.lt_trans before (List.rel_of_pairwise_cons ascending later)
  | case3 v rest => exact List.pairwise_cons.mpr (List.pairwise_cons.mp ascending)
  | case4 n v rest before other ih =>
    obtain ⟨first, others⟩ := List.pairwise_cons.mp ascending
    refine List.pairwise_cons.mpr ⟨fun field mem => ?_, ih others⟩
    rcases fst_of_mem_setField mem with set | later
    · rw [set]
      exact Std.lt_of_le_of_ne (Std.not_lt.mp before) (Ne.symm other)
    · exact first field later

theorem nodup_names_object (fields : List (String × Json)) : (object fields).names.Nodup := by
  have ascending (listed : List (String × Json)) (sorted : listed.Pairwise fun a b => a.1 < b.1) :
      (fields.foldl (fun listed field => setField field.1 field.2 listed) listed).Pairwise
        fun a b => a.1 < b.1 := by
    induction fields generalizing listed with
    | nil => exact sorted
    | cons field fields ih => exact ih _ (ascending_setField _ _ sorted)
  refine List.pairwise_map.mpr ((ascending [] .nil).imp fun before same => ?_)
  rw [same] at before
  exact Std.lt_irrefl before

end Json

/-! ### The context of a request -/

namespace Context

/-- The parameters of a context are the same however they are asked for. -/
structure ParamsAgree (c : Context) : Prop where
  /-- What is cut out of the path lies between two of its characters on both sides. -/
  sliced : ∀ r ∈ c.captures.ranges, ∃ front middle rest, c.path.toList = front ++ (middle ++ rest) ∧
    r = ⟨Utf8.width front, Utf8.width front + Utf8.width middle⟩
  counted : c.params.length = c.captureCount ∧ c.paramNames.length = c.captureCount
  named : c.params.map Prod.fst = c.paramNames
  placed : ∀ i, c.paramAt i = (c.params[i]?).map Prod.snd
  /-- Of several pairs with one name the last counts. -/
  last : ∀ name value, c.param name = some value ↔
    ∃ front later, c.params = front ++ (name, value) :: later ∧ ∀ pair ∈ later, pair.1 ≠ name
  missing : ∀ name, c.param name = none ↔ ∀ pair ∈ c.params, pair.1 ≠ name
  /-- The handler `echo` sends an object in which each of the names stands once, with its value. -/
  echoed : ∃ written object, Handler.echo.program c = .sent (c.sendJson .ok written) ∧
    written.field? "params" = some object ∧ object.names.Nodup ∧
    (∀ name, name ∈ object.names ↔ name ∈ c.params.map Prod.fst) ∧
    ∀ name, object.field? name = (c.param name).map .str

/-- Nothing is known of a route or of parameters. -/
structure Unrouted (c : Context) : Prop where
  route : c.route = none
  count : c.captureCount = 0
  names : c.paramNames = []
  params : c.params = []
  paramAt : ∀ i, c.paramAt i = none
  param : ∀ name, c.param name = none

namespace Holds

variable {c : Context} {values : List String}

theorem param_eq_none_iff (holds : c.Holds values) (name : String) :
    c.param name = none ↔ ∀ pair ∈ c.params, pair.1 ≠ name := by
  rw [holds.param_eq]
  exact lookup_reverse_eq_none_iff

theorem paramsAgree (holds : c.Holds values) : c.ParamsAgree where
  sliced r mem := by
    have cut := isSome_of_mem holds.sliced r mem
    rw [Option.isSome_map] at cut
    obtain ⟨middle, cut⟩ := Option.isSome_iff_exists.mp cut
    obtain ⟨front, rest, split, place⟩ := Utf8.slice?_eq_some_iff.mp cut
    exact ⟨front, middle, rest, split, place⟩
  counted := by
    rw [holds.params_eq, List.length_zip, holds.named, Nat.min_self, holds.captureCount_eq]
    exact ⟨rfl, rfl⟩
  named := by
    rw [holds.params_eq, List.map_fst_zip holds.named.le]
  placed i := by
    have values : c.params.map Prod.snd = values := by
      rw [holds.params_eq, List.map_snd_zip holds.named.ge]
    rw [holds.paramAt_eq, ← List.getElem?_map, values]
  last name value := by
    rw [holds.param_eq]
    exact lookup_reverse_eq_some_iff
  missing := holds.param_eq_none_iff
  echoed := by
    have values (name : String) :
        (Json.object (c.params.map fun pair => (pair.1, .str pair.2))).field? name =
          (c.param name).map .str := by
      rw [Json.field?_object, ← List.map_reverse, lookup_map_snd, holds.param_eq]
    refine ⟨Handler.description c, _, rfl, ?_, Json.nodup_names_object _, fun name => ?_, values⟩
    · rw [Handler.description, Json.field?_object]
      rfl
    · rw [Json.mem_names_iff, values, Option.isSome_map, Option.isSome_iff_ne_none, Ne,
        holds.param_eq_none_iff]
      simp

/-- What operations on a context make of it holds the same. -/
theorem evolves {c' : Context} (holds : c.Holds values) (evolved : c.Evolves c') : c'.Holds values where
  sliced := by
    rw [evolved.path, evolved.captures]
    exact holds.sliced
  named := by
    rw [paramNames, evolved.route]
    exact holds.named

/-- Without a route there are no names, so nothing can have been captured either. -/
theorem unrouted (holds : c.Holds values) (none : c.route = none) : c.Unrouted := by
  have names : c.paramNames = [] := by rw [paramNames, none]; rfl
  obtain rfl : values = [] := by
    have counted := holds.named
    rw [names] at counted
    exact List.length_eq_zero_iff.mp counted.symm
  exact {
    route := none
    count := holds.captureCount_eq
    names := names
    params := by rw [holds.params_eq, names]; rfl
    paramAt := holds.paramAt_eq
    param := fun name => by rw [holds.param_eq, holds.params_eq, names]; rfl }

end Holds

end Context

namespace Handling

variable {d : Dispatcher} {h : Handling}

/-- The lookup leaves one range for each name of the route, or none without a route. -/
theorem bound_holds (registered : d.router.Registered) (service : h.service = d.build) :
    ∃ values, h.bound.2.Holds values := by
  obtain ⟨calls, filled⟩ := registered
  have records : d.router.Records _ := filled ▸ Routing.Router.records_accepted calls
  have resolved := (Dispatcher.lookup_resolves records h.request).captured
  have path := h.bound_path
  obtain ⟨route, -, captures⟩ := h.service.binding_found h.request h.id
  rw [← bound, service] at route captures
  generalize h.bound.2 = c at path route captures ⊢
  rw [← captures, ← path] at resolved
  obtain ⟨captured, cleared⟩ := resolved
  cases found : (d.build.decision h.request).endpoint? with
  | some endpoint =>
    obtain ⟨values, captured⟩ := captured endpoint (Lookup.endpoint?_eq_some_iff.mp found)
    rw [found] at route
    refine ⟨values.map String.ofList, ?_, ?_⟩
    · exact List.forall₂_map_right_iff.mpr (captured.sliced.imp fun r value cut => by rw [cut]; rfl)
    · rw [Context.paramNames, route, List.length_map, ← captured.sliced.length_eq, captured.counted]
      rfl
  | none =>
    have nothing : c.captures.ranges = [] := cleared fun endpoint decided => by
      have same := found.symm.trans (Lookup.endpoint?_eq_some_iff.mpr decided)
      cases same
    rw [found] at route
    refine ⟨[], ?_, ?_⟩
    · rw [nothing]
      exact .nil
    · rw [Context.paramNames, route]
      rfl

/-- On every context that a request reaches by operations from the one on which its chain starts, the ways to
ask for parameters agree.  Where a route is found its chain runs; where a fallback runs instead no parameter is
there and no route. -/
theorem params_agree (registered : d.router.Registered) (service : h.service = d.build) {c : Context}
    (evolved : h.bound.2.Evolves c) :
    c.ParamsAgree ∧
      match d.build.decision h.request with
      | .found endpoint => h.bound.1 = endpoint.action.chain ∧ c.route = some endpoint.route
      | .methodNotAllowed _ => h.bound.1 = d.build.methodNotAllowed ∧ c.Unrouted
      | .notFound => h.bound.1 = d.build.notFound ∧ c.Unrouted := by
  obtain ⟨values, holds⟩ := bound_holds registered service
  replace holds := holds.evolves evolved
  refine ⟨holds.paramsAgree, ?_⟩
  have bound := h.service.binding_eq h.request h.id
  have route := evolved.route
  rw [← Handling.bound, service] at bound
  cases decided : d.build.decision h.request with
  | found endpoint =>
    rw [decided] at bound
    rw [bound] at route ⊢
    exact ⟨rfl, route⟩
  | methodNotAllowed methods =>
    rw [decided] at bound
    rw [bound] at route ⊢
    exact ⟨rfl, holds.unrouted route⟩
  | notFound =>
    rw [decided] at bound
    rw [bound] at route ⊢
    exact ⟨rfl, holds.unrouted route⟩

/-- A template that repeats a name and ends in a catch-all without a name, which takes nothing.  For another
method parameters are captured on the way, and a fallback runs. -/
theorem params_agree_repeated :
    let calls : List (Routing.Submission Mount) :=
      [⟨.get, "/:id/org/:id/é*", "echo", ⟨none, ⟨[], .echo⟩⟩⟩]
    let d : Dispatcher := { Dispatcher.create .standard with router := .addAll .empty calls }
    let h (m : Method) : Handling :=
      ⟨d.build, ⟨m, ⟨"/1/org/z/é/", none⟩, [], []⟩, Engine.create (.empty 1) Ulid.ofNat, 0⟩
    let c (m : Method) : Context := (h m).bound.2.send .ok Context.textType []
    (c .get).ParamsAgree ∧ (c .get).params = [("id", "1"), ("id", "z"), ("*", "")] ∧
      (c .get).param "id" = some "z" ∧ (c .get).paramAt 2 = some "" ∧ (c .get).paramAt 3 = none ∧
      (c .post).ParamsAgree ∧ (c .post).Unrouted := by
  intro calls d h c
  have registered : d.router.Registered := ⟨calls, rfl⟩
  have agree (m : Method) := params_agree registered (h := h m) rfl
    ((h m).bound.2.evolves_send .ok Context.textType [])
  obtain ⟨agreePost, routed⟩ := agree .post
  have refused : (d.build.decision (h .post).request).status.code = 405 := by decide +kernel
  obtain ⟨allowed, decided⟩ := (Lookup.code_eq_405_iff _).mp refused
  rw [decided] at routed
  refine ⟨(agree .get).1, ?_, ?_, ?_, ?_, agreePost, routed.2⟩
  · decide +kernel
  · decide +kernel
  · decide +kernel
  · decide +kernel

end Handling

end RequestDispatch
