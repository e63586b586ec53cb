import RequestDispatch.Proofs.Serving.Decisions
import RequestDispatch.Proofs.Serving.Recovery

/-!
# The `Allow` header

The default answer to a method that is not allowed names the methods that are.  Read back, its `Allow`
header is the ascending list of exactly those methods with which the same request would have reached a
route (`Dispatcher.allow_lists_methods`).
-/

namespace RequestDispatch

/-! ### Lists of names -/

/-- The parts of a text between its separators, which are a comma and a space each. -/
def splitListed : List Char → List (List Char)
  | [] => [[]]
  | ',' :: ' ' :: rest => [] :: splitListed rest
  | c :: rest => (splitListed rest).modifyHead (c :: ·)

/-- The names that a header value lists. -/
def HeaderValue.names (value : HeaderValue) : List String :=
  (splitListed value.text.toList).map String.ofList

theorem splitListed_cons {c : Char} (h : c ≠ ',') (rest : List Char) :
    splitListed (c :: rest) = (splitListed rest).modifyHead (c :: ·) := by
  rw [splitListed]
  exact fun _ same _ => h same

theorem splitListed_append {part : List Char} (h : ',' ∉ part) (rest : List Char) :
    splitListed (part ++ ',' :: ' ' :: rest) = part :: splitListed rest := by
  induction part with
  | nil => rfl
  | cons c part ih =>
    obtain ⟨here, others⟩ := List.ne_and_not_mem_of_not_mem_cons h
    rw [List.cons_append, splitListed_cons here.symm, ih others, List.modifyHead_cons]

theorem splitListed_part {part : List Char} (h : ',' ∉ part) : splitListed part = [part] := by
  induction part with
  | nil => rfl
  | cons c part ih =>
    obtain ⟨here, others⟩ := List.ne_and_not_mem_of_not_mem_cons h
    rw [splitListed_cons here.symm, ih others, List.modifyHead_cons]

theorem splitListed_intercalate {parts : List (List Char)} (nonempty : parts ≠ [])
    (h : ∀ part ∈ parts, ',' ∉ part) : splitListed ([',', ' '].intercalate parts) = parts := by
  induction parts with
  | nil => exact absurd rfl nonempty
  | cons part parts ih =>
    obtain ⟨here, others⟩ := List.forall_mem_cons.mp h
    cases parts with
    | nil => rw [List.intercalate_singleton, splitListed_part here]
    | cons next parts =>
      rw [List.intercalate_cons_cons, List.append_assoc]
      exact (splitListed_append here _).trans (congrArg _ (ih nofun others))

theorem HeaderValue.names_intercalate {names : List String} (nonempty : names ≠ [])
    (h : ∀ name ∈ names, ',' ∉ name.toList) : (mk (", ".intercalate names)).names = names := by
  rw [HeaderValue.names, String.toList_intercalate]
  have split : splitListed ([',', ' '].intercalate (names.map String.toList)) =
      names.map String.toList :=
    splitListed_intercalate (mt List.map_eq_nil_iff.mp nonempty) (List.forall_mem_map.mpr h)
  rw [show ", ".toList = [',', ' '] from rfl, split, List.map_map]
  exact (List.map_congr_left fun _ _ => String.ofList_toList).trans (List.map_id names)

theorem ascending_sortNames (names : List String) : (sortNames names).Pairwise (· ≤ ·) := by
  have sorted := @List.pairwise_mergeSort _ (fun a b : String => a ≤ b) ?_ ?_ names
  · exact sorted.imp of_decide_eq_true
  · intro a b c first second
    rw [decide_eq_true_eq] at first second ⊢
    exact String.le_trans first second
  · intro a b
    rw [Bool.or_eq_true, decide_eq_true_eq, decide_eq_true_eq]
    exact String.le_total a b

theorem ascending_distinct {names : List String} (sorted : names.Pairwise (· ≤ ·)) :
    (distinct names).Pairwise (· < ·) := by
  have ascending := sorted.sublist (distinct_sublist names)
  exact ascending.imp₂ (fun _ _ le other => Std.lt_of_le_of_ne le other) (nodup_distinct names)

/-! ### The header value -/

theorem ne_comma_of_isTokenChar {c : Char} (h : isTokenChar c = true) : c ≠ ',' := by
  rintro rfl
  exact absurd h (by decide)

/-- Token characters are visible ASCII. -/
theorem isHeaderChar_of_isTokenChar {c : Char} (h : isTokenChar c = true) :
    isHeaderChar c = true := by
  have visible : 0x20 ≤ c.toNat ∧ c.toNat ≠ 0x7F := by
    rw [isTokenChar, Bool.or_eq_true] at h
    rcases h with letter | mark
    · delta Char.isAlphanum Char.isAlpha Char.isUpper Char.isLower Char.isDigit at letter
      simp only [Bool.or_eq_true, Bool.and_eq_true, decide_eq_true_eq, ge_iff_le,
        UInt32.le_iff_toNat_le] at letter
      change ((65 ≤ c.toNat ∧ c.toNat ≤ 90) ∨ (97 ≤ c.toNat ∧ c.toNat ≤ 122)) ∨
        (48 ≤ c.toNat ∧ c.toNat ≤ 57) at letter
      omega
    · have all : ['!', '#', '$', '%', '&', '\'', '*', '+', '-', '.', '^', '_', '\x60', '|', '~'].all
          (fun d => 0x20 ≤ d.toNat && d.toNat != 0x7F) = true := by decide
      simpa using List.all_eq_true.mp all c (of_decide_eq_true mark)
  simp [isHeaderChar, visible.1, visible.2]

theorem Method.name_inj {m other : Method} (same : m.name = other.name) : m = other := by
  cases m
  cases other
  cases same
  rfl

theorem Method.isTokenChar_of_mem (m : Method) {c : Char} (mem : c ∈ m.name.toList) :
    isTokenChar c = true := by
  have token := m.isToken_name
  rw [isToken, Bool.and_eq_true, List.all_eq_true] at token
  exact token.2 c mem

theorem all_intercalate {p : Char → Bool} {separator : List Char} {parts : List (List Char)}
    (between : separator.all p = true) (h : ∀ part ∈ parts, part.all p = true) :
    (separator.intercalate parts).all p = true := by
  induction parts with
  | nil => rfl
  | cons part parts ih =>
    obtain ⟨here, others⟩ := List.forall_mem_cons.mp h
    cases parts with
    | nil => rwa [List.intercalate_singleton]
    | cons next parts =>
      rw [List.intercalate_cons_cons, List.all_append, List.all_append, here, between, ih others]
      rfl

namespace Handler

theorem mem_allowed {methods : List Method} {name : String} :
    name ∈ distinct (sortNames (methods.map Method.name)) ↔ ∃ m ∈ methods, m.name = name := by
  rw [mem_distinct, sortNames, List.mem_mergeSort, List.mem_map]

/-- Any methods can be named in a header value, from which their names are read back in ascending
order. -/
theorem allowText_names {methods : List Method} (nonempty : methods ≠ []) :
    HeaderValue.ofString? (allowText methods) = some ⟨allowText methods⟩ ∧
      (HeaderValue.mk (allowText methods)).names ≠ [] ∧
      (HeaderValue.mk (allowText methods)).names.Pairwise (· < ·) ∧
      ∀ name, name ∈ (HeaderValue.mk (allowText methods)).names ↔ ∃ m ∈ methods, m.name = name := by
  have tokens {name : String} (mem : name ∈ distinct (sortNames (methods.map Method.name))) {c : Char}
      (inside : c ∈ name.toList) : isTokenChar c = true := by
    obtain ⟨m, -, rfl⟩ := mem_allowed.mp mem
    exact m.isTokenChar_of_mem inside
  have listed : distinct (sortNames (methods.map Method.name)) ≠ [] := by
    obtain ⟨m, mem⟩ := List.exists_mem_of_ne_nil _ nonempty
    exact List.ne_nil_of_mem (mem_allowed.mpr ⟨m, mem, rfl⟩)
  have names : (HeaderValue.mk (allowText methods)).names =
      distinct (sortNames (methods.map Method.name)) :=
    HeaderValue.names_intercalate listed fun name mem comma =>
      ne_comma_of_isTokenChar (tokens mem comma) rfl
  rw [names]
  refine ⟨?_, listed, ascending_distinct (ascending_sortNames _), fun name => mem_allowed⟩
  have visible : (allowText methods).toList.all isHeaderChar = true := by
    rw [allowText, String.toList_intercalate]
    refine all_intercalate rfl (List.forall_mem_map.mpr fun name mem => ?_)
    exact List.all_eq_true.mpr fun c inside => isHeaderChar_of_isTokenChar (tokens mem inside)
  rw [HeaderValue.ofString?, if_pos visible]

/-- The failure with which the default fallback answers. -/
theorem methodNotAllowed_run (nested : Nested) {c : Context} (nonempty : c.allowed ≠ []) (e : Engine) :
    Chain.run nested ⟨[], methodNotAllowed⟩ c e =
      (.error (.of (.http (.ofStatus .methodNotAllowed))),
        { c with response := c.response.setHeader .allow ⟨allowText c.allowed⟩ }, e) := by
  simp only [Chain.run, List.foldr_nil, methodNotAllowed, program, (allowText_names nonempty).1]
  rfl

end Handler

namespace Dispatcher

/-- Where nothing but the defaults takes part, a request whose method is not allowed is answered with
status 405 and one `Allow` header.  Its value lists, in ascending order, exactly the methods with which
the request would have reached a route. -/
theorem allow_lists_methods (config : DispatchSettings) (history : List Registration)
    (middleware : (after config history).middleware = []) (hook : (after config history).hook = none)
    (fallback : (after config history).methodNotAllowed = .methodNotAllowed)
    (standard : (after config history).errorHandler = .standard) (nested : Nested) {request : Request}
    (e : Engine) {allowed : List Method}
    (decided : (after config history).build.decision request = .methodNotAllowed allowed) :
    let s := (after config history).build
    ∃ answer value, (s.serve nested request e).1 = .answer answer ∧
      answer.status = .methodNotAllowed ∧ answer.headers.values .allow = [value] ∧
      value.names ≠ [] ∧ value.names.Pairwise (· < ·) ∧
      (∀ name ∈ value.names, ∃ m : Method, m.name = name) ∧ request.method.name ∉ value.names ∧
      ∀ m : Method, m.name ∈ value.names ↔
        ∃ endpoint, s.decision { request with method := m } = .found endpoint := by
  obtain ⟨registered, records, -⟩ := after_records config history
  generalize after config history = d at middleware hook fallback standard decided records ⊢
  intro s
  obtain ⟨nonempty, offered⟩ := allowed_of_decision records decided
  obtain ⟨-, listed, ascending, named⟩ := Handler.allowText_names nonempty
  obtain ⟨c, bound, rfl, fresh⟩ := Service.binding_of_methodNotAllowed decided (e.ids e.issued)
  have alone : s.methodNotAllowed = ⟨[], .methodNotAllowed⟩ := congrArg₂ Chain.mk middleware fallback
  have reply := Service.reply_of_standard standard nested bound
  dsimp only at reply
  rw [alone, Handler.methodNotAllowed_run nested nonempty, fresh] at reply
  have answered := ErrorHandler.answered_take (f := .of (.http (.ofStatus .methodNotAllowed)))
    (c := { c with response := Response.fresh.setHeader .allow ⟨Handler.allowText c.allowed⟩ })
    (Response.fresh_sound.setHeader _ _) rfl
  have offers (m : Method) : m.name ∈ (HeaderValue.mk (Handler.allowText c.allowed)).names ↔
      ∃ endpoint, s.decision { request with method := m } = .found endpoint := by
    rw [named, ← offered]
    constructor
    · rintro ⟨other, mem, same⟩
      exact Method.name_inj same ▸ mem
    · exact fun mem => ⟨m, mem, rfl⟩
  rw [standardReply, answered] at reply
  refine ⟨_, ⟨Handler.allowText c.allowed⟩,
    (congrArg Prod.fst (s.serve_of_no_hook hook nested request e)).trans reply, rfl, ?_, listed,
    ascending, ?_, ?_, offers⟩
  · exact (Headers.values_insert_of_ne _ _ (by decide)).trans (Headers.values_insert _ _ _)
  · intro name mem
    obtain ⟨m, -, same⟩ := (named name).mp mem
    exact ⟨m, same⟩
  · intro mem
    obtain ⟨endpoint, found⟩ := (offers request.method).mp mem
    cases decided.symm.trans found

/-- A literal, a parameter and a catch-all overlap, and the path is written with a slash at its end. -/
theorem allow_lists_methods_overlapping :
    let purge : Method := ⟨"PURGE", by decide⟩
    let history : List Registration :=
      [.route [purge] "/files/*rest" .echo,
        .group "/files" false [.use .recover, .route [.post] "/list" .echo, .route [.get] "/:id" .echo]]
    let d := after .standard history
    let request : Request := ⟨.delete, ⟨"/files/list/", none⟩, [], []⟩
    let e := Engine.create (.empty 1) Ulid.ofNat
    d.middleware = [] ∧ d.hook = none ∧ d.methodNotAllowed = .methodNotAllowed ∧
      d.errorHandler = .standard ∧
      d.build.decision request = .methodNotAllowed [.post, .get, purge] ∧
      ∃ answer value, (d.build.serve (.upTo 0) request e).1 = .answer answer ∧
        answer.status = .methodNotAllowed ∧ answer.headers.values .allow = [value] ∧
        value.names.Pairwise (· < ·) ∧ "DELETE" ∉ value.names ∧
        ("GET" ∈ value.names ↔
          ∃ endpoint, d.build.decision { request with method := .get } = .found endpoint) := by
  intro purge history d request e
  have standing : d.middleware = [] ∧ d.hook = none ∧ d.methodNotAllowed = .methodNotAllowed ∧
      d.errorHandler = .standard ∧
      d.build.decision request = .methodNotAllowed [.post, .get, purge] := by
    have carried := after_carriedOut .standard history
    have allowed : (d.build.decision request).allowed = [.post, .get, purge] := by decide +kernel
    refine ⟨carried.middleware, Option.isNone_iff_eq_none.mp (by decide +kernel),
      carried.methodNotAllowed, carried.errorHandler, ?_⟩
    generalize d.build.decision request = decided at allowed ⊢
    cases decided with
    | methodNotAllowed methods => exact congrArg _ allowed
    | found endpoint => cases allowed
    | notFound => cases allowed
  obtain ⟨middleware, hook, fallback, standard, decided⟩ := standing
  obtain ⟨answer, value, served, status, one, -, ascending, -, asked, offers⟩ :=
    allow_lists_methods .standard history middleware hook fallback standard (.upTo 0) e decided
  exact ⟨middleware, hook, fallback, standard, decided, answer, value, served, status, one, ascending,
    asked, offers .get⟩

end Dispatcher

end RequestDispatch
