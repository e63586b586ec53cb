import RequestDispatch.Routing.Router
import RequestDispatch.Proofs.Routing.Filling
import RequestDispatch.Proofs.Routing.Insertion

/-!
# Routers after any calls

A router that has seen any sequence of calls holds exactly the routes that were accepted
(`Router.Holds.addAll`).  A call is accepted if its template can be read and no route of its method has
the same shape (`Router.Holds.accepts_iff`); nothing else about the calls before matters.
-/

namespace RequestDispatch.Routing

/-- What one call of `Router.add` asks for. -/
structure Submission (α : Type) where
  method : Method
  template : String
  handlerName : String
  action : α

namespace Submission

variable {α : Type}

/-- The segments of the template; none if it cannot be read. -/
def segments (s : Submission α) : List Segment :=
  match Template.parse s.template with
  | .ok segments => segments
  | .error _ => []

def tokens (s : Submission α) : List Token := shape s.segments

def endpoint (s : Submission α) : Endpoint α :=
  ⟨⟨s.method, s.template, paramNames s.segments, s.handlerName⟩, s.action⟩

def entry (s : Submission α) : Entry (Endpoint α) := ⟨s.tokens, s.method, s.endpoint⟩

/-- The template can be read. -/
def Readable (s : Submission α) : Prop := Template.parse s.template = .ok s.segments

/-- The method and the shape that are asked for. -/
def place (s : Submission α) : Method × List Token := (s.method, s.tokens)

def isFor (m : Method) (s : Submission α) : Bool := s.method = m

theorem isFor_iff {m : Method} {s : Submission α} : s.isFor m = true ↔ s.method = m :=
  decide_eq_true_iff

/-- Both ask for one method and one shape. -/
def SamePlace (s t : Submission α) : Prop := s.method = t.method ∧ s.tokens = t.tokens

theorem SamePlace.symm {s t : Submission α} (h : s.SamePlace t) : t.SamePlace s :=
  ⟨h.1.symm, h.2.symm⟩

theorem readable_of_parse {s : Submission α} {segments : List Segment}
    (h : Template.parse s.template = .ok segments) : s.Readable ∧ s.segments = segments := by
  have same : s.segments = segments := by
    unfold Submission.segments
    rw [h]
  exact ⟨h.trans (congrArg Except.ok same.symm), same⟩

/-- The tokens are those for which the template stands. -/
theorem Readable.reads {s : Submission α} (h : s.Readable) :
    Template.Reads false s.template.toList s.tokens :=
  Template.reads_of_parse h

theorem Readable.wellShaped {s : Submission α} (h : s.Readable) : WellShaped s.tokens :=
  h.reads.wellShaped

theorem Readable.filledWith_iff {s : Submission α} (h : s.Readable) {path : String}
    {values : List (List Char)} :
    Template.FilledWith s.template path values ↔ MatchesWith s.tokens path.toList values := by
  constructor
  · rintro ⟨tokens, reads, filled⟩
    rwa [reads.unique h.reads] at filled
  · exact fun filled => ⟨s.tokens, h.reads, filled⟩

theorem Readable.matches_iff {s : Submission α} (h : s.Readable) {path : String} :
    Template.Matches s.template path ↔ Matches s.tokens path.toList :=
  exists_congr fun _ => h.filledWith_iff

theorem Readable.preferredTo_iff {s t : Submission α} (hs : s.Readable) (ht : t.Readable) :
    Template.PreferredTo s.template t.template ↔ Preferred s.tokens t.tokens := by
  constructor
  · rintro ⟨a, b, readsA, readsB, preferred⟩
    rwa [readsA.unique hs.reads, readsB.unique ht.reads] at preferred
  · exact fun preferred => ⟨s.tokens, t.tokens, hs.reads, ht.reads, preferred⟩

end Submission

namespace Router

variable {α : Type}

def submit (router : Router α) (s : Submission α) :
    Except RouteError (RouteDescription × Router α) :=
  router.add s.method s.template s.handlerName s.action

/-- The router after a sequence of calls; a refused call leaves it as it is. -/
def addAll (router : Router α) : List (Submission α) → Router α
  | [] => router
  | s :: rest =>
    match router.submit s with
    | .ok (_, next) => next.addAll rest
    | .error _ => router.addAll rest

/-- The calls among them that are accepted, in order. -/
def accepted (router : Router α) : List (Submission α) → List (Submission α)
  | [] => []
  | s :: rest =>
    match router.submit s with
    | .ok (_, next) => s :: next.accepted rest
    | .error _ => router.accepted rest

theorem accepted_of_ok {router next : Router α} {s : Submission α} {route : RouteDescription}
    {rest : List (Submission α)} (ok : router.submit s = .ok (route, next)) :
    router.accepted (s :: rest) = s :: next.accepted rest := by
  rw [accepted, ok]

theorem accepted_of_error {router : Router α} {s : Submission α} {error : RouteError}
    {rest : List (Submission α)} (refused : router.submit s = .error error) :
    router.accepted (s :: rest) = router.accepted rest := by
  rw [accepted, refused]

/-- The router holds exactly these routes. -/
structure Holds (router : Router α) (registered : List (Submission α)) : Prop where
  wellFormed : router.root.WellFormed
  entries : router.root.entries.Perm (registered.map Submission.entry)
  readable : ∀ s ∈ registered, s.Readable
  distinct : registered.Pairwise fun s t => ¬ s.SamePlace t

theorem empty_holds : (empty : Router α).Holds [] :=
  ⟨Node.empty_wellFormed, List.Perm.refl _, fun _ mem => absurd mem List.not_mem_nil, .nil⟩

theorem submit_unreadable (router : Router α) {s : Submission α} (h : ¬ s.Readable) :
    ∃ error, router.submit s = .error error := by
  unfold submit add
  cases parsed : Template.parse s.template with
  | error error => exact ⟨error, rfl⟩
  | ok segments => exact absurd (Submission.readable_of_parse parsed).1 h

/-- A readable call is answered as the insertion into the tree is. -/
theorem submit_readable {router : Router α} {s : Submission α} (h : s.Readable) :
    router.submit s =
      match router.root.insert s.method s.endpoint s.tokens with
      | .error owner => .error (.duplicateRoute s.method s.template owner.route.template)
      | .ok root => .ok (s.endpoint.route,
          ⟨root, router.routes ++ [⟨s.method, s.template, s.handlerName⟩],
            max router.maxParams (paramNames s.segments).length⟩) := by
  unfold submit add
  rw [h]
  rfl

namespace Holds

variable {router : Router α} {registered : List (Submission α)} {s : Submission α}

theorem mem_entries_iff (h : router.Holds registered) {e : Entry (Endpoint α)} :
    e ∈ router.root.entries ↔ ∃ s ∈ registered, s.entry = e := by
  rw [h.entries.mem_iff, List.mem_map]

/-- Routes of one method and one shape are one and the same. -/
theorem eq_of_samePlace (h : router.Holds registered) {s t : Submission α}
    (hs : s ∈ registered) (ht : t ∈ registered) (same : s.SamePlace t) : s = t := by
  have forward : registered.Pairwise fun s t => s.SamePlace t → s = t :=
    h.distinct.imp fun apart same => absurd same apart
  have backward : registered.Pairwise (flip fun s t : Submission α => s.SamePlace t → s = t) :=
    h.distinct.imp fun apart same => absurd same.symm apart
  exact List.Pairwise.forall_of_forall_of_flip (fun _ _ _ => rfl) forward backward hs ht same

/-- What an accepted call does. -/
theorem submit_ok (h : router.Holds registered) {route : RouteDescription} {next : Router α}
    (ok : router.submit s = .ok (route, next)) :
    s.Readable ∧ (∀ t ∈ registered, ¬ t.SamePlace s) ∧ next.Holds (registered ++ [s]) := by
  have readable : s.Readable := by
    by_contra unreadable
    obtain ⟨error, refused⟩ := submit_unreadable router unreadable
    rw [refused] at ok
    cases ok
  have answer : router.root.Answers s.entry (router.root.insert s.method s.endpoint s.tokens) :=
    Node.insert_answers h.wellFormed readable.wellShaped
  rw [submit_readable readable] at ok
  cases inserted : router.root.insert s.method s.endpoint s.tokens with
  | error owner =>
    rw [inserted] at ok
    cases ok
  | ok root =>
    rw [inserted] at ok answer
    cases ok
    obtain ⟨wf, fresh, perm⟩ := answer
    have free : ∀ t ∈ registered, ¬ t.SamePlace s := by
      intro t mem same
      exact fresh t.entry (h.mem_entries_iff.mpr ⟨t, mem, rfl⟩) same.2 same.1
    refine ⟨readable, free, wf, ?_, ?_, ?_⟩
    · rw [List.map_append]
      exact perm.trans ((h.entries.cons _).trans (List.perm_append_singleton _ _).symm)
    · intro t mem
      rcases List.mem_append.mp mem with mem | mem
      · exact h.readable t mem
      · exact List.mem_singleton.mp mem ▸ readable
    · rw [List.pairwise_append]
      refine ⟨h.distinct, List.pairwise_singleton _ _, fun t mem other here => ?_⟩
      exact List.mem_singleton.mp here ▸ free t mem

/-- Why a call is refused, and the error it is refused with. -/
theorem submit_refused (h : router.Holds registered) {error : RouteError}
    (refused : router.submit s = .error error) :
    Template.parse s.template = .error error ∨
      s.Readable ∧ ∃ t ∈ registered, t.SamePlace s ∧
        error = .duplicateRoute s.method s.template t.template := by
  by_cases readable : s.Readable
  · have answer : router.root.Answers s.entry (router.root.insert s.method s.endpoint s.tokens) :=
      Node.insert_answers h.wellFormed readable.wellShaped
    rw [submit_readable readable] at refused
    cases inserted : router.root.insert s.method s.endpoint s.tokens with
    | ok root =>
      rw [inserted] at refused
      cases refused
    | error owner =>
      rw [inserted] at refused answer
      cases refused
      obtain ⟨t, mem, same⟩ := h.mem_entries_iff.mp answer
      have value : t.endpoint = owner := congrArg Entry.value same
      exact .inr ⟨readable, t, mem, ⟨congrArg Entry.method same, congrArg Entry.tokens same⟩,
        value ▸ rfl⟩
  · left
    unfold submit add at refused
    cases parsed : Template.parse s.template with
    | ok segments => exact absurd (Submission.readable_of_parse parsed).1 readable
    | error fault =>
      rw [parsed] at refused
      cases refused
      rfl

theorem submit_error (h : router.Holds registered) {error : RouteError}
    (refused : router.submit s = .error error) :
    ¬ s.Readable ∨ ∃ t ∈ registered, t.SamePlace s := by
  rcases h.submit_refused refused with unreadable | ⟨-, t, mem, same, -⟩
  · left
    intro readable
    rw [readable] at unreadable
    cases unreadable
  · exact .inr ⟨t, mem, same⟩

theorem accepts_iff (h : router.Holds registered) :
    (∃ route next, router.submit s = .ok (route, next)) ↔
      s.Readable ∧ ∀ t ∈ registered, ¬ t.SamePlace s := by
  constructor
  · rintro ⟨route, next, ok⟩
    obtain ⟨readable, free, _⟩ := h.submit_ok ok
    exact ⟨readable, free⟩
  · rintro ⟨readable, free⟩
    cases answer : router.submit s with
    | ok result => exact ⟨result.1, result.2, rfl⟩
    | error error =>
      rcases h.submit_error answer with unreadable | ⟨t, mem, same⟩
      · exact absurd readable unreadable
      · exact absurd same (free t mem)

/-- After any calls the router holds what it held before and the calls that were accepted. -/
theorem addAll (h : router.Holds registered) (calls : List (Submission α)) :
    (router.addAll calls).Holds (registered ++ router.accepted calls) := by
  induction calls generalizing router registered with
  | nil =>
    rw [Router.accepted, List.append_nil]
    exact h
  | cons s rest ih =>
    unfold Router.addAll Router.accepted
    cases answer : router.submit s with
    | error error => exact ih h
    | ok result =>
      obtain ⟨_, _, holds⟩ := h.submit_ok answer
      have later := ih holds
      rw [List.append_assoc] at later
      exact later

/-- Readable calls for places that are free and differ from each other are all accepted. -/
theorem accepted_eq_self (h : router.Holds registered) {calls : List (Submission α)}
    (readable : ∀ s ∈ calls, s.Readable)
    (distinct : (registered ++ calls).Pairwise fun s t => ¬ s.SamePlace t) :
    router.accepted calls = calls := by
  induction calls generalizing router registered with
  | nil => rfl
  | cons s rest ih =>
    have free : ∀ t ∈ registered, ¬ t.SamePlace s := by
      intro t mem
      exact (List.pairwise_append.mp distinct).2.2 t mem s (List.mem_cons_self ..)
    obtain ⟨route, next, ok⟩ :=
      h.accepts_iff.mpr ⟨readable s (List.mem_cons_self ..), free⟩
    obtain ⟨_, _, holds⟩ := h.submit_ok ok
    rw [accepted_of_ok ok]
    refine congrArg (s :: ·) (ih holds (fun t mem => readable t (List.mem_cons_of_mem _ mem)) ?_)
    rwa [List.append_assoc]

/-- Whether a call is accepted depends on the routes of its method alone. -/
theorem accepts_filter_iff {other : Router α} (h : router.Holds registered)
    (ho : other.Holds (registered.filter (Submission.isFor s.method))) :
    (∃ route next, router.submit s = .ok (route, next)) ↔
      ∃ route next, other.submit s = .ok (route, next) := by
  have free_iff : (∀ t ∈ registered.filter (Submission.isFor s.method), ¬ t.SamePlace s) ↔
      ∀ t ∈ registered, ¬ t.SamePlace s := by
    simp only [List.mem_filter, Submission.isFor_iff, and_imp]
    exact ⟨fun free t mem same => free t mem same.1 same, fun free t mem _ => free t mem⟩
  rw [h.accepts_iff, ho.accepts_iff, free_iff]

/-- Calls for other methods do not change which calls for a method are accepted. -/
theorem accepted_filter {other : Router α} {m : Method} (h : router.Holds registered)
    (ho : other.Holds (registered.filter (Submission.isFor m))) (calls : List (Submission α)) :
    (router.accepted calls).filter (Submission.isFor m) =
      other.accepted (calls.filter (Submission.isFor m)) := by
  induction calls generalizing router other registered with
  | nil => rfl
  | cons s rest ih =>
    by_cases mine : s.method = m
    · subst mine
      have kept : s.isFor s.method = true := Submission.isFor_iff.mpr rfl
      have both := h.accepts_filter_iff ho
      rw [List.filter_cons_of_pos kept]
      cases answer : router.submit s with
      | ok result =>
        obtain ⟨route, next, ok⟩ := both.mp ⟨result.1, result.2, answer⟩
        obtain ⟨_, _, holds⟩ := h.submit_ok answer
        obtain ⟨_, _, holdsOther⟩ := ho.submit_ok ok
        rw [accepted_of_ok answer, accepted_of_ok ok, List.filter_cons_of_pos kept]
        refine congrArg (s :: ·) (ih holds ?_)
        rwa [List.filter_append, List.filter_cons_of_pos kept, List.filter_nil]
      | error error =>
        cases answerOther : other.submit s with
        | ok result =>
          obtain ⟨route, next, ok⟩ := both.mpr ⟨result.1, result.2, answerOther⟩
          rw [ok] at answer
          cases answer
        | error _ =>
          rw [accepted_of_error answer, accepted_of_error answerOther]
          exact ih h ho
    · have dropped : ¬ s.isFor m = true := mt Submission.isFor_iff.mp mine
      rw [List.filter_cons_of_neg dropped]
      cases answer : router.submit s with
      | error error =>
        rw [accepted_of_error answer]
        exact ih h ho
      | ok result =>
        obtain ⟨_, _, holds⟩ := h.submit_ok answer
        rw [accepted_of_ok answer, List.filter_cons_of_neg dropped]
        refine ih holds ?_
        rwa [List.filter_append, List.filter_cons_of_neg dropped, List.filter_nil, List.append_nil]

end Holds

/-- From an empty router on, exactly the accepted calls are held. -/
theorem holds_accepted (calls : List (Submission α)) :
    (empty.addAll calls).Holds (empty.accepted calls) :=
  empty_holds.addAll calls

end Router
end RequestDispatch.Routing
