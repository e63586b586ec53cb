import RequestDispatch.Proofs.Routing.Search
import RequestDispatch.Proofs.Routing.Submissions

/-!
# What a lookup comes back with

After any calls, a lookup is decided by the accepted routes whose templates match the path, read as they
are written: which of its three outcomes it has (`Router.lookup_classifies`), which route it finds
(`Router.lookup_prefers`) and what it captures (`Router.lookup_captures`).

All three read one relation, `Resolves`, off the search of a well-formed tree
(`Router.Holds.resolves`).
-/

namespace RequestDispatch.Routing

variable {α : Type}

theorem Template.PreferredTo.asymm {template other : String} (h : PreferredTo template other) :
    ¬ PreferredTo other template := by
  rintro ⟨c, d, readsC, readsD, back⟩
  obtain ⟨a, b, readsA, readsB, preferred⟩ := h
  rw [readsC.unique readsB, readsD.unique readsA] at back
  exact preferred.asymm back

/-- The endpoint of a lookup that found one. -/
def Lookup.endpoint? : Lookup α → Option (Endpoint α)
  | .found e => some e
  | _ => none

theorem Lookup.endpoint?_eq_some_iff {outcome : Lookup α} {e : Endpoint α} :
    outcome.endpoint? = some e ↔ outcome = .found e := by
  cases outcome with
  | found other => simp [endpoint?]
  | methodNotAllowed allowed => simp [endpoint?]
  | notFound => simp [endpoint?]

/-- The route of the method that matches the path and is preferred to all others of the method that
do. -/
structure Wins (registered : List (Submission α)) (m : Method) (path : String)
    (s : Submission α) : Prop where
  mem : s ∈ registered
  method : s.method = m
  matching : Template.Matches s.template path
  best : ∀ t ∈ registered, t.method = m → Template.Matches t.template path → t ≠ s →
    Template.PreferredTo s.template t.template

theorem Wins.unique {registered : List (Submission α)} {m : Method} {path : String}
    {s t : Submission α} (hs : Wins registered m path s) (ht : Wins registered m path t) : t = s := by
  by_contra other
  have forward := hs.best t ht.mem ht.method ht.matching other
  have backward := ht.best s hs.mem hs.method hs.matching (Ne.symm other)
  exact forward.asymm backward

/-- Routes of other methods do not take part. -/
theorem wins_filter_iff {registered : List (Submission α)} {m : Method} {path : String}
    {s : Submission α} :
    Wins (registered.filter (Submission.isFor m)) m path s ↔ Wins registered m path s := by
  have mine {t : Submission α} :
      t ∈ registered.filter (Submission.isFor m) ↔ t ∈ registered ∧ t.method = m := by
    rw [List.mem_filter, Submission.isFor_iff]
  constructor
  · rintro ⟨mem, method, matching, best⟩
    exact ⟨(mine.mp mem).1, method, matching, fun t ht same => best t (mine.mpr ⟨ht, same⟩) same⟩
  · rintro ⟨mem, method, matching, best⟩
    exact ⟨mine.mpr ⟨mem, method⟩, method, matching, fun t ht => best t (mine.mp ht).1⟩

/-- The ranges hold the values with which the template of a route gives the path, one for each of its
names in template order. -/
structure Captured (route : RouteDescription) (path : String) (ranges : List Range)
    (values : List (List Char)) : Prop where
  named : ∃ segments, Template.parse route.template = .ok segments ∧
    route.paramNames = paramNames segments
  counted : ranges.length = route.paramNames.length
  sliced : List.Forall₂ (fun range value => Utf8.slice? range path.toList = some value) ranges values
  inside : ∀ range ∈ ranges, range.start ≤ range.stop ∧ range.stop ≤ Utf8.width path.toList
  ascending : ranges.Pairwise fun a b => a.stop < b.start
  /-- The values are of the kind that their places take, and filled in they give the path. -/
  filled : Template.FilledWith route.template path values
  /-- What a catch-all takes goes on to the end of the path. -/
  reachesEnd : ∀ tokens, Template.Reads false route.template.toList tokens →
    tokens.getLast? = some .catchAll →
      ∃ range, ranges.getLast? = some range ∧ range.stop = Utf8.width path.toList
  /-- No other values give the path. -/
  only : ∀ others, Template.FilledWith route.template path others → others = values

theorem Submission.Readable.captured {s : Submission α} (h : s.Readable) {path : String}
    {values : List (List Char)} (filled : Template.FilledWith s.template path values) :
    Captured s.endpoint.route path (spans s.tokens values 0) values := by
  have shaped := h.wellShaped
  have matching := h.filledWith_iff.mp filled
  have sliced := slices_of_spans matching []
  have ends := stop_of_spans shaped matching 0
  simp only [Nat.zero_add] at ends
  refine ⟨⟨s.segments, h, rfl⟩, ?_, sliced, ?_, pairwise_spans shaped values 0, filled, ?_, ?_⟩
  · calc (spans s.tokens values 0).length = values.length := sliced.length_eq
      _ = places s.tokens := length_eq_places matching.1
      _ = (paramNames s.segments).length := (length_paramNames s.segments).symm
  · intro range mem
    exact ⟨(start_of_mem_spans mem).2, ends.1 range mem⟩
  · intro tokens reads last
    rw [reads.unique h.reads] at last
    exact ends.2 last
  · intro others filledOthers
    exact values_unique shaped (h.filledWith_iff.mp filledOthers) matching

/-- What a lookup of a path may come back with when these routes are registered: the winner of the
method and the places of its values, or the methods of all routes that match. -/
inductive Resolves (registered : List (Submission α)) (m : Method) (path : String) :
    Lookup α × Captures → Prop
  | found (s : Submission α) (values : List (List Char)) (captures : Captures) (readable : s.Readable)
      (wins : Wins registered m path s) (filled : Template.FilledWith s.template path values)
      (places : captures.ranges = spans s.tokens values 0) :
      Resolves registered m path (.found s.endpoint, captures)
  | methodNotAllowed (allowed : List Method) (captures : Captures) (nonempty : allowed ≠ [])
      (distinct : allowed.Nodup)
      (offered : ∀ x, x ∈ allowed ↔
        ∃ s ∈ registered, s.method = x ∧ Template.Matches s.template path)
      (missing : ∀ s ∈ registered, s.method = m → ¬ Template.Matches s.template path)
      (cleared : captures.ranges = []) :
      Resolves registered m path (.methodNotAllowed allowed, captures)
  | notFound (captures : Captures)
      (missing : ∀ s ∈ registered, ¬ Template.Matches s.template path)
      (cleared : captures.ranges = []) :
      Resolves registered m path (.notFound, captures)

namespace Router.Holds

variable {router : Router α} {registered : List (Submission α)}

theorem mem_entries (h : router.Holds registered) {s : Submission α} (mem : s ∈ registered) :
    s.entry ∈ router.root.entries :=
  h.mem_entries_iff.mpr ⟨s, mem, rfl⟩

theorem matches_iff (h : router.Holds registered) {s : Submission α} (mem : s ∈ registered)
    (path : String) : Template.Matches s.template path ↔ Matches s.tokens path.toList :=
  (h.readable s mem).matches_iff

/-- A search that comes back with an endpoint has found the winner. -/
theorem resolves_of_found (h : router.Holds registered) {m : Method} {path : String}
    {buffer : Captures} {endpoint : Endpoint α} {f : Findings}
    (searched : router.root.search m path.toList 0 ⟨buffer.clear, []⟩ = (some endpoint, f)) :
    Resolves registered m path (.found endpoint, f.captures) := by
  obtain ⟨tokens, values, mem, filled, captures, best⟩ := Node.search_found h.wellFormed searched
  obtain ⟨s, here, same⟩ := h.mem_entries_iff.mp mem
  cases same
  have readable := h.readable s here
  have filled := readable.filledWith_iff.mpr filled
  refine .found s values f.captures readable ⟨here, rfl, ⟨values, filled⟩, ?_⟩ filled captures
  intro t ht method matching other
  have matching := (h.matches_iff ht path).mp matching
  rcases best t.entry (h.mem_entries ht) method matching with shape | preferred
  · exact absurd (h.eq_of_samePlace ht here ⟨method, shape⟩) other
  · exact (readable.preferredTo_iff (h.readable t ht)).mpr preferred

/-- A search in vain has noted the methods of all routes that match, and none of them is the one that
was asked for. -/
theorem noted_of_failed (h : router.Holds registered) {m : Method} {path : String}
    {buffer : Captures} {f : Findings}
    (searched : router.root.search m path.toList 0 ⟨buffer.clear, []⟩ = (none, f)) :
    (∀ s ∈ registered, s.method = m → ¬ Template.Matches s.template path) ∧
      (∀ x, x ∈ f.allowed ↔ ∃ s ∈ registered, s.method = x ∧ Template.Matches s.template path) ∧
      f.allowed.Nodup ∧ f.captures.ranges = [] := by
  obtain ⟨captures, missing, noted, distinct⟩ := Node.search_failed h.wellFormed searched
  refine ⟨?_, fun x => (noted x).trans ?_, distinct List.nodup_nil, captures⟩
  · intro s mem method matching
    exact missing s.entry (h.mem_entries mem) ((h.matches_iff mem path).mp matching) method
  · constructor
    · rintro (before | ⟨e, mem, matching, rfl⟩)
      · exact absurd before List.not_mem_nil
      · obtain ⟨s, here, rfl⟩ := h.mem_entries_iff.mp mem
        exact ⟨s, here, rfl, (h.matches_iff here path).mpr matching⟩
    · rintro ⟨s, mem, rfl, matching⟩
      exact .inr ⟨s.entry, h.mem_entries mem, (h.matches_iff mem path).mp matching, rfl⟩

theorem resolves (h : router.Holds registered) (m : Method) (path : String) (buffer : Captures) :
    Resolves registered m path (router.lookup m path buffer) := by
  unfold lookup
  match searched : router.root.search m path.toList 0 ⟨buffer.clear, []⟩ with
  | (some endpoint, f) => exact h.resolves_of_found searched
  | (none, f) =>
    obtain ⟨missing, offered, distinct, cleared⟩ := h.noted_of_failed searched
    by_cases nothing : f.allowed.isEmpty = true
    · simp only [nothing, if_true]
      refine .notFound _ (fun s mem matching => ?_) cleared
      have listed := (offered s.method).mpr ⟨s, mem, rfl, matching⟩
      rw [List.isEmpty_iff.mp nothing] at listed
      exact absurd listed List.not_mem_nil
    · simp only [nothing]
      exact .methodNotAllowed _ _ (fun empty => nothing (List.isEmpty_iff.mpr empty)) distinct
        offered missing cleared

end Router.Holds

namespace Resolves

variable {registered : List (Submission α)} {m : Method} {path : String}
  {result : Lookup α × Captures}

theorem found_iff (h : Resolves registered m path result) :
    (∃ e, result.1 = .found e) ↔
      ∃ s ∈ registered, s.method = m ∧ Template.Matches s.template path := by
  cases h with
  | found s values captures readable wins filled places =>
    exact ⟨fun _ => ⟨s, wins.mem, wins.method, wins.matching⟩, fun _ => ⟨_, rfl⟩⟩
  | methodNotAllowed allowed captures nonempty distinct offered missing cleared =>
    refine ⟨nofun, ?_⟩
    rintro ⟨s, mem, method, matching⟩
    exact absurd matching (missing s mem method)
  | notFound captures missing cleared =>
    refine ⟨nofun, ?_⟩
    rintro ⟨s, mem, _, matching⟩
    exact absurd matching (missing s mem)

theorem notFound_iff (h : Resolves registered m path result) :
    result.1 = .notFound ↔ ∀ s ∈ registered, ¬ Template.Matches s.template path := by
  cases h with
  | found s values captures readable wins filled places =>
    exact ⟨nofun, fun missing => absurd wins.matching (missing s wins.mem)⟩
  | methodNotAllowed allowed captures nonempty distinct offered missing cleared =>
    refine ⟨nofun, fun nowhere => ?_⟩
    obtain ⟨x, mem⟩ := List.exists_mem_of_ne_nil _ nonempty
    obtain ⟨s, here, _, matching⟩ := (offered x).mp mem
    exact absurd matching (nowhere s here)
  | notFound captures missing cleared => exact ⟨fun _ => missing, fun _ => rfl⟩

/-- What remains when a route matches, but none of the method does. -/
theorem methodNotAllowed_iff (h : Resolves registered m path result) :
    (∃ allowed, result.1 = .methodNotAllowed allowed) ↔
      (∀ s ∈ registered, s.method = m → ¬ Template.Matches s.template path) ∧
        ∃ s ∈ registered, s.method ≠ m ∧ Template.Matches s.template path := by
  have found := h.found_iff
  have nothing := h.notFound_iff
  constructor
  · rintro ⟨allowed, eq⟩
    rw [eq] at found nothing
    have missing : ∀ s ∈ registered, s.method = m → ¬ Template.Matches s.template path := by
      intro s mem method matching
      obtain ⟨e, absurdity⟩ := found.mpr ⟨s, mem, method, matching⟩
      cases absurdity
    refine ⟨missing, ?_⟩
    by_contra nowhere
    have missingAll : ∀ s ∈ registered, ¬ Template.Matches s.template path := by
      intro s mem matching
      exact nowhere ⟨s, mem, fun method => missing s mem method matching, matching⟩
    cases nothing.mpr missingAll
  · rintro ⟨missing, s, mem, _, matching⟩
    match eq : result.1 with
    | .methodNotAllowed allowed => exact ⟨allowed, rfl⟩
    | .found e =>
      obtain ⟨t, ht, method, matching⟩ := found.mp ⟨e, eq⟩
      exact absurd matching (missing t ht method)
    | .notFound => exact absurd matching (nothing.mp eq s mem)

theorem allowed_spec (h : Resolves registered m path result) {allowed : List Method}
    (eq : result.1 = .methodNotAllowed allowed) :
    allowed.Nodup ∧
      ∀ x, x ∈ allowed ↔ ∃ s ∈ registered, s.method = x ∧ Template.Matches s.template path := by
  cases h with
  | found => cases eq
  | notFound => cases eq
  | methodNotAllowed _ _ _ distinct offered =>
    cases eq
    exact ⟨distinct, offered⟩

theorem wins_of_found (h : Resolves registered m path result) {e : Endpoint α}
    (eq : result.1 = .found e) :
    ∃ s, Wins registered m path s ∧ s.Readable ∧ e = s.endpoint := by
  cases h with
  | methodNotAllowed => cases eq
  | notFound => cases eq
  | found s values captures readable wins filled places =>
    cases eq
    exact ⟨s, wins, readable, rfl⟩

theorem endpoint?_eq_some_iff (h : Resolves registered m path result) {e : Endpoint α} :
    result.1.endpoint? = some e ↔ ∃ s, Wins registered m path s ∧ e = s.endpoint := by
  rw [Lookup.endpoint?_eq_some_iff]
  constructor
  · intro eq
    obtain ⟨s, wins, _, same⟩ := h.wins_of_found eq
    exact ⟨s, wins, same⟩
  · rintro ⟨s, wins, rfl⟩
    obtain ⟨e, eq⟩ := h.found_iff.mpr ⟨s, wins.mem, wins.method, wins.matching⟩
    obtain ⟨t, winsToo, _, rfl⟩ := h.wins_of_found eq
    rw [eq, wins.unique winsToo]

theorem captured (h : Resolves registered m path result) :
    (∀ e, result.1 = .found e → ∃ values, Captured e.route path result.2.ranges values) ∧
      ((∀ e, result.1 ≠ .found e) → result.2.ranges = []) := by
  cases h with
  | found s values captures readable wins filled places =>
    refine ⟨fun e eq => ⟨values, ?_⟩, fun other => absurd rfl (other _)⟩
    cases eq
    exact places ▸ readable.captured filled
  | methodNotAllowed allowed captures nonempty distinct offered missing cleared =>
    exact ⟨nofun, fun _ => cleared⟩
  | notFound captures missing cleared => exact ⟨nofun, fun _ => cleared⟩

end Resolves

namespace Router

/-- The outcome of a lookup: found if an accepted route of the method matches the path, not allowed if
only routes of other methods do, and then with the methods of all of them, and not found if no route
matches. -/
theorem lookup_classifies (calls : List (Submission α)) (m : Method) (path : String)
    (buffer : Captures) :
    let registered := empty.accepted calls
    let outcome := ((empty.addAll calls).lookup m path buffer).1
    ((∃ e, outcome = .found e) ↔
        ∃ s ∈ registered, s.method = m ∧ Template.Matches s.template path) ∧
      ((∃ allowed, outcome = .methodNotAllowed allowed) ↔
        (∀ s ∈ registered, s.method = m → ¬ Template.Matches s.template path) ∧
          ∃ s ∈ registered, s.method ≠ m ∧ Template.Matches s.template path) ∧
      (∀ allowed, outcome = .methodNotAllowed allowed → allowed.Nodup ∧
        ∀ x, x ∈ allowed ↔
          ∃ s ∈ registered, s.method = x ∧ Template.Matches s.template path) ∧
      (outcome = .notFound ↔ ∀ s ∈ registered, ¬ Template.Matches s.template path) := by
  intro registered outcome
  have resolved := (holds_accepted calls).resolves m path buffer
  exact ⟨resolved.found_iff, resolved.methodNotAllowed_iff, fun _ eq => resolved.allowed_spec eq,
    resolved.notFound_iff⟩

/-- A lookup finds the endpoint of the one accepted route of the method that matches the path and has
the token of higher priority where it first differs from any other such route.  Calls for other methods
have no influence on it. -/
theorem lookup_prefers (calls : List (Submission α)) (m : Method) (path : String)
    (buffer other : Captures) :
    (∀ e, ((empty.addAll calls).lookup m path buffer).1 = .found e →
      ∃ s, Wins (empty.accepted calls) m path s ∧
        (∀ t, Wins (empty.accepted calls) m path t → t = s) ∧ s.Readable ∧ e = s.endpoint) ∧
      ((empty.addAll calls).lookup m path buffer).1.endpoint? =
        ((empty.addAll (calls.filter (Submission.isFor m))).lookup m path other).1.endpoint? := by
  have resolved := (holds_accepted calls).resolves m path buffer
  constructor
  · intro e eq
    obtain ⟨s, wins, readable, same⟩ := resolved.wins_of_found eq
    exact ⟨s, wins, fun t winsToo => wins.unique winsToo, readable, same⟩
  · have alone := (holds_accepted (calls.filter (Submission.isFor m))).resolves m path other
    rw [← empty_holds.accepted_filter empty_holds] at alone
    ext e
    rw [resolved.endpoint?_eq_some_iff, alone.endpoint?_eq_some_iff]
    simp only [wins_filter_iff]

/-- What a lookup leaves in the buffer, whatever the buffer held before: the values of the template of
the route found, and nothing if none is found. -/
theorem lookup_captures (calls : List (Submission α)) (m : Method) (path : String)
    (buffer : Captures) :
    let result := (empty.addAll calls).lookup m path buffer
    (∀ e, result.1 = .found e → ∃ values, Captured e.route path result.2.ranges values) ∧
      ((∀ e, result.1 ≠ .found e) → result.2.ranges = []) :=
  ((holds_accepted calls).resolves m path buffer).captured

end Router
end RequestDispatch.Routing
