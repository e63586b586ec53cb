import RequestDispatch.Proofs.Routing.Resolution

/-!
# No route is dead

Every accepted route is found under some path, however many other routes overlap it
(`Router.exists_path_found`).  No template has an asterisk in its literal text or an empty piece between
two slashes.  A path with an asterisk for each parameter, and behind a slash an empty piece at the start of
what the catch-all takes, is therefore matched by no template that would be preferred
(`Grammatical.preferred_of_matches`).
-/

namespace RequestDispatch.Routing

variable {α : Type}

/-- The tokens can stand in a template; `slash` says that a slash stands right before them.  An asterisk
is never literal, a slash never follows a slash, and a parameter always does. -/
def Grammatical : Bool → List Token → Prop
  | _, [] => True
  | slash, .char c :: rest => c ≠ '*' ∧ ¬ (slash = true ∧ c = '/') ∧ Grammatical (c = '/') rest
  | slash, .param :: rest => slash = true ∧ FollowsParam rest ∧ Grammatical false rest
  | _, .catchAll :: rest => rest = []

/-- The path with an asterisk in each place.  Right after a slash the catch-all takes an empty piece
before it, which a parameter does not take. -/
def sample : Bool → List Token → List Char
  | _, [] => []
  | _, .char c :: rest => c :: sample (c = '/') rest
  | _, .param :: rest => '*' :: sample false rest
  | slash, .catchAll :: _ => if slash then ['/', '*'] else ['*']

/-- What follows a parameter in a sample begins with a slash. -/
theorem slash_after_sample {rest : List Token} (follows : FollowsParam rest) (c : Char)
    (first : (sample false rest).head? = some c) : c = '/' := by
  cases rest with
  | nil => cases first
  | cons token rest =>
    rw [followsParam_cons] at follows
    subst follows
    cases first
    rfl

namespace Grammatical

variable {slash : Bool} {tokens other : List Token}

theorem matches_sample (h : Grammatical slash tokens) : Matches tokens (sample slash tokens) := by
  induction tokens generalizing slash with
  | nil => exact ⟨[], matchesWith_nil_iff.mpr ⟨rfl, rfl⟩⟩
  | cons token rest ih =>
    cases token with
    | char c =>
      obtain ⟨values, filled⟩ := ih h.2.2
      exact ⟨values, matchesWith_char_iff.mpr ⟨_, rfl, filled⟩⟩
    | param =>
      obtain ⟨values, filled⟩ := ih h.2.2
      exact ⟨['*'] :: values, matchesWith_param_iff.mpr
        ⟨['*'], values, _, rfl, rfl, by decide, by decide, filled⟩⟩
    | catchAll =>
      cases h
      exact ⟨[_], matchesWith_catchAll_iff.mpr rfl⟩

/-- A catch-all is preferred to nothing, but no other tokens match its sample. -/
theorem eq_catchAll_of_matches (h : Grammatical slash other)
    (matching : Matches other (sample slash [.catchAll])) : other = [.catchAll] := by
  obtain ⟨values, filled⟩ := matching
  cases other with
  | nil =>
    have empty := (matchesWith_nil_iff.mp filled).1
    cases slash <;> cases empty
  | cons token rest =>
    cases token with
    | catchAll => exact congrArg (Token.catchAll :: ·) h
    | char c =>
      obtain ⟨star, apart, _⟩ := h
      obtain ⟨left, path, _⟩ := matchesWith_char_iff.mp filled
      cases slash with
      | false =>
        cases path
        exact absurd rfl star
      | true =>
        cases path
        exact absurd ⟨rfl, rfl⟩ apart
    | param =>
      obtain ⟨rfl, _, _⟩ := h
      obtain ⟨value, more, left, _, path, nonempty, whole, _⟩ := matchesWith_param_iff.mp filled
      cases value with
      | nil => exact absurd rfl nonempty
      | cons c value =>
        have first : c = '/' := (List.cons.inj path).1.symm
        exact absurd (first ▸ List.mem_cons_self) whole

/-- Whatever else matches the sample of the tokens is less specific where it first differs. -/
theorem preferred_of_matches (h : Grammatical slash tokens) (k : Grammatical slash other)
    (matching : Matches other (sample slash tokens)) : other = tokens ∨ Preferred tokens other := by
  induction tokens generalizing slash other with
  | nil =>
    obtain ⟨values, filled⟩ := matching
    cases other with
    | nil => exact .inl rfl
    | cons token rest =>
      cases token with
      | char c =>
        obtain ⟨_, path, _⟩ := matchesWith_char_iff.mp filled
        cases path
      | param =>
        obtain ⟨value, _, _, _, path, nonempty, _⟩ := matchesWith_param_iff.mp filled
        exact absurd (List.append_eq_nil_iff.mp path.symm).1 nonempty
      | catchAll => exact .inr rfl
  | cons token rest ih =>
    cases token with
    | catchAll =>
      cases h
      exact .inl (k.eq_catchAll_of_matches matching)
    | char c =>
      obtain ⟨values, filled⟩ := matching
      cases other with
      | nil => cases (matchesWith_nil_iff.mp filled).1
      | cons next more =>
        cases next with
        | param => exact .inr (by simp [Preferred, Token.rank])
        | catchAll => exact .inr (by simp [Preferred, Token.rank])
        | char d =>
          obtain ⟨left, path, inner⟩ := matchesWith_char_iff.mp filled
          cases path
          have later := ih h.2.2 k.2.2 ⟨values, inner⟩
          simpa [Preferred] using later
    | param =>
      obtain ⟨rfl, follows, hRest⟩ := h
      obtain ⟨values, filled⟩ := matching
      cases other with
      | nil => cases (matchesWith_nil_iff.mp filled).1
      | cons next more =>
        cases next with
        | catchAll => exact .inr (by simp [Preferred, Token.rank])
        | char d =>
          obtain ⟨left, path, _⟩ := matchesWith_char_iff.mp filled
          cases path
          exact absurd rfl k.1
        | param =>
          obtain ⟨_, followsMore, kMore⟩ := k
          obtain ⟨value, values, left, rfl, path, _, whole, inner⟩ := matchesWith_param_iff.mp filled
          -- both texts go up to the next slash, so the parameter takes the asterisk alone
          have star : '/' ∉ ['*'] := by decide
          have cut := cut_at_slash star (slash_after_sample follows)
          have cut' := cut_at_slash whole (slash_after_param followsMore inner)
          have path : ['*'] ++ sample false rest = value ++ left := path
          have lefts : left = sample false rest := by rw [← cut'.2, ← path, cut.2]
          have later := ih hRest kMore ⟨values, lefts ▸ inner⟩
          simpa [Preferred] using later

end Grammatical

namespace Template

/-- An empty segment begins at the first character or lies behind it. -/
theorem hasEmptySegment_cons (c : Char) (text : List Char) :
    hasEmptySegment (c :: text) = true ↔
      (c = '/' ∧ text.head? = some '/') ∨ hasEmptySegment text = true := by
  rw [hasEmptySegment.eq_def]
  split
  · rename_i rest same
    cases same
    simp
  · rename_i rest apart same
    cases same
    refine ⟨.inr, fun h => h.resolve_left ?_⟩
    rintro ⟨rfl, first⟩
    obtain ⟨more, rfl⟩ := List.head?_eq_some_iff.mp first
    exact apart more rfl rfl
  · rename_i same
    cases same

theorem hasEmptySegment_append {front text : List Char} (h : hasEmptySegment text = true) :
    hasEmptySegment (front ++ text) = true := by
  induction front with
  | nil => exact h
  | cons c front ih => exact (hasEmptySegment_cons c _).mpr (.inr ih)

/-- The text of a template without empty segments stands for grammatical tokens. -/
theorem Reads.grammatical {slash : Bool} {text : List Char} {tokens : List Token}
    (h : Reads slash text tokens) (apart : slash = true → text.head? ≠ some '/')
    (filled : ¬ hasEmptySegment text = true) : Grammatical slash tokens := by
  induction h with
  | done => trivial
  | catchAll => rfl
  | char star colon rest ih =>
    rw [hasEmptySegment_cons, not_or] at filled
    refine ⟨star, fun ⟨after, same⟩ => apart after (congrArg some same), ih ?_ filled.2⟩
    exact fun same first => filled.1 ⟨of_decide_eq_true same, first⟩
  | param whole ends rest ih =>
    refine ⟨rfl, (Reads.param whole ends rest).wellShaped.1, ih nofun fun empty => filled ?_⟩
    exact (hasEmptySegment_cons _ _).mpr (.inr (hasEmptySegment_append empty))

/-- What a template that can be read begins with, and how it does not end. -/
theorem bounds_of_parse {template : String} {segments : List Segment}
    (h : parse template = .ok segments) :
    template.toList.head? = some '/' ∧ ¬ hasEmptySegment template.toList = true ∧
      (template.toList.getLast? = some '/' → template.toList = ['/']) := by
  have h := parse_eq_ok_iff.mp h
  unfold parseChars at h
  split at h
  · cases h
  · rename_i first
    split at h
    · cases h
    · rename_i last
      split at h
      · cases h
      · rename_i filled
        have first := not_not.mp first
        refine ⟨first, filled, fun slash => ?_⟩
        obtain ⟨rest, eq⟩ := List.head?_eq_some_iff.mp first
        rw [eq] at last slash ⊢
        cases rest with
        | nil => rfl
        | cons c rest => exact absurd ⟨by simp, slash⟩ last

/-- A sample ends as the text of its template does, or with an asterisk. -/
theorem Reads.getLast?_sample {slash : Bool} {text : List Char} {tokens : List Token}
    (h : Reads slash text tokens) :
    (sample slash tokens).getLast? = text.getLast? ∨ (sample slash tokens).getLast? = some '*' := by
  induction h with
  | done => exact .inl rfl
  | @catchAll slash name => exact .inr (by cases slash <;> rfl)
  | @char slash c text tokens star colon rest ih =>
    simp only [sample, List.getLast?_cons]
    rcases ih with same | asterisk
    · exact .inl (by rw [same])
    · exact .inr (by rw [asterisk, Option.getD_some])
  | @param name text tokens whole ends rest ih =>
    simp only [sample, List.getLast?_cons, List.getLast?_append]
    rcases ih with same | asterisk
    · rw [same]
      cases text.getLast? with
      | none => exact .inr rfl
      | some c => exact .inl rfl
    · exact .inr (by rw [asterisk, Option.getD_some])

end Template

/-- A path that does not end with a slash is routed as it stands, and so is the root. -/
theorem normalizeChars_eq_self {path : List Char} (filled : path ≠ [])
    (ends : path.getLast? = some '/' → path = ['/']) : normalizeChars path = path := by
  by_cases slash : path.getLast? = some '/'
  · rw [ends slash]
    decide
  · have kept : path.reverse.dropWhile (· = '/') = path.reverse := by
      rw [← List.head?_reverse] at slash
      cases reversed : path.reverse with
      | nil => rfl
      | cons c rest =>
        rw [reversed, List.head?_cons, Option.some_inj] at slash
        simp [slash]
    simp [normalizeChars, kept, filled]

namespace Submission

variable {s t : Submission α}

/-- A path under which the route can always be reached. -/
def samplePath (s : Submission α) : String := String.ofList (sample false s.tokens)

theorem Readable.grammatical (h : s.Readable) : Grammatical false s.tokens :=
  h.reads.grammatical nofun (Template.bounds_of_parse h).2.1

/-- The tokens of a template begin with its first slash. -/
theorem Readable.exists_tokens (h : s.Readable) : ∃ rest, s.tokens = .char '/' :: rest := by
  obtain ⟨first, _, _⟩ := Template.bounds_of_parse h
  obtain ⟨text, eq⟩ := List.head?_eq_some_iff.mp first
  have reads := h.reads
  rw [eq] at reads
  generalize s.tokens = tokens at reads ⊢
  cases reads with
  | char star colon rest => exact ⟨_, rfl⟩

theorem Readable.head?_samplePath (h : s.Readable) : s.samplePath.toList.head? = some '/' := by
  obtain ⟨rest, eq⟩ := h.exists_tokens
  simp [samplePath, eq, sample]

theorem Readable.normalize_samplePath (h : s.Readable) :
    normalize s.samplePath = s.samplePath := by
  obtain ⟨rest, eq⟩ := h.exists_tokens
  have filled : sample false s.tokens ≠ [] := by simp [eq, sample]
  obtain ⟨_, _, root⟩ := Template.bounds_of_parse h
  have ends : (sample false s.tokens).getLast? = some '/' → sample false s.tokens = ['/'] := by
    intro slash
    rcases h.reads.getLast?_sample with same | asterisk
    · have reads := h.reads
      rw [root (same.symm.trans slash)] at reads
      generalize s.tokens = tokens at reads ⊢
      cases reads with
      | char _ _ rest =>
        cases rest
        rfl
    · cases asterisk.symm.trans slash
  unfold normalize samplePath
  rw [String.toList_ofList, normalizeChars_eq_self filled ends]

theorem Readable.matches_samplePath (h : s.Readable) : Template.Matches s.template s.samplePath := by
  rw [h.matches_iff, samplePath, String.toList_ofList]
  exact h.grammatical.matches_sample

/-- Among routes of one method the route is preferred to all others on its own path. -/
theorem Readable.preferred_on_samplePath (h : s.Readable) (k : t.Readable)
    (matching : Template.Matches t.template s.samplePath) (apart : t.tokens ≠ s.tokens) :
    Template.PreferredTo s.template t.template := by
  rw [k.matches_iff, samplePath, String.toList_ofList] at matching
  rw [h.preferredTo_iff k]
  exact (h.grammatical.preferred_of_matches k.grammatical matching).resolve_left apart

end Submission

namespace Router

/-- No accepted route is dead: under its own path, which is routed as it stands, exactly its endpoint is
found. -/
theorem exists_path_found (calls : List (Submission α)) (s : Submission α)
    (accepted : s ∈ empty.accepted calls) :
    ∃ path : String, path.toList.head? = some '/' ∧ normalize path = path ∧
      ∀ buffer, ((empty.addAll calls).lookup s.method path buffer).1 = .found s.endpoint := by
  have holds := holds_accepted calls
  have readable := holds.readable s accepted
  refine ⟨s.samplePath, readable.head?_samplePath, readable.normalize_samplePath, fun buffer => ?_⟩
  have wins : Wins (empty.accepted calls) s.method s.samplePath s := by
    refine ⟨accepted, rfl, readable.matches_samplePath, fun t mem method matching other => ?_⟩
    refine readable.preferred_on_samplePath (holds.readable t mem) matching fun same => other ?_
    exact holds.eq_of_samePlace mem accepted ⟨method, same⟩
  rw [← Lookup.endpoint?_eq_some_iff, (holds.resolves s.method s.samplePath buffer).endpoint?_eq_some_iff]
  exact ⟨s, wins, rfl⟩

/-- A catch-all that overlaps literal text, a parameter, a parameter with a catch-all of its own and a
longer literal is still found. -/
theorem overlapped_catch_all_found :
    let calls : List (Submission Nat) :=
      [⟨.get, "/a", "a", 0⟩, ⟨.get, "/a/:x", "x", 1⟩, ⟨.get, "/a/:x/*more", "more", 2⟩,
        ⟨.get, "/a/*rest", "rest", 3⟩, ⟨.get, "/a/b*", "b", 4⟩, ⟨.get, "/:y/*rest", "y", 5⟩,
        ⟨.get, "/a/*other", "refused", 6⟩]
    let rest : Submission Nat := ⟨.get, "/a/*rest", "rest", 3⟩
    rest ∈ empty.accepted calls ∧
      ∃ path : String, path.toList.head? = some '/' ∧ normalize path = path ∧
        ∀ buffer, ((empty.addAll calls).lookup .get path buffer).1 = .found rest.endpoint := by
  intro calls rest
  have all : empty.accepted calls = calls.take 6 := by rfl
  have accepted : rest ∈ empty.accepted calls := by
    rw [all]
    simp [calls, rest]
  exact ⟨accepted, exists_path_found calls rest accepted⟩

end Router
end RequestDispatch.Routing
