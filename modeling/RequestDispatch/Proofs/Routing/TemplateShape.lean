import RequestDispatch.Routing.TemplateText
import RequestDispatch.Routing.Matching

/-!
# The tokens of a template

`Template.Reads` says which tokens the text of a template stands for, without the parser: a colon right
after a slash opens a parameter, an asterisk the catch-all.  The parser reads these tokens
(`Template.reads_of_parse`).  A parameter ends its piece of the path and a catch-all ends everything
(`Template.Reads.wellShaped`), so what a parameter takes from a path is determined.
-/

namespace RequestDispatch.Routing

/-- What may come after a parameter: a slash, or nothing. -/
def FollowsParam (tokens : List Token) : Prop :=
  ∀ token, tokens.head? = some token → token = .char '/'

theorem followsParam_nil : FollowsParam [] := by
  intro token first
  cases first

theorem followsParam_cons (token : Token) (rest : List Token) :
    FollowsParam (token :: rest) ↔ token = .char '/' := by
  constructor
  · intro h
    exact h token rfl
  · rintro rfl token first
    cases first
    rfl

/-- A parameter ends its piece of the path, and nothing follows a catch-all. -/
def WellShaped : List Token → Prop
  | [] => True
  | .char _ :: rest => WellShaped rest
  | .param :: rest => FollowsParam rest ∧ WellShaped rest
  | .catchAll :: rest => rest = []

theorem wellShaped_chars_append (text : List Char) (tokens : List Token) :
    WellShaped (text.map .char ++ tokens) ↔ WellShaped tokens := by
  induction text with
  | nil => exact Iff.rfl
  | cons c text ih => exact ih

theorem shape_cons (segment : Segment) (segments : List Segment) :
    shape (segment :: segments) = segment.tokens ++ shape segments := rfl

theorem shape_append (a b : List Segment) : shape (a ++ b) = shape a ++ shape b := by
  simp [shape]

theorem places_chars_append (text : List Char) (tokens : List Token) :
    places (text.map .char ++ tokens) = places tokens := by
  induction text with
  | nil => rfl
  | cons c text ih => exact ih

/-- Every place of a shape has a name. -/
theorem length_paramNames (segments : List Segment) :
    (paramNames segments).length = places (shape segments) := by
  induction segments with
  | nil => rfl
  | cons segment segments ih =>
    rw [shape_cons]
    cases segment with
    | literal text => exact Eq.trans ih (places_chars_append text _).symm
    | param name => simpa [paramNames, Segment.name?, Segment.tokens, places] using ih
    | catchAll name => simpa [paramNames, Segment.name?, Segment.tokens, places] using ih

/-- The text up to the first slash, and what is left after it. -/
theorem cut_at_slash {value left : List Char} (whole : '/' ∉ value)
    (after : ∀ c, left.head? = some c → c = '/') :
    (value ++ left).takeWhile (· ≠ '/') = value ∧
      (value ++ left).dropWhile (· ≠ '/') = left := by
  have inside : ∀ c ∈ value, decide (c ≠ '/') = true := by
    intro c mem
    have other : c ≠ '/' := fun same => whole (same ▸ mem)
    simpa using other
  rw [List.takeWhile_append_of_pos inside, List.dropWhile_append_of_pos inside]
  cases left with
  | nil => simp
  | cons c left =>
    have slash := after c rfl
    subst slash
    simp

namespace Template

theorem shape_literal (text : List Char) : shape (literal text) = text.map .char := by
  unfold literal
  split
  · simp_all [shape]
  · simp [shape, Segment.tokens]

theorem tokens_of_param {name : List Char} {segment : Segment} (h : param name = .ok segment) :
    segment.tokens = [.param] := by
  unfold param at h
  split at h
  · cases h
  · split at h
    · cases h
    · cases h
      rfl

theorem tokens_of_catchAll {name : List Char} {segment : Segment}
    (h : catchAll name = .ok segment) : segment.tokens = [.catchAll] := by
  unfold catchAll at h
  split at h
  · cases h
  · split at h
    · cases h
    · cases h
      rfl

/-- The text of a template stands for these tokens.  `slash` says that a slash stands right before the
text. -/
inductive Reads : Bool → List Char → List Token → Prop
  | done {slash : Bool} : Reads slash [] []
  | char {slash : Bool} {c : Char} {text : List Char} {tokens : List Token} (star : c ≠ '*')
      (colon : ¬ (slash = true ∧ c = ':')) (rest : Reads (c = '/') text tokens) :
      Reads slash (c :: text) (.char c :: tokens)
  | param {name text : List Char} {tokens : List Token} (whole : '/' ∉ name)
      (ends : ∀ c, text.head? = some c → c = '/') (rest : Reads false text tokens) :
      Reads true (':' :: (name ++ text)) (.param :: tokens)
  | catchAll {slash : Bool} {name : List Char} : Reads slash ('*' :: name) [.catchAll]

theorem Reads.wellShaped {slash : Bool} {text : List Char} {tokens : List Token}
    (h : Reads slash text tokens) : WellShaped tokens := by
  induction h with
  | done => trivial
  | char star colon rest ih => exact ih
  | catchAll => rfl
  | param whole ends rest ih =>
    refine ⟨?_, ih⟩
    cases rest with
    | done => exact followsParam_nil
    | char => exact (followsParam_cons _ _).mpr (congrArg Token.char (ends _ rfl))
    | catchAll => cases ends _ rfl

/-- A text stands for one sequence of tokens only. -/
theorem Reads.unique {slash : Bool} {text : List Char} {a b : List Token}
    (ha : Reads slash text a) (hb : Reads slash text b) : a = b := by
  induction ha generalizing b with
  | done =>
    cases hb
    rfl
  | char star colon rest ih =>
    cases hb with
    | char _ _ other => rw [ih other]
    | param => exact absurd ⟨rfl, rfl⟩ colon
    | catchAll => exact absurd rfl star
  | catchAll =>
    cases hb with
    | char star => exact absurd rfl star
    | catchAll => rfl
  | param whole ends rest ih =>
    generalize eq : ':' :: (_ ++ _) = text at hb
    cases hb with
    | done => cases eq
    | char star colon =>
      cases eq
      exact absurd ⟨rfl, rfl⟩ colon
    | catchAll => cases eq
    | param whole' ends' rest' =>
      have same := List.cons.inj eq
      have cut := cut_at_slash whole ends
      have cut' := cut_at_slash whole' ends'
      rw [same.2] at cut
      have texts := cut.2.symm.trans cut'.2
      subst texts
      rw [ih rest']

/-- The tokens that a begun segment is bound to have. -/
def Reading.tokens : Reading → List Token
  | .literal text => text.map .char
  | .param _ => [.param]

/-- The text `cs` after what has been read stands for these tokens. -/
def Reading.GoesOnWith : Reading → List Char → List Token → Prop
  | .literal text, cs, tokens => Reads (text.getLast? = some '/') cs tokens
  | .param _, cs, tokens =>
    ∃ name text, cs = name ++ text ∧ '/' ∉ name ∧ (∀ c, text.head? = some c → c = '/') ∧
      Reads false text tokens

/-- The parser goes on with the tokens for which the rest of the text stands.  The slash that ends the
name of a parameter begins the literal text after it. -/
theorem shape_of_split {reading : Reading} {cs : List Char} {segments : List Segment}
    (h : split reading cs = .ok segments) :
    ∃ rest, shape segments = reading.tokens ++ rest ∧ reading.GoesOnWith cs rest := by
  fun_induction split reading cs generalizing segments with
  | case1 text =>
    cases h
    exact ⟨[], by simp [shape_literal, Reading.tokens], .done⟩
  | case2 name =>
    obtain ⟨segment, hs, rfl⟩ := map_eq_ok h
    refine ⟨[], ?_, [], [], rfl, List.not_mem_nil, fun c first => ?_, .done⟩
    · simp [shape, tokens_of_param hs, Reading.tokens]
    · cases first
  | case3 text c rest opens ih =>
    obtain ⟨more, hm, rfl⟩ := map_eq_ok h
    obtain ⟨tail, eq, name, left, rfl, whole, ends, reads⟩ := ih hm
    obtain ⟨rfl, slash⟩ := opens
    refine ⟨.param :: tail, ?_, ?_⟩
    · rw [shape_append, shape_literal, eq]
      rfl
    · rw [Reading.GoesOnWith, slash]
      exact .param whole ends reads
  | case4 text rest opens =>
    obtain ⟨segment, hs, rfl⟩ := map_eq_ok h
    refine ⟨[.catchAll], ?_, .catchAll⟩
    rw [shape_append, shape_literal, shape_cons, tokens_of_catchAll hs]
    rfl
  | case5 text c rest opens star ih =>
    obtain ⟨tail, eq, reads⟩ := ih h
    refine ⟨.char c :: tail, ?_, .char star ?_ ?_⟩
    · simpa [Reading.tokens] using eq
    · rintro ⟨slash, rfl⟩
      exact opens ⟨rfl, of_decide_eq_true slash⟩
    · simpa [Reading.GoesOnWith] using reads
  | case6 name rest ih =>
    cases hp : param name with
    | error e =>
      rw [hp] at h
      cases h
    | ok segment =>
      rw [hp] at h
      obtain ⟨more, hm, rfl⟩ := map_eq_ok h
      obtain ⟨tail, eq, reads⟩ := ih hm
      refine ⟨.char '/' :: tail, ?_, [], '/' :: rest, rfl, List.not_mem_nil, ?_, ?_⟩
      · rw [shape_cons, tokens_of_param hp, eq]
        rfl
      · intro c first
        cases first
        rfl
      · exact .char (by decide) (by decide) reads
  | case7 name c rest slash ih =>
    obtain ⟨tail, eq, more, text, rfl, whole, ends, reads⟩ := ih h
    refine ⟨tail, eq, c :: more, text, rfl, ?_, ends, reads⟩
    rw [List.mem_cons, not_or]
    exact ⟨fun same => slash same.symm, whole⟩

theorem parse_eq_ok_iff {template : String} {segments : List Segment} :
    parse template = .ok segments ↔ parseChars template.toList = .ok segments := by
  unfold parse
  cases parseChars template.toList with
  | error fault => exact ⟨nofun, nofun⟩
  | ok found =>
    constructor
    · rintro ⟨⟩
      rfl
    · rintro ⟨⟩
      rfl

/-- The parser reads the tokens for which the template stands. -/
theorem reads_of_parse {template : String} {segments : List Segment}
    (h : parse template = .ok segments) : Reads false template.toList (shape segments) := by
  have h := parse_eq_ok_iff.mp h
  unfold parseChars at h
  split at h
  · cases h
  · split at h
    · cases h
    · split at h
      · cases h
      · obtain ⟨rest, eq, reads⟩ := shape_of_split h
        rw [eq]
        exact reads

end Template
end RequestDispatch.Routing
