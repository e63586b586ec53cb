import Mathlib.Data.List.Forall2
import RequestDispatch.Proofs.Routing.TemplateShape
import RequestDispatch.Text.Utf8

/-!
# How a template is filled

Matching and preference as relations between templates and paths as they are written, without any
parser or tree.  A path that matches a well-shaped template determines the values of its places
(`values_unique`) and the byte ranges in which they stand (`spans`).
-/

namespace RequestDispatch.Routing

namespace Template

/-- The path is the template with these values in its places: a non-empty text without slash for each
`:name`, and any text for a final `*name`. -/
def FilledWith (template path : String) (values : List (List Char)) : Prop :=
  ∃ tokens, Reads false template.toList tokens ∧ MatchesWith tokens path.toList values

/-- The path is the template with some values in its places. -/
def Matches (template path : String) : Prop := ∃ values, FilledWith template path values

/-- Where the tokens of the two templates first differ, this one has the token of higher priority. -/
def PreferredTo (template other : String) : Prop :=
  ∃ a b, Reads false template.toList a ∧ Reads false other.toList b ∧ Preferred a b

end Template

theorem matchesWith_nil_iff {path : List Char} {values : List (List Char)} :
    MatchesWith [] path values ↔ path = [] ∧ values = [] := by
  cases values with
  | nil => simp [MatchesWith, Suits, fill, eq_comm]
  | cons value values => simp [MatchesWith, Suits]

theorem matchesWith_char_iff {c : Char} {rest : List Token} {path : List Char}
    {values : List (List Char)} :
    MatchesWith (.char c :: rest) path values ↔
      ∃ left, path = c :: left ∧ MatchesWith rest left values := by
  simp only [MatchesWith, Suits, fill, Option.map_eq_some_iff]
  constructor
  · rintro ⟨suits, left, filled, rfl⟩
    exact ⟨left, rfl, suits, filled⟩
  · rintro ⟨left, rfl, suits, filled⟩
    exact ⟨suits, left, filled, rfl⟩

theorem matchesWith_param_iff {rest : List Token} {path : List Char} {values : List (List Char)} :
    MatchesWith (.param :: rest) path values ↔
      ∃ value more left, values = value :: more ∧ path = value ++ left ∧ value ≠ [] ∧ '/' ∉ value ∧
        MatchesWith rest left more := by
  cases values with
  | nil => simp [MatchesWith, Suits]
  | cons value more =>
    simp only [MatchesWith, Suits, fill, Option.map_eq_some_iff]
    constructor
    · rintro ⟨⟨filled, whole, suits⟩, left, eq, rfl⟩
      exact ⟨value, more, left, rfl, rfl, filled, whole, suits, eq⟩
    · rintro ⟨_, _, left, same, rfl, filled, whole, suits, eq⟩
      cases same
      exact ⟨⟨filled, whole, suits⟩, left, eq, rfl⟩

theorem matchesWith_catchAll_iff {path : List Char} {values : List (List Char)} :
    MatchesWith [.catchAll] path values ↔ values = [path] := by
  cases values with
  | nil => simp [MatchesWith, Suits]
  | cons value more =>
    cases more with
    | nil => simp [MatchesWith, Suits, fill]
    | cons other more => simp [MatchesWith, Suits]

/-- Wherever it stands, a catch-all takes any text. -/
theorem matchesWith_catchAll_cons_iff {rest : List Token} {path : List Char}
    {values : List (List Char)} :
    MatchesWith (.catchAll :: rest) path values ↔
      ∃ value more left, values = value :: more ∧ path = value ++ left ∧
        MatchesWith rest left more := by
  cases values with
  | nil => simp [MatchesWith, Suits]
  | cons value more =>
    simp only [MatchesWith, Suits, fill, Option.map_eq_some_iff]
    constructor
    · rintro ⟨suits, left, eq, rfl⟩
      exact ⟨value, more, left, rfl, rfl, suits, eq⟩
    · rintro ⟨_, _, left, same, rfl, suits, eq⟩
      cases same
      exact ⟨suits, left, eq, rfl⟩

theorem matchesWith_chars_iff {text : List Char} {rest : List Token} {path : List Char}
    {values : List (List Char)} :
    MatchesWith (text.map .char ++ rest) path values ↔
      ∃ left, path = text ++ left ∧ MatchesWith rest left values := by
  induction text generalizing path with
  | nil => simp
  | cons c text ih =>
    simp only [List.map_cons, List.cons_append, matchesWith_char_iff, ih]
    constructor
    · rintro ⟨_, rfl, left, rfl, filled⟩
      exact ⟨left, rfl, filled⟩
    · rintro ⟨left, rfl, filled⟩
      exact ⟨text ++ left, rfl, left, rfl, filled⟩

/-- What is left of a path after a parameter begins with a slash, unless it is empty. -/
theorem slash_after_param {rest : List Token} {left : List Char} {values : List (List Char)}
    (follows : FollowsParam rest) (filled : MatchesWith rest left values) (c : Char)
    (first : left.head? = some c) : c = '/' := by
  cases rest with
  | nil =>
    rw [(matchesWith_nil_iff.mp filled).1] at first
    cases first
  | cons token rest =>
    rw [followsParam_cons] at follows
    subst follows
    obtain ⟨more, rfl, _⟩ := matchesWith_char_iff.mp filled
    cases first
    rfl

/-- A path that matches a well-shaped template has only one reading. -/
theorem values_unique {tokens : List Token} {path : List Char} {v w : List (List Char)}
    (shaped : WellShaped tokens) (hv : MatchesWith tokens path v) (hw : MatchesWith tokens path w) :
    v = w := by
  induction tokens generalizing path v w with
  | nil =>
    rw [(matchesWith_nil_iff.mp hv).2, (matchesWith_nil_iff.mp hw).2]
  | cons token rest ih =>
    cases token with
    | char c =>
      obtain ⟨left, rfl, restV⟩ := matchesWith_char_iff.mp hv
      obtain ⟨_, same, restW⟩ := matchesWith_char_iff.mp hw
      cases same
      exact ih shaped restV restW
    | param =>
      obtain ⟨x, xs, left, rfl, rfl, _, wholeX, restV⟩ := matchesWith_param_iff.mp hv
      obtain ⟨y, ys, other, rfl, same, _, wholeY, restW⟩ := matchesWith_param_iff.mp hw
      have cutX := cut_at_slash wholeX (slash_after_param shaped.1 restV)
      have cutY := cut_at_slash wholeY (slash_after_param shaped.1 restW)
      have values : x = y := by rw [← cutX.1, same, cutY.1]
      have rests : left = other := by rw [← cutX.2, same, cutY.2]
      subst values rests
      rw [ih shaped.2 restV restW]
    | catchAll =>
      cases shaped
      rw [matchesWith_catchAll_iff.mp hv, matchesWith_catchAll_iff.mp hw]

/-- The byte ranges in which the values of the places stand when the text of the template begins at
offset `pos`. -/
def spans : List Token → List (List Char) → Nat → List Range
  | .char c :: rest, values, pos => spans rest values (pos + c.utf8Size)
  | _ :: rest, value :: values, pos =>
    ⟨pos, pos + Utf8.width value⟩ :: spans rest values (pos + Utf8.width value)
  | _, _, _ => []

theorem spans_char (c : Char) (rest : List Token) (values : List (List Char)) (pos : Nat) :
    spans (.char c :: rest) values pos = spans rest values (pos + c.utf8Size) := rfl

theorem spans_param (rest : List Token) (value : List Char) (values : List (List Char)) (pos : Nat) :
    spans (.param :: rest) (value :: values) pos =
      ⟨pos, pos + Utf8.width value⟩ :: spans rest values (pos + Utf8.width value) := rfl

theorem spans_chars_append (text : List Char) (rest : List Token) (values : List (List Char))
    (pos : Nat) :
    spans (text.map .char ++ rest) values pos = spans rest values (pos + Utf8.width text) := by
  induction text generalizing pos with
  | nil => rfl
  | cons c text ih =>
    rw [List.map_cons, List.cons_append, spans_char, ih, Utf8.width, Nat.add_assoc]

/-- The ranges of a filled template cut its values out of the path. -/
theorem slices_of_spans {tokens : List Token} {path : List Char} {values : List (List Char)}
    (filled : MatchesWith tokens path values) (front : List Char) :
    List.Forall₂ (fun range value => Utf8.slice? range (front ++ path) = some value)
      (spans tokens values (Utf8.width front)) values := by
  induction tokens generalizing path values front with
  | nil =>
    rw [(matchesWith_nil_iff.mp filled).2]
    exact .nil
  | cons token rest ih =>
    -- a place takes its value, and the text of the template goes on behind it
    have place {value left : List Char} {more : List (List Char)}
        (restFilled : MatchesWith rest left more) :
        List.Forall₂ (fun range v => Utf8.slice? range (front ++ (value ++ left)) = some v)
          (⟨Utf8.width front, Utf8.width front + Utf8.width value⟩ ::
            spans rest more (Utf8.width front + Utf8.width value)) (value :: more) := by
      have later := ih restFilled (front ++ value)
      rw [Utf8.width_append, List.append_assoc] at later
      exact .cons (Utf8.slice?_width front value left) later
    cases token with
    | char c =>
      obtain ⟨left, rfl, restFilled⟩ := matchesWith_char_iff.mp filled
      have later := ih restFilled (front ++ [c])
      simpa [Utf8.width_append, Utf8.width, spans] using later
    | param =>
      obtain ⟨value, more, left, rfl, rfl, _, _, restFilled⟩ := matchesWith_param_iff.mp filled
      exact place restFilled
    | catchAll =>
      obtain ⟨value, more, left, rfl, rfl, restFilled⟩ := matchesWith_catchAll_cons_iff.mp filled
      exact place restFilled

/-- Every range begins at or after the offset at which the template begins. -/
theorem start_of_mem_spans {tokens : List Token} {values : List (List Char)} {pos : Nat}
    {range : Range} (mem : range ∈ spans tokens values pos) :
    pos ≤ range.start ∧ range.start ≤ range.stop := by
  fun_induction spans tokens values pos with
  | case1 c rest values pos ih =>
    have later := ih mem
    omega
  | case2 token rest value values pos _ ih =>
    rcases List.mem_cons.mp mem with rfl | mem
    · simp
    · have later := ih mem
      omega
  | case3 => cases mem

/-- The ranges are in ascending order. -/
theorem ascending_spans (tokens : List Token) (values : List (List Char)) (pos : Nat) :
    (spans tokens values pos).Pairwise fun a b => a.stop ≤ b.start := by
  fun_induction spans tokens values pos with
  | case1 c rest values pos ih => exact ih
  | case2 token rest value values pos _ ih =>
    exact .cons (fun range mem => (start_of_mem_spans mem).1) ih
  | case3 => exact .nil

/-- The ranges stand apart from each other, in ascending order: at least a slash lies between two. -/
theorem pairwise_spans {tokens : List Token} (shaped : WellShaped tokens)
    (values : List (List Char)) (pos : Nat) :
    (spans tokens values pos).Pairwise fun a b => a.stop < b.start := by
  induction tokens generalizing values pos with
  | nil => exact .nil
  | cons token rest ih =>
    cases token with
    | char c => exact ih shaped values _
    | catchAll =>
      cases shaped
      cases values with
      | nil => exact .nil
      | cons value values => simp [spans]
    | param =>
      cases values with
      | nil => exact .nil
      | cons value values =>
        refine .cons ?_ (ih shaped.2 values _)
        intro range mem
        cases rest with
        | nil => cases values <;> cases mem
        | cons next rest =>
          have slash := (followsParam_cons next rest).mp shaped.1
          subst slash
          rw [spans_char] at mem
          have later := start_of_mem_spans mem
          have size : 0 < '/'.utf8Size := Char.utf8Size_pos _
          simp only
          omega

/-- No range reaches beyond the filled text, and the range of a catch-all reaches its end. -/
theorem stop_of_spans {tokens : List Token} {path : List Char} {values : List (List Char)}
    (shaped : WellShaped tokens) (filled : MatchesWith tokens path values) (pos : Nat) :
    (∀ range ∈ spans tokens values pos, range.stop ≤ pos + Utf8.width path) ∧
      (tokens.getLast? = some .catchAll →
        ∃ range, (spans tokens values pos).getLast? = some range ∧
          range.stop = pos + Utf8.width path) := by
  induction tokens generalizing path values pos with
  | nil => simp [spans]
  | cons token rest ih =>
    cases token with
    | char c =>
      obtain ⟨left, rfl, restFilled⟩ := matchesWith_char_iff.mp filled
      have later := ih shaped restFilled (pos + c.utf8Size)
      rw [Utf8.width, ← Nat.add_assoc]
      refine ⟨later.1, fun last => later.2 ?_⟩
      cases rest with
      | nil => cases last
      | cons next rest => rwa [List.getLast?_cons_cons] at last
    | param =>
      obtain ⟨value, more, left, rfl, rfl, _, _, restFilled⟩ := matchesWith_param_iff.mp filled
      have later := ih shaped.2 restFilled (pos + Utf8.width value)
      rw [Utf8.width_append, ← Nat.add_assoc]
      refine ⟨?_, fun last => ?_⟩
      · intro range mem
        rcases List.mem_cons.mp mem with rfl | mem
        · simp
        · exact later.1 range mem
      · cases rest with
        | nil => cases last
        | cons next rest =>
          rw [List.getLast?_cons_cons] at last
          obtain ⟨range, isLast, stop⟩ := later.2 last
          refine ⟨range, ?_, stop⟩
          rw [spans_param, List.getLast?_cons, isLast]
          rfl
    | catchAll =>
      cases shaped
      rw [matchesWith_catchAll_iff.mp filled]
      simp [spans]

end RequestDispatch.Routing
