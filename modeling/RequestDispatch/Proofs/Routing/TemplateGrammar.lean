import Mathlib.Data.List.Chain
import RequestDispatch.Proofs.Routing.TemplateShape
import RequestDispatch.Routing.Path

/-!
# The grammar of templates

Which texts are templates, said of the pieces between their slashes and without the parser: each piece is
literal text or a parameter, and the last one may end in a catch-all (`Template.Grammar`).  The parser
accepts exactly these texts (`Template.exists_parseChars_iff`), and the segments that it gives follow each
other as the search relies on (`Template.arranged_of_parseChars`).

What the parser has read of a piece decides what may still come.  The inductions are on its run, with the
part of the piece at hand that has been read as a parameter.
-/

namespace RequestDispatch.Routing

/-! ### Canonical form -/

/-- A path in canonical form: it begins with a slash, no slash follows another, and only the root ends
with one. -/
structure Canonical (path : List Char) : Prop where
  rooted : path.head? = some '/'
  apart : ¬ ['/', '/'] <:+: path
  ends : path.getLast? = some '/' → path = ['/']

/-- The three forms that a path may lack. -/
inductive TemplateFault.OfForm : TemplateFault → Prop
  | noLeadingSlash : OfForm .noLeadingSlash
  | trailingSlash : OfForm .trailingSlash
  | emptySegment : OfForm .emptySegment

namespace Template

theorem hasEmptySegment_iff (text : List Char) :
    hasEmptySegment text = true ↔ ['/', '/'] <:+: text := by
  fun_induction hasEmptySegment text with
  | case1 rest => exact ⟨fun _ => ⟨[], rest, rfl⟩, fun _ => rfl⟩
  | case2 c rest other ih =>
    rw [ih, List.infix_cons_iff]
    refine ⟨.inr, fun h => h.resolve_left ?_⟩
    rintro ⟨more, same⟩
    exact other more (List.cons.inj same).1.symm (List.cons.inj same).2.symm
  | case3 => simp

/-- Only what is in canonical form is split, and nothing else is wrong with the form of a path. -/
theorem parseChars_of_canonical {cs : List Char} (canonical : Canonical cs) :
    parseChars cs = split (.literal []) cs := by
  obtain ⟨rooted, apart, ends⟩ := canonical
  have noTrailing : ¬ (1 < cs.length ∧ cs.getLast? = some '/') := by
    rintro ⟨long, slash⟩
    rw [ends slash] at long
    exact absurd long (by decide)
  rw [parseChars, if_neg (not_not.mpr rooted), if_neg noTrailing,
    if_neg (mt (hasEmptySegment_iff cs).mp apart)]

theorem parseChars_of_not_canonical {cs : List Char} (other : ¬ Canonical cs) :
    ∃ fault, TemplateFault.OfForm fault ∧ parseChars cs = .error fault := by
  unfold parseChars
  split
  · exact ⟨_, .noLeadingSlash, rfl⟩
  · rename_i first
    have rooted := not_not.mp first
    split
    · exact ⟨_, .trailingSlash, rfl⟩
    · rename_i last
      split
      · exact ⟨_, .emptySegment, rfl⟩
      · rename_i filled
        refine absurd ⟨rooted, mt (hasEmptySegment_iff cs).mpr filled, fun slash => ?_⟩ other
        obtain ⟨rest, rfl⟩ := List.head?_eq_some_iff.mp rooted
        cases rest with
        | nil => rfl
        | cons c rest => exact absurd ⟨by simp, slash⟩ last

/-! ### Pieces -/

/-- A name holds neither of the characters that open one. -/
def IsName (name : List Char) : Prop := ':' ∉ name ∧ '*' ∉ name

/-- Literal text at the start of a piece: it holds no asterisk, and a colon does not begin it. -/
def IsPlain (text : List Char) : Prop := '*' ∉ text ∧ text.head? ≠ some ':'

/-- How one piece of a template may be written; `last` says that no piece follows it. -/
inductive WellWritten (last : Prop) : List Char → Prop
  | literal {text : List Char} (plain : IsPlain text) : WellWritten last text
  | param {name : List Char} (filled : name ≠ []) (named : IsName name) : WellWritten last (':' :: name)
  | catchAll {text name : List Char} (atEnd : last) (plain : IsPlain text) (named : IsName name) :
    WellWritten last (text ++ '*' :: name)

/-- Each of the pieces is well written. -/
def AllWritten (items : List (List Char)) : Prop :=
  ∀ before piece after, items = before ++ piece :: after → WellWritten (after = []) piece

/-- The texts that are templates. -/
structure Grammar (text : List Char) : Prop extends Canonical text where
  pieces : AllWritten (pieces text.tail)

theorem isName_iff (name : List Char) : IsName name ↔ name.all isNameChar = true := by
  simp only [IsName, isNameChar, List.all_eq_true, Bool.and_eq_true, decide_eq_true_eq, forall_and]
  constructor
  · rintro ⟨colon, star⟩
    exact ⟨fun c mem same => colon (same ▸ mem), fun c mem same => star (same ▸ mem)⟩
  · rintro ⟨colon, star⟩
    exact ⟨fun mem => colon _ mem rfl, fun mem => star _ mem rfl⟩

theorem isPlain_nil : IsPlain [] := ⟨List.not_mem_nil, by simp⟩

theorem allWritten_singleton (piece : List Char) : AllWritten [piece] ↔ WellWritten True piece := by
  constructor
  · intro all
    have own := all [] piece [] rfl
    rwa [eq_self] at own
  · intro own before other after split
    obtain ⟨rfl, rfl, rfl⟩ : before = [] ∧ piece = other ∧ after = [] := by
      cases before with
      | nil => simpa using split
      | cons _ _ => simp at split
    rwa [eq_self]

theorem allWritten_cons {piece : List Char} {more : List (List Char)} (further : more ≠ []) :
    AllWritten (piece :: more) ↔ WellWritten False piece ∧ AllWritten more := by
  constructor
  · intro all
    have own := all [] piece more rfl
    rw [eq_false further] at own
    exact ⟨own, fun before other after split => all (piece :: before) other after (congrArg _ split)⟩
  · rintro ⟨own, others⟩ before other after split
    cases before with
    | nil =>
      obtain ⟨rfl, rfl⟩ := List.cons.inj split
      rwa [eq_false further]
    | cons _ before => exact others before other after (List.cons.inj split).2

/-- A piece that begins with a colon is a parameter. -/
theorem wellWritten_colon_iff {last : Prop} {name : List Char} :
    WellWritten last (':' :: name) ↔ name ≠ [] ∧ IsName name := by
  constructor
  · intro written
    generalize same : ':' :: name = piece at written
    cases written with
    | literal plain => exact absurd (same ▸ rfl) plain.2
    | param filled named =>
      cases same
      exact ⟨filled, named⟩
    | @catchAll text _ _ plain _ =>
      cases text with
      | nil => cases same
      | cons c text =>
        cases same
        exact absurd rfl plain.2
  · rintro ⟨filled, named⟩
    exact .param filled named

/-- A piece with an asterisk behind plain text ends in a catch-all. -/
theorem wellWritten_star_iff {last : Prop} {text name : List Char} (plain : IsPlain text) :
    WellWritten last (text ++ '*' :: name) ↔ last ∧ IsName name := by
  constructor
  · intro written
    generalize same : text ++ '*' :: name = piece at written
    cases written with
    | literal other => exact absurd (same ▸ List.mem_append_right _ List.mem_cons_self) other.1
    | param _ named =>
      cases text with
      | nil => cases same
      | cons c text =>
        cases same
        exact absurd rfl plain.2
    | @catchAll front more atEnd other named =>
      obtain ⟨-, -, rfl⟩ := (List.append_cons_inj_of_notMem other.1 named.2).mp same.symm
      exact ⟨atEnd, named⟩
  · rintro ⟨atEnd, named⟩
    exact .catchAll atEnd plain named

/-! ### What is accepted -/

theorem param_eq_ok_iff {name : List Char} {segment : Segment} :
    param name = .ok segment ↔ name ≠ [] ∧ IsName name ∧ segment = .param name := by
  rw [param, isName_iff]
  grind

theorem catchAll_eq_ok_iff {name : List Char} {segment : Segment} :
    catchAll name = .ok segment ↔
      '/' ∉ name ∧ IsName name ∧ segment = .catchAll (if name = [] then unnamedTail else name) := by
  rw [catchAll, isName_iff]
  grind

theorem not_ofForm_of_param {name : List Char} {fault : TemplateFault} (h : param name = .error fault) :
    ¬ fault.OfForm := by
  rw [param] at h
  split at h
  · cases h
    nofun
  · split at h
    · cases h
      nofun
    · cases h

theorem not_ofForm_of_catchAll {name : List Char} {fault : TemplateFault}
    (h : catchAll name = .error fault) : ¬ fault.OfForm := by
  rw [catchAll] at h
  split at h
  · cases h
    nofun
  · split at h
    · cases h
      nofun
    · cases h

theorem exists_param_iff (name : List Char) :
    (∃ segment, param name = .ok segment) ↔ name ≠ [] ∧ IsName name := by
  simp only [param_eq_ok_iff, exists_and_left, exists_eq, and_true]

theorem exists_catchAll_iff (name : List Char) :
    (∃ segment, catchAll name = .ok segment) ↔ '/' ∉ name ∧ IsName name := by
  simp only [catchAll_eq_ok_iff, exists_and_left, exists_eq, and_true]

theorem exists_map_iff {α β : Type} (x : Except TemplateFault α) (f : α → β) :
    (∃ b, x.map f = .ok b) ↔ ∃ a, x = .ok a := by
  cases x with
  | error fault => exact ⟨nofun, nofun⟩
  | ok a => exact ⟨fun _ => ⟨a, rfl⟩, fun _ => ⟨f a, rfl⟩⟩

theorem bind_eq_ok {α β : Type} {x : Except TemplateFault α} {f : α → Except TemplateFault β} {b : β}
    (h : x.bind f = .ok b) : ∃ a, x = .ok a ∧ f a = .ok b := by
  cases x with
  | error fault => cases h
  | ok a => exact ⟨a, rfl, h⟩

theorem map_eq_error {α β : Type} {x : Except TemplateFault α} {f : α → β} {fault : TemplateFault}
    (h : x.map f = .error fault) : x = .error fault := by
  cases x with
  | error other =>
    cases h
    rfl
  | ok a => cases h

theorem exists_bind_map_iff {α β γ : Type} (x : Except TemplateFault α) (y : Except TemplateFault β)
    (f : α → β → γ) :
    (∃ c, (x.bind fun a => y.map (f a)) = .ok c) ↔ (∃ a, x = .ok a) ∧ ∃ b, y = .ok b := by
  cases x with
  | error fault => exact ⟨nofun, nofun⟩
  | ok a =>
    refine Iff.trans (exists_map_iff y (f a)) ⟨fun h => ⟨⟨a, rfl⟩, h⟩, And.right⟩

theorem pieces_ne_nil (text : List Char) : pieces text ≠ [] := by
  fun_cases pieces text <;> simp_all

/-- What has been read of the piece at hand: the text behind its slash. -/
inductive Reading.HasRead : Reading → List Char → Prop
  | literal {before part : List Char} (whole : '/' ∉ part) (plain : IsPlain part) :
    HasRead (.literal (before ++ '/' :: part)) part
  | param {name : List Char} (whole : '/' ∉ name) : HasRead (.param name) (':' :: name)

theorem hasRead_slash : (Reading.literal ['/']).HasRead [] :=
  @Reading.HasRead.literal [] [] List.not_mem_nil isPlain_nil

/-- A slash is the last that was read where a piece is about to begin. -/
theorem getLast?_slash_iff (before : List Char) {part : List Char} (whole : '/' ∉ part) :
    (before ++ '/' :: part).getLast? = some '/' ↔ part = [] := by
  rcases List.eq_nil_or_concat' part with rfl | ⟨front, c, rfl⟩
  · simp
  · have other : c ≠ '/' := by
      rintro rfl
      simp at whole
    rw [← List.cons_append, ← List.append_assoc, List.getLast?_concat]
    simpa using other

/-- An asterisk behind plain text is accepted with the name after it, and only in the last piece. -/
theorem exists_catchAll_iff_allWritten {part rest : List Char} (whole : '/' ∉ part)
    (plain : IsPlain part) :
    (∃ segment, catchAll rest = .ok segment) ↔ AllWritten (pieces (part ++ '*' :: rest)) := by
  rw [exists_catchAll_iff]
  by_cases slash : '/' ∈ rest
  · obtain ⟨name, more, rfl, clear⟩ := List.eq_append_cons_of_mem slash
    have further : '/' ∉ part ++ '*' :: name := by simp [whole, clear]
    rw [show part ++ '*' :: (name ++ '/' :: more) = (part ++ '*' :: name) ++ '/' :: more by simp,
      pieces_append further, allWritten_cons (pieces_ne_nil more), wellWritten_star_iff plain]
    exact ⟨fun h => absurd slash h.1, fun h => h.1.1.elim⟩
  · have alone : '/' ∉ part ++ '*' :: rest := by simp [whole, slash]
    rw [pieces_of_not_slash alone, allWritten_singleton, wellWritten_star_iff plain]
    exact ⟨fun h => ⟨trivial, h.2⟩, fun h => ⟨slash, h.2⟩⟩

/-- The rest of a template is accepted where the pieces are well written, the one at hand with the part
of it that has been read. -/
theorem exists_split_iff {reading : Reading} {cs part : List Char} (h : reading.HasRead part) :
    (∃ segments, split reading cs = .ok segments) ↔ AllWritten (pieces (part ++ cs)) := by
  fun_induction split reading cs generalizing part with
  | case1 text =>
    cases h with
    | literal whole plain =>
      rw [List.append_nil, pieces_of_not_slash whole, allWritten_singleton]
      exact ⟨fun _ => .literal plain, fun _ => ⟨_, rfl⟩⟩
  | case2 name =>
    cases h with
    | param whole =>
      rw [exists_map_iff, exists_param_iff, List.append_nil,
        pieces_of_not_slash (by simpa using whole), allWritten_singleton, wellWritten_colon_iff]
  | case3 text c rest opens ih =>
    cases h with
    | @literal before _ whole plain =>
      obtain ⟨rfl, slash⟩ := opens
      obtain rfl := (getLast?_slash_iff before whole).mp slash
      rw [exists_map_iff, ih (.param List.not_mem_nil)]
      rfl
  | case4 text rest opens =>
    cases h with
    | literal whole plain => rw [exists_map_iff, exists_catchAll_iff_allWritten whole plain]
  | case5 text c rest opens star ih =>
    cases h with
    | @literal before _ whole plain =>
      by_cases slash : c = '/'
      · subst slash
        rw [ih (.literal List.not_mem_nil isPlain_nil), pieces_append whole,
          allWritten_cons (pieces_ne_nil rest)]
        exact ⟨fun h => ⟨.literal plain, h⟩, And.right⟩
      · have clear : '/' ∉ part ++ [c] := by simpa [whole] using Ne.symm slash
        have further : IsPlain (part ++ [c]) := by
          refine ⟨by simpa [plain.1] using Ne.symm star, ?_⟩
          cases part with
          | nil =>
            rintro ⟨⟩
            exact opens ⟨rfl, (getLast?_slash_iff before whole).mpr rfl⟩
          | cons first part => exact plain.2
        have read : (Reading.literal (before ++ '/' :: part ++ [c])).HasRead (part ++ [c]) := by
          simpa using @Reading.HasRead.literal before (part ++ [c]) clear further
        rw [ih read]
        simp
  | case6 name rest ih =>
    cases h with
    | param whole =>
      have own : pieces (':' :: name ++ '/' :: rest) = (':' :: name) :: pieces rest :=
        pieces_append (by simpa using whole) rest
      rw [exists_bind_map_iff, exists_param_iff, ih hasRead_slash, own,
        allWritten_cons (pieces_ne_nil rest), wellWritten_colon_iff]
      rfl
  | case7 name c rest slash ih =>
    cases h with
    | param whole =>
      have clear : '/' ∉ name ++ [c] := by simpa [whole] using Ne.symm slash
      rw [ih (.param clear)]
      simp

/-- The first slash is literal text. -/
theorem split_slash (rest : List Char) :
    split (.literal []) ('/' :: rest) = split (.literal ['/']) rest := by
  rw [split, if_neg (by decide), if_neg (by decide), List.nil_append]

/-- The texts of the grammar, and no others, are split into segments. -/
theorem exists_parseChars_iff (cs : List Char) :
    (∃ segments, parseChars cs = .ok segments) ↔ Grammar cs := by
  by_cases canonical : Canonical cs
  · rw [parseChars_of_canonical canonical]
    obtain ⟨rest, rfl⟩ := List.head?_eq_some_iff.mp canonical.rooted
    rw [split_slash, exists_split_iff hasRead_slash]
    exact ⟨fun written => ⟨canonical, written⟩, Grammar.pieces⟩
  · obtain ⟨fault, -, refused⟩ := parseChars_of_not_canonical canonical
    rw [refused]
    exact ⟨nofun, fun grammar => absurd grammar.toCanonical canonical⟩

/-- Splitting a path finds nothing wrong with its form. -/
theorem not_ofForm_of_split {reading : Reading} {cs : List Char} {fault : TemplateFault}
    (h : split reading cs = .error fault) : ¬ fault.OfForm := by
  fun_induction split reading cs with
  | case1 text => cases h
  | case2 name => exact not_ofForm_of_param (map_eq_error h)
  | case3 text c rest opens ih => exact ih (map_eq_error h)
  | case4 text rest opens => exact not_ofForm_of_catchAll (map_eq_error h)
  | case5 text c rest opens star ih => exact ih h
  | case6 name rest ih =>
    cases made : param name with
    | error other =>
      rw [made] at h
      cases h
      exact not_ofForm_of_param made
    | ok segment =>
      rw [made] at h
      exact ih (map_eq_error h)
  | case7 name c rest slash ih => exact ih h

/-- What is wrong with a path in canonical form is not its form. -/
theorem not_ofForm_of_canonical {cs : List Char} {fault : TemplateFault} (canonical : Canonical cs)
    (h : parseChars cs = .error fault) : ¬ fault.OfForm := by
  rw [parseChars_of_canonical canonical] at h
  exact not_ofForm_of_split h

/-! ### How the segments follow each other -/

/-- Which segment may come right after which. -/
def Fits : Segment → Segment → Prop
  | .literal text, .param _ => text.getLast? = some '/'
  | .literal _, .catchAll _ => True
  | .param _, .literal text => text.head? = some '/'
  | _, _ => False

/-- Literal text is not empty. -/
def Filled : Segment → Prop
  | .literal text => text ≠ []
  | _ => True

/-- The segments begin with what has been read. -/
def Reading.Begins : Reading → List Segment → Prop
  | .literal text, segments => ∃ more rest, segments = .literal (text ++ more) :: rest
  | .param _, segments => ∃ name rest, segments = .param name :: rest

/-- Segments that go on from a reading, each of them fitting the one before it. -/
structure Reading.Continued (reading : Reading) (segments : List Segment) : Prop where
  begins : reading.Begins segments
  filled : ∀ segment ∈ segments, Filled segment
  fits : segments.IsChain Fits

theorem literal_of_ne_nil {text : List Char} (filled : text ≠ []) : literal text = [.literal text] := by
  rw [literal, if_neg (by simpa using filled)]

/-- Once something has been read, each segment that is split off fits the one before it. -/
theorem continued_of_split {reading : Reading} {cs : List Char} {segments : List Segment}
    (h : split reading cs = .ok segments) (opened : reading ≠ .literal []) :
    reading.Continued segments := by
  fun_induction split reading cs generalizing segments with
  | case1 text =>
    have begun : text ≠ [] := fun none => opened (none ▸ rfl)
    cases h
    rw [literal_of_ne_nil begun]
    exact ⟨⟨[], [], by simp⟩, by simpa [Filled] using begun, .singleton _⟩
  | case2 name =>
    obtain ⟨segment, made, rfl⟩ := map_eq_ok h
    obtain ⟨-, -, rfl⟩ := param_eq_ok_iff.mp made
    exact ⟨⟨name, [], rfl⟩, by simp [Filled], .singleton _⟩
  | case3 text c rest opens ih =>
    obtain ⟨more, read, rfl⟩ := map_eq_ok h
    have begun : text ≠ [] := fun none => opened (none ▸ rfl)
    obtain ⟨⟨name, others, rfl⟩, filled, fits⟩ := ih read (by simp)
    rw [literal_of_ne_nil begun]
    refine ⟨⟨[], .param name :: others, by simp⟩, ?_, .cons_cons opens.2 fits⟩
    exact List.forall_mem_cons.mpr ⟨begun, filled⟩
  | case4 text rest opens =>
    obtain ⟨segment, made, rfl⟩ := map_eq_ok h
    have begun : text ≠ [] := fun none => opened (none ▸ rfl)
    rw [literal_of_ne_nil begun]
    refine ⟨⟨[], [segment], by simp⟩, ?_, ?_⟩
    all_goals obtain ⟨-, -, rfl⟩ := catchAll_eq_ok_iff.mp made
    · simpa [Filled] using begun
    · exact .cons_cons trivial (.singleton _)
  | case5 text c rest opens star ih =>
    obtain ⟨⟨more, others, begins⟩, filled, fits⟩ := ih h (by simp)
    exact ⟨⟨c :: more, others, by simpa using begins⟩, filled, fits⟩
  | case6 name rest ih =>
    obtain ⟨segment, made, goesOn⟩ := bind_eq_ok h
    obtain ⟨more, read, rfl⟩ := map_eq_ok goesOn
    obtain ⟨-, -, rfl⟩ := param_eq_ok_iff.mp made
    obtain ⟨⟨text, others, rfl⟩, filled, fits⟩ := ih read (by simp)
    refine ⟨⟨name, _, rfl⟩, ?_, .cons_cons rfl fits⟩
    exact List.forall_mem_cons.mpr ⟨trivial, filled⟩
  | case7 name c rest slash ih =>
    obtain ⟨begins, filled, fits⟩ := ih h (by simp)
    exact ⟨begins, filled, fits⟩

/-- How the segments of a template follow each other. -/
structure Arranged (segments : List Segment) : Prop where
  filled : ∀ text, .literal text ∈ segments → text ≠ []
  apart : ∀ before text other after,
    segments ≠ before ++ .literal text :: .literal other :: after
  behindSlash : ∀ before name after, segments = before ++ .param name :: after →
    ∃ front text, before = front ++ [.literal text] ∧ text.getLast? = some '/'
  beforeSlash : ∀ before name after, segments = before ++ .param name :: after →
    after = [] ∨ ∃ text rest, after = .literal text :: rest ∧ text.head? = some '/'
  atEnd : ∀ before name after, segments = before ++ .catchAll name :: after → after = []

theorem Reading.Continued.arranged {text : List Char} {segments : List Segment}
    (h : (Reading.literal text).Continued segments) : Arranged segments := by
  have next {before : List Segment} {a b : Segment} {after : List Segment}
      (whole : segments = before ++ a :: b :: after) : Fits a b :=
    List.isChain_iff_forall_rel_of_append_cons_cons.mp h.fits whole
  refine ⟨fun text mem => h.filled _ mem, fun before text other after whole => next whole, ?_, ?_, ?_⟩
  · rintro before name after whole
    rcases List.eq_nil_or_concat' before with rfl | ⟨front, a, rfl⟩
    · obtain ⟨more, rest, begins⟩ := h.begins
      cases begins.symm.trans whole
    · rw [List.append_assoc] at whole
      have fits := next whole
      cases a with
      | literal text => exact ⟨front, text, rfl, fits⟩
      | param other => exact fits.elim
      | catchAll other => exact fits.elim
  · rintro before name after whole
    cases after with
    | nil => exact .inl rfl
    | cons b rest =>
      have fits := next whole
      cases b with
      | literal text => exact .inr ⟨text, rest, rfl, fits⟩
      | param other => exact fits.elim
      | catchAll other => exact fits.elim
  · rintro before name after whole
    cases after with
    | nil => rfl
    | cons b rest => exact (next whole).elim

theorem arranged_of_parseChars {cs : List Char} {segments : List Segment}
    (h : parseChars cs = .ok segments) : Arranged segments := by
  have canonical := ((exists_parseChars_iff cs).mp ⟨segments, h⟩).toCanonical
  obtain ⟨rest, rfl⟩ := List.head?_eq_some_iff.mp canonical.rooted
  rw [parseChars_of_canonical canonical, split_slash] at h
  exact (continued_of_split h nofun).arranged

end Template
end RequestDispatch.Routing
