import RequestDispatch.Routing.Template

/-!
# Writing templates

The text of a list of segments.  Writing the segments of a template gives back the template
(`write_of_parseChars`), so reading loses nothing.
-/

namespace RequestDispatch.Routing

/-- The text that a segment stands for. -/
def Segment.text : Segment → List Char
  | .literal text => text
  | .param name => ':' :: name
  | .catchAll name => '*' :: (if name = unnamedTail then [] else name)

namespace Template

/-- The template that segments are written as. -/
def write (segments : List Segment) : List Char := segments.flatMap Segment.text

/-- What has been read of the segment at hand. -/
def Reading.text : Reading → List Char
  | .literal text => text
  | .param name => ':' :: name

theorem write_literal (text : List Char) : write (literal text) = text := by
  unfold literal write
  split
  · simp_all
  · simp [Segment.text]

theorem write_append (a b : List Segment) : write (a ++ b) = write a ++ write b := by
  simp [write]

theorem text_of_param {name : List Char} {segment : Segment} (h : param name = .ok segment) :
    segment.text = ':' :: name := by
  unfold param at h
  split at h
  · cases h
  · split at h
    · cases h
    · cases h
      rfl

theorem text_of_catchAll {name : List Char} {segment : Segment} (h : catchAll name = .ok segment) :
    segment.text = '*' :: name := by
  unfold catchAll at h
  split at h
  · cases h
  · split at h
    · cases h
    · rename_i named
      cases h
      by_cases empty : name.isEmpty = true
      · simp_all [Segment.text]
      · rw [if_neg empty]
        have other : name ≠ unnamedTail := by
          rintro rfl
          exact named (by decide)
        simp [Segment.text, other]

theorem map_eq_ok {α β : Type} {x : Except TemplateFault α} {f : α → β} {b : β}
    (h : x.map f = .ok b) : ∃ a, x = .ok a ∧ f a = b := by
  cases x with
  | error e => cases h
  | ok a => exact ⟨a, rfl, by cases h; rfl⟩

/-- Writing gives back what was read. -/
theorem write_split {reading : Reading} {cs : List Char} {segments : List Segment}
    (h : split reading cs = .ok segments) : write segments = reading.text ++ cs := by
  fun_induction split reading cs generalizing segments with
  | case1 text =>
    cases h
    simp [write_literal, Reading.text]
  | case2 name =>
    obtain ⟨segment, hs, rfl⟩ := map_eq_ok h
    simp [write, text_of_param hs, Reading.text]
  | case3 text c rest opens ih =>
    obtain ⟨more, hm, rfl⟩ := map_eq_ok h
    simp [write_append, write_literal, ih hm, Reading.text, opens.1]
  | case4 text rest opens =>
    obtain ⟨segment, hs, rfl⟩ := map_eq_ok h
    have last : write [segment] = '*' :: rest := by simp [write, text_of_catchAll hs]
    rw [write_append, write_literal, last]
    rfl
  | case5 text c rest _ _ ih => simpa [Reading.text] using ih h
  | case6 name rest ih =>
    cases hp : param name with
    | error e =>
      rw [hp] at h
      cases h
    | ok segment =>
      rw [hp] at h
      obtain ⟨more, hm, rfl⟩ := map_eq_ok h
      have first : write (segment :: more) = segment.text ++ write more := rfl
      rw [first, text_of_param hp, ih hm]
      rfl
  | case7 name c rest _ ih => simpa [Reading.text] using ih h

theorem write_of_parseChars {cs : List Char} {segments : List Segment}
    (h : parseChars cs = .ok segments) : write segments = cs := by
  unfold parseChars at h
  split at h
  · cases h
  · split at h
    · cases h
    · split at h
      · cases h
      · simpa [Reading.text] using write_split h

end Template
end RequestDispatch.Routing
