/-!
# Paths

Joining path texts into canonical form, and the form in which a request path is routed.  Joining is
concatenation of the pieces between the slashes (`segments_joinChars`).
-/

namespace RequestDispatch.Routing

/-- The pieces between slashes, empty ones included. -/
def pieces : List Char → List (List Char)
  | [] => [[]]
  | '/' :: rest => [] :: pieces rest
  | c :: rest =>
    match pieces rest with
    | [] => [[c]]
    | piece :: more => (c :: piece) :: more

/-- The non-empty pieces between slashes. -/
def segments (cs : List Char) : List (List Char) :=
  (pieces cs).filter (!·.isEmpty)

/-- Each piece after a slash of its own; the root where there is no piece. -/
def ofSegments : List (List Char) → List Char
  | [] => ['/']
  | piece :: more => (piece :: more).flatMap ('/' :: ·)

/-- Joins two paths: repeated slashes collapse and a trailing slash is dropped. -/
def joinChars (base path : List Char) : List Char :=
  ofSegments (segments base ++ segments path)

/-- A piece is never empty and holds no slash. -/
def IsPiece (piece : List Char) : Prop := piece ≠ [] ∧ '/' ∉ piece

theorem not_slash_of_mem_pieces {cs piece : List Char} (h : piece ∈ pieces cs) : '/' ∉ piece := by
  fun_induction pieces cs generalizing piece with
  | case1 => simp_all
  | case2 rest ih =>
    rcases List.mem_cons.mp h with rfl | h
    · simp
    · exact ih h
  | case3 c rest slash none ih =>
    rw [List.mem_singleton] at h
    subst h
    simpa [eq_comm] using slash
  | case4 c rest slash front more eq ih =>
    rcases List.mem_cons.mp h with rfl | h
    · have first : '/' ∉ front := ih (by simp [eq])
      simp only [List.mem_cons, not_or]
      exact ⟨fun same => slash same.symm, first⟩
    · exact ih (by simp [eq, h])

theorem isPiece_of_mem_segments {cs piece : List Char} (h : piece ∈ segments cs) :
    IsPiece piece := by
  unfold segments at h
  rw [List.mem_filter] at h
  exact ⟨by simpa using h.2, not_slash_of_mem_pieces h.1⟩

theorem pieces_append {piece : List Char} (h : '/' ∉ piece) (rest : List Char) :
    pieces (piece ++ '/' :: rest) = piece :: pieces rest := by
  induction piece with
  | nil => rfl
  | cons c cs ih =>
    rw [List.mem_cons, not_or] at h
    rw [List.cons_append, pieces, ih h.2]
    exact fun same => h.1 same.symm

theorem pieces_of_not_slash {piece : List Char} (h : '/' ∉ piece) : pieces piece = [piece] := by
  induction piece with
  | nil => rfl
  | cons c cs ih =>
    rw [List.mem_cons, not_or] at h
    rw [pieces, ih h.2]
    exact fun same => h.1 same.symm

/-- The pieces of a path written from pieces are those pieces. -/
theorem segments_ofSegments {items : List (List Char)} (h : ∀ piece ∈ items, IsPiece piece) :
    segments (ofSegments items) = items := by
  have written (items : List (List Char)) (h : ∀ piece ∈ items, IsPiece piece) :
      segments (items.flatMap ('/' :: ·)) = items := by
    induction items with
    | nil => rfl
    | cons piece more ih =>
      have piece_ok := h piece (by simp)
      have more_ok : ∀ p ∈ more, IsPiece p := fun p hp => h p (List.mem_cons_of_mem _ hp)
      cases more with
      | nil =>
        simp [segments, pieces, pieces_of_not_slash piece_ok.2, piece_ok.1]
      | cons next rest =>
        have ih := ih more_ok
        simp only [segments, List.flatMap_cons, List.cons_append, pieces] at ih ⊢
        rw [pieces_append piece_ok.2]
        simp [piece_ok.1] at ih ⊢
        exact ih
  cases items with
  | nil => rfl
  | cons piece more => exact written (piece :: more) h

theorem segments_joinChars (base path : List Char) :
    segments (joinChars base path) = segments base ++ segments path := by
  apply segments_ofSegments
  intro piece h
  rcases List.mem_append.mp h with h | h
  · exact isPiece_of_mem_segments h
  · exact isPiece_of_mem_segments h

def join (base path : String) : String :=
  String.ofList (joinChars base.toList path.toList)

/-- Trailing slashes are dropped; the root stays. -/
def normalizeChars (path : List Char) : List Char :=
  let trimmed := (path.reverse.dropWhile (· = '/')).reverse
  if trimmed.isEmpty then ['/'] else trimmed

def normalize (path : String) : String :=
  String.ofList (normalizeChars path.toList)

end RequestDispatch.Routing
