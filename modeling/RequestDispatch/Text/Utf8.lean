/-!
# UTF-8 widths, offsets and bytes

Byte offsets into a text are measured over its characters, so a cut is only possible between two
characters.  Bytes become text again strictly (`decode?`) or with a replacement character for every
ill-formed stretch (`decodeLossy`).
-/

namespace RequestDispatch

/-- A half-open range of byte offsets. -/
structure Range where
  start : Nat
  stop : Nat
  deriving DecidableEq, Repr

abbrev Bytes := List UInt8

namespace Utf8

/-- Number of bytes of a text. -/
def width : List Char → Nat
  | [] => 0
  | c :: cs => c.utf8Size + width cs

def encode (cs : List Char) : Bytes :=
  cs.flatMap String.utf8EncodeChar

def ofString (s : String) : Bytes :=
  encode s.toList

/-- The characters from byte offset `n` on; `none` unless `n` lies between two characters. -/
def drop? : Nat → List Char → Option (List Char)
  | 0, cs => some cs
  | _ + 1, [] => none
  | n + 1, c :: cs => if c.utf8Size ≤ n + 1 then drop? (n + 1 - c.utf8Size) cs else none

/-- The characters before byte offset `n`; `none` unless `n` lies between two characters. -/
def take? : Nat → List Char → Option (List Char)
  | 0, _ => some []
  | _ + 1, [] => none
  | n + 1, c :: cs =>
    if c.utf8Size ≤ n + 1 then (take? (n + 1 - c.utf8Size) cs).map (c :: ·) else none

/-- The characters of a byte range; `none` when an end is not between two characters. -/
def slice? (r : Range) (cs : List Char) : Option (List Char) :=
  if r.start ≤ r.stop then (drop? r.start cs).bind (take? (r.stop - r.start)) else none

theorem width_append (as bs : List Char) : width (as ++ bs) = width as + width bs := by
  induction as with
  | nil => simp [width]
  | cons c cs ih => simp [width, ih, Nat.add_assoc]

theorem drop?_width (front rest : List Char) : drop? (width front) (front ++ rest) = some rest := by
  induction front with
  | nil => cases rest <;> rfl
  | cons c cs ih =>
    have pos : 0 < c.utf8Size := c.utf8Size_pos
    obtain ⟨n, hn⟩ : ∃ n, width (c :: cs) = n + 1 := ⟨width (c :: cs) - 1, by simp only [width]; omega⟩
    have size : width (c :: cs) = c.utf8Size + width cs := rfl
    rw [hn, List.cons_append, drop?, if_pos (by omega), show n + 1 - c.utf8Size = width cs by omega]
    exact ih

theorem take?_width (front rest : List Char) : take? (width front) (front ++ rest) = some front := by
  induction front with
  | nil => cases rest <;> rfl
  | cons c cs ih =>
    have pos : 0 < c.utf8Size := c.utf8Size_pos
    obtain ⟨n, hn⟩ : ∃ n, width (c :: cs) = n + 1 := ⟨width (c :: cs) - 1, by simp only [width]; omega⟩
    have size : width (c :: cs) = c.utf8Size + width cs := rfl
    rw [hn, List.cons_append, take?, if_pos (by omega), show n + 1 - c.utf8Size = width cs by omega, ih]
    rfl

theorem slice?_width (front middle rest : List Char) :
    slice? ⟨width front, width front + width middle⟩ (front ++ (middle ++ rest)) = some middle := by
  rw [slice?, if_pos (Nat.le_add_right _ _), drop?_width, Nat.add_sub_cancel_left]
  exact take?_width middle rest

theorem drop?_eq_some_iff {n : Nat} {cs rest : List Char} :
    drop? n cs = some rest ↔ ∃ front, cs = front ++ rest ∧ width front = n := by
  constructor
  · intro h
    fun_induction drop? n cs with
    | case1 cs =>
      cases h
      exact ⟨[], rfl, rfl⟩
    | case2 => cases h
    | case3 n c cs fits ih =>
      obtain ⟨front, rfl, passed⟩ := ih h
      exact ⟨c :: front, rfl, by simp only [width]; omega⟩
    | case4 => cases h
  · rintro ⟨front, rfl, rfl⟩
    exact drop?_width front rest

theorem take?_eq_some_iff {n : Nat} {cs front : List Char} :
    take? n cs = some front ↔ ∃ rest, cs = front ++ rest ∧ width front = n := by
  constructor
  · intro h
    fun_induction take? n cs generalizing front with
    | case1 cs =>
      cases h
      exact ⟨cs, rfl, rfl⟩
    | case2 => cases h
    | case3 n c cs fits ih =>
      obtain ⟨inner, taken, rfl⟩ := Option.map_eq_some_iff.mp h
      obtain ⟨rest, rfl, passed⟩ := ih taken
      exact ⟨rest, rfl, by simp only [width]; omega⟩
    | case4 => cases h
  · rintro ⟨rest, rfl, rfl⟩
    exact take?_width front rest

/-- A slice lies between two characters at both ends, and so inside the text. -/
theorem slice?_eq_some_iff {r : Range} {cs middle : List Char} :
    slice? r cs = some middle ↔
      ∃ front rest, cs = front ++ (middle ++ rest) ∧
        r = ⟨width front, width front + width middle⟩ := by
  constructor
  · intro h
    unfold slice? at h
    split at h
    · rename_i ordered
      obtain ⟨left, dropped, taken⟩ := Option.bind_eq_some_iff.mp h
      obtain ⟨front, rfl, start⟩ := drop?_eq_some_iff.mp dropped
      obtain ⟨rest, rfl, length⟩ := take?_eq_some_iff.mp taken
      refine ⟨front, rest, rfl, ?_⟩
      obtain ⟨first, last⟩ := r
      simp only at ordered start length
      rw [Range.mk.injEq]
      omega
    · cases h
  · rintro ⟨front, rest, rfl, rfl⟩
    exact slice?_width front middle rest

/-- A character whose first bytes have been read: `more` further bytes follow, and the next of them
lies between `low` and `high`. -/
structure Partial where
  more : Nat
  low : Nat
  high : Nat
  value : Nat

/-- What a byte at the start of a character announces. -/
inductive Lead where
  | whole (c : Char)
  | begun (p : Partial)
  | illFormed

def lead (b : Nat) : Lead :=
  if b < 0x80 then .whole (Char.ofNat b)
  else if b < 0xC2 then .illFormed
  else if b < 0xE0 then .begun ⟨1, 0x80, 0xBF, b - 0xC0⟩
  else if b = 0xE0 then .begun ⟨2, 0xA0, 0xBF, 0⟩
  else if b = 0xED then .begun ⟨2, 0x80, 0x9F, 13⟩
  else if b < 0xF0 then .begun ⟨2, 0x80, 0xBF, b - 0xE0⟩
  else if b = 0xF0 then .begun ⟨3, 0x90, 0xBF, 0⟩
  else if b < 0xF4 then .begun ⟨3, 0x80, 0xBF, b - 0xF0⟩
  else if b = 0xF4 then .begun ⟨3, 0x80, 0x8F, 4⟩
  else .illFormed

/-- Reading a byte where a character may begin: what it settles, and what it leaves open. -/
def begin (n : Nat) : List (Option Char) × Option Partial :=
  match lead n with
  | .whole c => ([some c], none)
  | .begun p => ([], some p)
  | .illFormed => ([none], none)

/-- Reading one byte.  A byte that cannot go on with the open character ends it as ill-formed and
is read again as a first byte. -/
def step (p : Option Partial) (n : Nat) : List (Option Char) × Option Partial :=
  match p with
  | none => begin n
  | some q =>
    if q.low ≤ n ∧ n ≤ q.high then
      let value := q.value * 64 + (n - 0x80)
      if q.more ≤ 1 then ([some (Char.ofNat value)], none)
      else ([], some ⟨q.more - 1, 0x80, 0xBF, value⟩)
    else (none :: (begin n).1, (begin n).2)

/-- The characters of a byte sequence, with `none` for each longest stretch that begins a character
and does not complete it. -/
def scan (p : Option Partial) : Bytes → List (Option Char)
  | [] => if p.isSome then [none] else []
  | b :: rest => (step p b.toNat).1 ++ scan (step p b.toNat).2 rest

/-- The text of a well-formed byte sequence. -/
def decode? (bytes : Bytes) : Option String :=
  ((scan none bytes).mapM id).map String.ofList

/-- The text of any byte sequence; each ill-formed stretch becomes U+FFFD. -/
def decodeLossy (bytes : Bytes) : String :=
  String.ofList ((scan none bytes).map (·.getD '\uFFFD'))

end Utf8

end RequestDispatch
