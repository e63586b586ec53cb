import RequestDispatch.Json
import RequestDispatch.Text.Utf8

/-!
# Reading what was written

Bytes that encode a text decode to it (`Utf8.decode?_encode`), and the object that tells a client of a
failure is read back by a reader that knows the grammar of JSON and nothing of the writer
(`Json.readField?_object`).
-/

namespace RequestDispatch

/-! ### UTF-8 -/

namespace Utf8

variable {n : Nat}

theorem scan_whole (h : n < 0x80) (rest : Bytes) :
    scan none (.ofNat n :: rest) = some (Char.ofNat n) :: scan none rest := by
  have byte : (UInt8.ofNat n).toNat = n := UInt8.toNat_ofNat_of_lt' (Nat.lt_trans h (by decide))
  rw [scan, step, begin, lead, byte, if_pos h]
  rfl

theorem scan_begun {p : Partial} (h : n < 0x100) (begun : lead n = .begun p) (rest : Bytes) :
    scan none (.ofNat n :: rest) = scan (some p) rest := by
  have byte : (UInt8.ofNat n).toNat = n := UInt8.toNat_ofNat_of_lt' h
  rw [scan, step, begin, byte, begun]
  rfl

/-- A further byte that is not the last of its character. -/
theorem scan_more {more low high value : Nat} (h : n < 0x100) (above : low ≤ n) (below : n ≤ high)
    (rest : Bytes) :
    scan (some ⟨more + 2, low, high, value⟩) (.ofNat n :: rest) =
      scan (some ⟨more + 1, 0x80, 0xBF, value * 64 + (n - 0x80)⟩) rest := by
  have byte : (UInt8.ofNat n).toNat = n := UInt8.toNat_ofNat_of_lt' h
  rw [scan, step, byte, if_pos ⟨above, below⟩, if_neg (show ¬more + 2 ≤ 1 by omega)]
  rfl

theorem scan_last {low high value : Nat} (h : n < 0x100) (above : low ≤ n) (below : n ≤ high)
    (rest : Bytes) :
    scan (some ⟨1, low, high, value⟩) (.ofNat n :: rest) =
      some (Char.ofNat (value * 64 + (n - 0x80))) :: scan none rest := by
  have byte : (UInt8.ofNat n).toNat = n := UInt8.toNat_ofNat_of_lt' h
  rw [scan, step, byte, if_pos ⟨above, below⟩, if_pos (Nat.le_refl 1)]
  rfl

theorem lead_two (low : 0xC2 ≤ n) (high : n < 0xE0) : lead n = .begun ⟨1, 0x80, 0xBF, n - 0xC0⟩ := by
  rw [lead, if_neg (by omega), if_neg (by omega), if_pos high]

/-- What the first of three bytes leaves open; the bounds shut out overlong forms and surrogates. -/
theorem lead_three (low : 0xE0 ≤ n) (high : n < 0xF0) :
    lead n = .begun ⟨2, if n = 0xE0 then 0xA0 else 0x80, if n = 0xED then 0x9F else 0xBF, n - 0xE0⟩ := by
  rw [lead, if_neg (by omega), if_neg (by omega), if_neg (by omega)]
  by_cases first : n = 0xE0
  · subst first
    rfl
  · by_cases surrogate : n = 0xED
    · subst surrogate
      rfl
    · rw [if_neg first, if_neg surrogate, if_pos high, if_neg first, if_neg surrogate]

theorem lead_four (low : 0xF0 ≤ n) (high : n < 0xF5) :
    lead n = .begun ⟨3, if n = 0xF0 then 0x90 else 0x80, if n = 0xF4 then 0x8F else 0xBF, n - 0xF0⟩ := by
  rw [lead, if_neg (by omega), if_neg (by omega), if_neg (by omega), if_neg (by omega),
    if_neg (by omega), if_neg (by omega)]
  by_cases first : n = 0xF0
  · subst first
    rfl
  · rw [if_neg first, if_neg first]
    by_cases last : n = 0xF4
    · subst last
      rfl
    · rw [if_pos (by omega), if_neg last]

/-- A character that is written is read again; the cases are those of its number of bytes. -/
theorem scan_encoded (c : Char) (rest : Bytes) :
    scan none (String.utf8EncodeChar c ++ rest) = some c :: scan none rest := by
  have scalar : c.val.toNat < 0xD800 ∨ 0xDFFF < c.val.toNat ∧ c.val.toNat < 0x110000 := c.valid
  have same : Char.ofNat c.val.toNat = c := Char.ofNat_toNat c
  rw [String.utf8EncodeChar]
  generalize c.val.toNat = v at scalar same
  split
  · rename_i one
    rw [List.singleton_append, scan_whole (by omega), same]
  split
  · rename_i more two
    rw [List.cons_append, List.singleton_append,
      scan_begun (by omega) (lead_two (by omega) (by omega)),
      scan_last (by omega) (by omega) (by omega),
      show (v / 64 % 32 + 192 - 192) * 64 + (v % 64 + 128 - 128) = v by omega, same]
  split
  · rename_i more three
    rw [List.cons_append, List.cons_append, List.singleton_append,
      scan_begun (by omega) (lead_three (by omega) (by omega)),
      scan_more (by omega) (by split <;> omega) (by split <;> omega),
      scan_last (by omega) (by omega) (by omega),
      show ((v / 4096 % 16 + 224 - 224) * 64 + (v / 64 % 64 + 128 - 128)) * 64 +
        (v % 64 + 128 - 128) = v by omega, same]
  · rename_i more four
    rw [List.cons_append, List.cons_append, List.cons_append, List.singleton_append,
      scan_begun (by omega) (lead_four (by omega) (by omega)),
      scan_more (by omega) (by split <;> omega) (by split <;> omega),
      scan_more (by omega) (by omega) (by omega),
      scan_last (by omega) (by omega) (by omega),
      show (((v / 262144 % 8 + 240 - 240) * 64 + (v / 4096 % 64 + 128 - 128)) * 64 +
        (v / 64 % 64 + 128 - 128)) * 64 + (v % 64 + 128 - 128) = v by omega, same]

theorem scan_encode (cs : List Char) : scan none (encode cs) = cs.map some := by
  induction cs with
  | nil => rfl
  | cons c cs ih =>
    rw [encode, List.flatMap_cons, scan_encoded, ← encode, ih, List.map_cons]

theorem decode?_encode (cs : List Char) : decode? (encode cs) = some (String.ofList cs) := by
  have read : (cs.map some).mapM id = some cs := by
    induction cs with
    | nil => rfl
    | cons c cs ih =>
      rw [List.map_cons, List.mapM_cons, ih]
      rfl
  rw [decode?, scan_encode, read, Option.map_some]

end Utf8

/-! ### JSON -/

namespace Json

/-- The characters that may stand between any two tokens. -/
def isBlank (c : Char) : Bool := c == ' ' || c == '\t' || c == '\n' || c == '\r'

def hexValue? (c : Char) : Option Nat :=
  if '0' ≤ c ∧ c ≤ '9' then some (c.toNat - '0'.toNat)
  else if 'a' ≤ c ∧ c ≤ 'f' then some (c.toNat - 'a'.toNat + 10)
  else if 'A' ≤ c ∧ c ≤ 'F' then some (c.toNat - 'A'.toNat + 10)
  else none

/-- The UTF-16 code unit that four digits denote. -/
def codeUnit? (a b c d : Char) : Option Nat := do
  return (((← hexValue? a) * 16 + (← hexValue? b)) * 16 + (← hexValue? c)) * 16 + (← hexValue? d)

/-- The character that a backslash and this one stand for. -/
def escaped? : Char → Option Char
  | '"' => some '"'
  | '\\' => some '\\'
  | '/' => some '/'
  | 'b' => some '\x08'
  | 'f' => some '\x0c'
  | 'n' => some '\n'
  | 'r' => some '\r'
  | 't' => some '\t'
  | _ => none

/-- The characters of a string up to the quote that ends it, and what follows.  After the first code
unit of a pair the second must come next, likewise as an escape. -/
def readChars (pair : Option Nat) : List Char → Option (List Char × List Char)
  | '\\' :: 'u' :: rest =>
    match rest with
    | a :: b :: c :: d :: rest => do
      let unit ← codeUnit? a b c d
      match pair with
      | some first =>
        if 0xDC00 ≤ unit ∧ unit < 0xE000 then
          let (cs, rest) ← readChars none rest
          return (Char.ofNat (0x10000 + (first - 0xD800) * 0x400 + (unit - 0xDC00)) :: cs, rest)
        else none
      | none =>
        if 0xD800 ≤ unit ∧ unit < 0xDC00 then readChars (some unit) rest
        else if 0xDC00 ≤ unit ∧ unit < 0xE000 then none
        else
          let (cs, rest) ← readChars none rest
          return (Char.ofNat unit :: cs, rest)
    | _ => none
  | '\\' :: c :: rest =>
    if pair.isSome then none
    else do
      let escaped ← escaped? c
      let (cs, rest) ← readChars none rest
      return (escaped :: cs, rest)
  | '"' :: rest => if pair.isSome then none else some ([], rest)
  | c :: rest =>
    if pair.isSome ∨ c.toNat < 0x20 ∨ c = '\\' then none
    else do
      let (cs, rest) ← readChars none rest
      return (c :: cs, rest)
  | [] => none

/-- A token at the start of a text, after blanks. -/
def readToken (token : Char) (cs : List Char) : Option (List Char) :=
  match cs.dropWhile isBlank with
  | c :: rest => if c = token then some rest else none
  | [] => none

/-- A string at the start of a text, after blanks. -/
def readString (cs : List Char) : Option (String × List Char) := do
  let (text, rest) ← readChars none (← readToken '"' cs)
  return (String.ofList text, rest)

/-- Name and text of the field of an object that has one field only, whose value is a string; nothing
but blanks may surround the object. -/
def readField? (cs : List Char) : Option (String × String) := do
  let (name, rest) ← readString (← readToken '\x7b' cs)
  let (text, rest) ← readString (← readToken ':' rest)
  let rest ← readToken '\x7d' rest
  if rest.all isBlank then some (name, text) else none

theorem codeUnit?_control :
    ∀ n < 0x20, codeUnit? '0' '0' (Nat.digitChar (n / 16)) (Nat.digitChar (n % 16)) = some n := by
  decide

theorem readChars_control {c : Char} (control : c.toNat < 0x20) (rest : List Char) :
    readChars none (['\\', 'u', '0', '0'] ++ hexPair c.toNat ++ rest) =
      (readChars none rest).map fun read => (c :: read.1, read.2) := by
  have unit := codeUnit?_control c.toNat control
  have same : Char.ofNat c.toNat = c := Char.ofNat_toNat c
  simp only [hexPair, List.cons_append, List.nil_append, readChars, unit, Option.bind_eq_bind,
    Option.bind_some]
  rw [if_neg (by omega), if_neg (by omega), same]
  cases readChars none rest <;> rfl

theorem readChars_escaped {letter c : Char} (known : escaped? letter = some c) (rest : List Char) :
    readChars none ('\\' :: letter :: rest) =
      (readChars none rest).map fun read => (c :: read.1, read.2) := by
  have other : letter ≠ 'u' := by
    rintro rfl
    cases known
  rw [readChars, known]
  · cases readChars none rest <;> rfl
  · exact other

theorem readChars_plain {c : Char} (visible : ¬c.toNat < 0x20) (quote : c ≠ '"')
    (backslash : c ≠ '\\') (rest : List Char) :
    readChars none (c :: rest) = (readChars none rest).map fun read => (c :: read.1, read.2) := by
  rw [readChars, if_neg (by simp [visible, backslash])]
  · cases readChars none rest <;> rfl
  · exact fun _ same _ => backslash same
  · exact fun _ _ same _ => backslash same
  · exact quote

/-- However a character is written, it is read; the cases are those of the writer. -/
theorem readChars_escapeChar (c : Char) (rest : List Char) :
    readChars none (escapeChar c ++ rest) =
      (readChars none rest).map fun read => (c :: read.1, read.2) := by
  rw [escapeChar.eq_def]
  split
  case h_8 quote backslash _ _ _ _ _ =>
    split
    · rename_i control
      exact readChars_control control rest
    · rename_i visible
      exact readChars_plain visible quote backslash rest
  all_goals exact readChars_escaped rfl rest

theorem readChars_escape (cs rest : List Char) :
    readChars none (escape cs ++ '"' :: rest) = some (cs, rest) := by
  induction cs with
  | nil => rfl
  | cons c cs ih =>
    rw [escape, List.flatMap_cons, List.append_assoc, readChars_escapeChar, ← escape, ih,
      Option.map_some]

/-- A token with which no blanks begin is read where it stands. -/
theorem readToken_cons {token : Char} (solid : isBlank token = false) (rest : List Char) :
    readToken token (token :: rest) = some rest := by
  rw [readToken, List.dropWhile_cons_of_neg (by simp [solid])]
  exact if_pos rfl

theorem readString_quote (s : String) (rest : List Char) :
    readString (quote s ++ rest) = some (s, rest) := by
  have token : readToken '"' (quote s ++ rest) = some (escape s.toList ++ '"' :: rest) := by
    rw [quote, List.cons_append, List.append_assoc]
    exact readToken_cons rfl _
  simp only [readString, token, Option.bind_eq_bind, Option.bind_some, readChars_escape,
    String.ofList_toList]
  rfl

/-- An object with one field is read back, whatever name and text have to be escaped. -/
theorem readField?_object (name text : String) :
    readField? (object [(name, .str text)]).chars = some (name, text) := by
  have written : (object [(name, .str text)]).chars =
      '\x7b' :: (quote name ++ ':' :: (quote text ++ ['\x7d'])) := by
    simp only [object, List.foldl_cons, List.foldl_nil, setField, chars, fieldChars,
      List.append_assoc, List.cons_append]
  rw [written]
  simp only [readField?, readToken_cons (show isBlank '\x7b' = false from rfl),
    readToken_cons (show isBlank ':' = false from rfl),
    readToken_cons (show isBlank '\x7d' = false from rfl), readString_quote, Option.bind_eq_bind,
    Option.bind_some, List.all_nil, if_true]

end Json

end RequestDispatch
