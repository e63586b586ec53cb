import Mathlib.Data.List.TakeWhile
import RequestDispatch.Text.Utf8
import RequestDispatch.Proofs.Routing.TemplateGrammar

/-!
# Templates read by byte offsets

A template is read byte by byte, with an offset behind the last segment and one for the byte at hand; a
parameter jumps to the next slash.  Here this reader is written out with every index and every cut that
can fail (`Template.scanBytes`).  None of them does, whatever text is read, and it reads the segments that
`Template.parse` gives.  With the grammar that is all there is to say of reading a template
(`Template.parse_recognizes`).
-/

namespace RequestDispatch

namespace Utf8

theorem length_encode (text : List Char) : (encode text).length = width text := by
  induction text with
  | nil => rfl
  | cons c text ih =>
    rw [encode, List.flatMap_cons, List.length_append, String.length_utf8EncodeChar, width]
    exact congrArg _ ih

theorem encode_append (front rest : List Char) :
    encode (front ++ rest) = encode front ++ encode rest :=
  List.flatMap_append

theorem toNat_toUInt8 {a : Char} (ascii : a.toNat < 0x80) : a.toUInt8.toNat = a.toNat := by
  rw [Char.toUInt8, UInt32.toNat_toUInt8]
  exact Nat.mod_eq_of_lt (Nat.lt_trans ascii (by decide))

theorem utf8EncodeChar_ascii {a : Char} (ascii : a.toNat < 0x80) :
    String.utf8EncodeChar a = [a.toUInt8] := by
  rw [String.utf8EncodeChar, if_pos (show a.val.toNat ≤ 127 from Nat.le_of_lt_succ ascii)]
  rfl

/-- A longer character has no byte of the ASCII range. -/
theorem high_of_mem_utf8EncodeChar {c : Char} {byte : UInt8} (long : 0x80 ≤ c.toNat)
    (mem : byte ∈ String.utf8EncodeChar c) : 0x80 ≤ byte.toNat := by
  have more : ¬ c.val.toNat ≤ 127 := Nat.not_le_of_lt long
  rw [String.utf8EncodeChar, if_neg more] at mem
  split at mem
  · simp only [List.mem_cons, List.not_mem_nil, or_false] at mem
    rcases mem with rfl | rfl <;> rw [UInt8.toNat_ofNat'] <;> omega
  split at mem
  · simp only [List.mem_cons, List.not_mem_nil, or_false] at mem
    rcases mem with rfl | rfl | rfl <;> rw [UInt8.toNat_ofNat'] <;> omega
  · simp only [List.mem_cons, List.not_mem_nil, or_false] at mem
    rcases mem with rfl | rfl | rfl | rfl <;> rw [UInt8.toNat_ofNat'] <;> omega

/-- An ASCII character is told from all others by any of their bytes. -/
theorem eq_toUInt8_iff {a c : Char} {byte : UInt8} (ascii : a.toNat < 0x80)
    (mem : byte ∈ String.utf8EncodeChar c) : byte = a.toUInt8 ↔ c = a := by
  by_cases short : c.toNat < 0x80
  · rw [utf8EncodeChar_ascii short, List.mem_singleton] at mem
    rw [mem, ← UInt8.toNat_inj, toNat_toUInt8 short, toNat_toUInt8 ascii, Char.toNat_inj]
  · constructor
    · rintro rfl
      have high := high_of_mem_utf8EncodeChar (Nat.le_of_not_lt short) mem
      rw [toNat_toUInt8 ascii] at high
      exact absurd ascii (Nat.not_lt_of_le high)
    · rintro rfl
      exact absurd ascii short

theorem getElem?_encode (front rest : List Char) (offset : Nat) :
    (encode (front ++ rest))[width front + offset]? = (encode rest)[offset]? := by
  rw [encode_append, ← length_encode, List.getElem?_append_right (Nat.le_add_right _ _),
    Nat.add_sub_cancel_left]

theorem width_lt_append_cons (front : List Char) (c : Char) (rest : List Char) :
    width front < width (front ++ c :: rest) := by
  have pos := c.utf8Size_pos
  rw [width_append, width]
  omega

/-- The text behind a character of one byte. -/
theorem slice?_behind (front : List Char) {c : Char} (one : c.utf8Size = 1) (middle rest : List Char) :
    slice? ⟨width front + 1, width (front ++ c :: middle)⟩ (front ++ c :: (middle ++ rest)) =
      some middle := by
  have start : width (front ++ [c]) = width front + 1 := by
    rw [width_append, width, width, one]
  have cut := slice?_width (front ++ [c]) middle rest
  rw [← width_append, start, List.append_assoc, List.append_assoc] at cut
  exact cut

/-- The text from an offset between two characters to the end. -/
theorem slice?_rest (front rest : List Char) :
    slice? ⟨width front, width (front ++ rest)⟩ (front ++ rest) = some rest := by
  have cut := slice?_width front rest []
  rwa [List.append_nil, ← width_append] at cut

end Utf8

namespace Routing.Template

/-- Where the reader stands: the offset of the byte at hand, the offset behind the last segment, and the
segments so far. -/
structure Cursor where
  here : Nat
  start : Nat
  segments : List Segment

/-- The segments with the literal text that has been passed since the last one. -/
def Cursor.collected? (cursor : Cursor) (text : List Char) : Option (List Segment) :=
  if cursor.start < cursor.here then
    (Utf8.slice? ⟨cursor.start, cursor.here⟩ text).map (cursor.segments ++ [.literal ·])
  else some cursor.segments

/-- Whether the byte at an offset is a colon right after a slash.  Only for a colon is the byte before it
looked at. -/
def opensParam? (bytes : Bytes) (here : Nat) : Option Bool :=
  (bytes[here]?).bind fun byte =>
    if byte ≠ ':'.toUInt8 then some false
    else if here = 0 then none
    else (bytes[here - 1]?).map (· == '/'.toUInt8)

/-- The offset of the first slash at or after an offset, or else the end. -/
def slashFrom? (text : List Char) (here : Nat) : Option Nat :=
  (Utf8.slice? ⟨here, Utf8.width text⟩ text).map fun rest =>
    if '/' ∈ rest then here + Utf8.width (rest.takeWhile (· ≠ '/')) else Utf8.width text

/-- What the byte at hand comes to. -/
inductive Turn where
  | goesOn (cursor : Cursor)
  | ended (result : Except TemplateFault (List Segment))

/-- Reads the byte at hand; `none` where an offset lies outside the text or inside a character. -/
def turn? (text : List Char) (cursor : Cursor) : Option Turn := do
  let byte ← (Utf8.encode text)[cursor.here]?
  if ← opensParam? (Utf8.encode text) cursor.here then
    let segments ← cursor.collected? text
    let stop ← slashFrom? text cursor.here
    let name ← Utf8.slice? ⟨cursor.here + 1, stop⟩ text
    match param name with
    | .error fault => some (.ended (.error fault))
    | .ok segment => some (.goesOn ⟨stop, stop, segments ++ [segment]⟩)
  else if byte = '*'.toUInt8 then
    let segments ← cursor.collected? text
    let name ← Utf8.slice? ⟨cursor.here + 1, Utf8.width text⟩ text
    some (.ended ((catchAll name).map fun segment => segments ++ [segment]))
  else some (.goesOn { cursor with here := cursor.here + 1 })

/-- Reads up to the end of the text, in as many turns as are allowed. -/
def turns? (text : List Char) : Nat → Cursor → Option (Except TemplateFault (List Segment))
  | 0, _ => none
  | allowed + 1, cursor =>
    if cursor.here < Utf8.width text then
      (turn? text cursor).bind fun
        | .goesOn next => turns? text allowed next
        | .ended result => some result
    else (Cursor.collected? { cursor with here := Utf8.width text } text).map .ok

/-- The segments of a template, or what is wrong with it; `none` where reading it goes out of bounds or
does not end. -/
def scanChars? (text : List Char) : Option (Except TemplateFault (List Segment)) :=
  if text.head? ≠ some '/' then some (.error .noLeadingSlash)
  else if 1 < Utf8.width text ∧ text.getLast? = some '/' then some (.error .trailingSlash)
  else if hasEmptySegment text then some (.error .emptySegment)
  else turns? text (Utf8.width text + 1) ⟨0, 0, []⟩

/-! ### What a turn does -/

theorem collected?_eq (front read rest : List Char) (segments : List Segment) :
    Cursor.collected? ⟨Utf8.width (front ++ read), Utf8.width front, segments⟩ (front ++ read ++ rest) =
      some (segments ++ literal read) := by
  have grown := Utf8.width_append front read
  cases read with
  | nil => simp [Cursor.collected?, literal]
  | cons c read =>
    rw [Cursor.collected?, if_pos (Utf8.width_lt_append_cons front c read), grown, List.append_assoc, Utf8.slice?_width]
    rfl

/-- Any text is a piece without slashes, and what is left begins with one. -/
theorem exists_piece (text : List Char) :
    ∃ piece left, text = piece ++ left ∧ '/' ∉ piece ∧ ∀ c, left.head? = some c → c = '/' := by
  by_cases slash : '/' ∈ text
  · obtain ⟨piece, left, rfl, whole⟩ := List.eq_append_cons_of_mem slash
    exact ⟨piece, '/' :: left, rfl, whole, fun c first => (Option.some.inj first).symm⟩
  · exact ⟨text, [], (List.append_nil text).symm, slash, nofun⟩

/-- The next slash is found where the piece ends. -/
theorem slashFrom?_eq (front : List Char) {piece left : List Char} (whole : '/' ∉ piece)
    (ends : ∀ c, left.head? = some c → c = '/') :
    slashFrom? (front ++ (piece ++ left)) (Utf8.width front) = some (Utf8.width (front ++ piece)) := by
  rw [slashFrom?, Utf8.slice?_rest, Option.map_some, (cut_at_slash whole ends).1]
  cases left with
  | nil => rw [List.append_nil, if_neg whole]
  | cons c left =>
    obtain rfl := ends c rfl
    rw [if_pos (List.mem_append_right _ List.mem_cons_self), Utf8.width_append]

/-- The first byte of a character. -/
theorem exists_first_byte (front : List Char) (c : Char) (rest : List Char) :
    ∃ byte ∈ String.utf8EncodeChar c, (Utf8.encode (front ++ c :: rest))[Utf8.width front]? = some byte := by
  have pos : 0 < (String.utf8EncodeChar c).length := by
    rw [String.length_utf8EncodeChar]
    exact c.utf8Size_pos
  refine ⟨_, List.getElem_mem pos, ?_⟩
  rw [← Nat.add_zero (Utf8.width front), Utf8.getElem?_encode, Utf8.encode, List.flatMap_cons,
    List.getElem?_append_left pos, List.getElem?_eq_getElem pos]

/-- The byte before an offset is the last one of a character. -/
theorem exists_byte_before (front : List Char) (c : Char) (rest : List Char) :
    ∃ byte ∈ String.utf8EncodeChar c,
      (Utf8.encode (front ++ [c] ++ rest))[Utf8.width (front ++ [c]) - 1]? = some byte := by
  have pos := c.utf8Size_pos
  have last : c.utf8Size - 1 < (String.utf8EncodeChar c).length := by
    rw [String.length_utf8EncodeChar]
    omega
  have offset : Utf8.width (front ++ [c]) - 1 = Utf8.width front + (c.utf8Size - 1) := by
    rw [Utf8.width_append, Utf8.width, Utf8.width]
    omega
  refine ⟨_, List.getElem_mem last, ?_⟩
  rw [offset, List.append_assoc, Utf8.getElem?_encode, List.singleton_append, Utf8.encode,
    List.flatMap_cons, List.getElem?_append_left last, List.getElem?_eq_getElem last]

/-- A colon right after a slash is found by its byte and by the one before it. -/
theorem opensParam?_eq {front : List Char} {c : Char} (rest : List Char) (begun : front = [] → c ≠ ':') :
    opensParam? (Utf8.encode (front ++ c :: rest)) (Utf8.width front) =
      some (decide (c = ':' ∧ front.getLast? = some '/')) := by
  obtain ⟨byte, mem, here⟩ := exists_first_byte front c rest
  have isColon := Utf8.eq_toUInt8_iff (a := ':') (by decide) mem
  rw [opensParam?, here, Option.bind_some]
  by_cases colon : c = ':'
  · obtain ⟨init, d, rfl⟩ : ∃ init d, front = init ++ [d] :=
      (List.eq_nil_or_concat' front).resolve_left fun none => begun none colon
    obtain ⟨previous, own, before⟩ := exists_byte_before init d (c :: rest)
    have isSlash := Utf8.eq_toUInt8_iff (a := '/') (by decide) own
    have moved : Utf8.width (init ++ [d]) ≠ 0 :=
      Nat.ne_of_gt (Nat.lt_of_le_of_lt (Nat.zero_le _) (Utf8.width_lt_append_cons init d []))
    rw [if_neg (not_not.mpr (isColon.mpr colon)), if_neg moved, before, Option.map_some]
    simp [colon, isSlash, beq_eq_decide]
  · rw [if_pos (mt isColon.mp colon)]
    simp [colon]

theorem turn?_goesOn {text : List Char} {cursor : Cursor} {byte : UInt8}
    (here : (Utf8.encode text)[cursor.here]? = some byte)
    (closed : opensParam? (Utf8.encode text) cursor.here = some false) (star : byte ≠ '*'.toUInt8) :
    turn? text cursor = some (.goesOn { cursor with here := cursor.here + 1 }) := by
  simp [turn?, here, closed, star]

/-- Bytes that open nothing are passed one by one. -/
theorem turns?_pass {text : List Char} (before passed after : Bytes)
    (whole : Utf8.encode text = before ++ (passed ++ after))
    (colon : ':'.toUInt8 ∉ passed) (star : '*'.toUInt8 ∉ passed) (allowed start : Nat)
    (segments : List Segment) :
    turns? text (allowed + passed.length) ⟨before.length, start, segments⟩ =
      turns? text allowed ⟨before.length + passed.length, start, segments⟩ := by
  induction passed generalizing before with
  | nil => rfl
  | cons byte passed ih =>
    rw [List.mem_cons, not_or] at colon star
    have here : (Utf8.encode text)[before.length]? = some byte := by
      rw [whole]
      simp
    have closed : opensParam? (Utf8.encode text) before.length = some false := by
      rw [opensParam?, here, Option.bind_some, if_pos (Ne.symm colon.1)]
    have inside : before.length < Utf8.width text := by
      rw [← Utf8.length_encode, whole]
      simp
    have next := ih (before ++ [byte]) (by simpa using whole) colon.2 star.2
    rw [List.length_append, List.length_singleton] at next
    rw [List.length_cons, ← Nat.add_assoc, turns?, if_pos inside,
      turn?_goesOn here closed (Ne.symm star.1), Option.bind_some]
    exact Eq.trans next (by rw [Nat.add_assoc, Nat.add_comm 1])

/-- A character that opens nothing is passed in as many turns as it has bytes. -/
theorem turns?_pass_char {front : List Char} {c : Char} (rest : List Char) (begun : front = [] → c ≠ ':')
    (opens : ¬ (c = ':' ∧ front.getLast? = some '/')) (star : c ≠ '*') (allowed start : Nat)
    (segments : List Segment) :
    turns? (front ++ c :: rest) (allowed + c.utf8Size) ⟨Utf8.width front, start, segments⟩ =
      turns? (front ++ c :: rest) allowed ⟨Utf8.width (front ++ [c]), start, segments⟩ := by
  have grown : Utf8.width (front ++ [c]) = Utf8.width front + c.utf8Size := by
    rw [Utf8.width_append, Utf8.width, Utf8.width, Nat.add_zero]
  by_cases colon : c = ':'
  · -- A colon that opens nothing is one byte, and the byte before it has been looked at.
    have closed := opensParam?_eq rest begun
    rw [decide_eq_false opens] at closed
    obtain ⟨byte, mem, here⟩ := exists_first_byte front c rest
    have other : byte ≠ '*'.toUInt8 := mt (Utf8.eq_toUInt8_iff (by decide) mem).mp star
    have inside := Utf8.width_lt_append_cons front c rest
    have turn : turn? (front ++ c :: rest) ⟨Utf8.width front, start, segments⟩ =
        some (.goesOn ⟨Utf8.width front + 1, start, segments⟩) := turn?_goesOn here closed other
    have one : c.utf8Size = 1 := colon ▸ rfl
    rw [grown, one, turns?, if_pos inside, turn, Option.bind_some]
  · have pass := turns?_pass (Utf8.encode front) (String.utf8EncodeChar c)
      (Utf8.encode rest) (Utf8.encode_append front (c :: rest))
      (fun mem => colon ((Utf8.eq_toUInt8_iff (by decide) mem).mp rfl))
      (fun mem => star ((Utf8.eq_toUInt8_iff (by decide) mem).mp rfl)) allowed start segments
    rw [Utf8.length_encode, String.length_utf8EncodeChar] at pass
    rw [grown, pass]

/-- A further character of literal text is passed. -/
theorem turns?_literal {front read : List Char} {c : Char} {rest : List Char}
    (begun : read = [] → c = '/') (opens : ¬ (c = ':' ∧ read.getLast? = some '/')) (star : c ≠ '*')
    (allowed start : Nat) (segments : List Segment) :
    turns? (front ++ read ++ c :: rest) (allowed + c.utf8Size)
        ⟨Utf8.width (front ++ read), start, segments⟩ =
      turns? (front ++ read ++ c :: rest) allowed
        ⟨Utf8.width (front ++ (read ++ [c])), start, segments⟩ := by
  have started (colon : c = ':') : read ≠ [] := fun none => by
    rw [begun none] at colon
    exact absurd colon (by decide)
  have closed : ¬ (c = ':' ∧ (front ++ read).getLast? = some '/') := by
    rintro ⟨colon, slash⟩
    rw [List.getLast?_append_of_ne_nil _ (started colon)] at slash
    exact opens ⟨colon, slash⟩
  rw [← List.append_assoc front]
  exact turns?_pass_char rest (fun none colon => started colon (List.append_eq_nil_iff.mp none).2)
    closed star allowed start segments

/-- A parameter takes its name up to the next slash. -/
theorem split_param (read : List Char) {name left : List Char} (whole : '/' ∉ name)
    (ends : ∀ c, left.head? = some c → c = '/') :
    split (.param read) (name ++ left) = (param (read ++ name)).bind fun segment =>
      (split (.literal []) left).map (segment :: ·) := by
  induction name generalizing read with
  | nil =>
    rw [List.nil_append, List.append_nil]
    cases left with
    | nil =>
      rw [split, split]
      cases param read <;> rfl
    | cons c left =>
      obtain rfl := ends c rfl
      rw [split_slash, split, if_pos rfl]
  | cons c name ih =>
    rw [List.mem_cons, not_or] at whole
    rw [List.cons_append, split, if_neg (Ne.symm whole.1), ih _ whole.2, List.append_assoc,
      List.singleton_append]

/-! ### The run of the reader -/

/-- At a colon behind a slash a parameter is read, up to the next slash. -/
theorem turn?_param {front read name left : List Char} (slash : (front ++ read).getLast? = some '/')
    (whole : '/' ∉ name) (ends : ∀ c, left.head? = some c → c = '/') (segments : List Segment) :
    turn? (front ++ read ++ ':' :: (name ++ left))
        ⟨Utf8.width (front ++ read), Utf8.width front, segments⟩ =
      some (match param name with
        | .error fault => .ended (.error fault)
        | .ok segment =>
          let stop := Utf8.width (front ++ read ++ ':' :: name)
          .goesOn ⟨stop, stop, segments ++ literal read ++ [segment]⟩) := by
  have begun : front ++ read = [] → ':' ≠ ':' := by
    intro none
    rw [none] at slash
    cases slash
  obtain ⟨byte, -, here⟩ := exists_first_byte (front ++ read) ':' (name ++ left)
  have opens := opensParam?_eq (name ++ left) begun
  rw [decide_eq_true ⟨rfl, slash⟩] at opens
  have collected := collected?_eq front read (':' :: (name ++ left)) segments
  have clear : '/' ∉ ':' :: name := by simpa using whole
  have stop := slashFrom?_eq (front ++ read) clear ends
  rw [List.cons_append] at stop
  have named := Utf8.slice?_behind (front ++ read) (c := ':') rfl name left
  simp only [turn?, here, opens, collected, stop, named, Option.bind_eq_bind, Option.bind_some, if_true]
  split <;> rfl

/-- At an asterisk the rest of the text is the name of the catch-all. -/
theorem turn?_catchAll {front read rest : List Char} (segments : List Segment) :
    turn? (front ++ read ++ '*' :: rest) ⟨Utf8.width (front ++ read), Utf8.width front, segments⟩ =
      some (.ended ((catchAll rest).map fun segment => segments ++ literal read ++ [segment])) := by
  obtain ⟨byte, mem, here⟩ := exists_first_byte (front ++ read) '*' rest
  have star : byte = '*'.toUInt8 := (Utf8.eq_toUInt8_iff (by decide) mem).mpr rfl
  have opens : opensParam? (Utf8.encode (front ++ read ++ '*' :: rest)) (Utf8.width (front ++ read)) =
      some false := opensParam?_eq rest fun _ => by decide
  have collected := collected?_eq front read ('*' :: rest) segments
  have name := Utf8.slice?_behind (front ++ read) (c := '*') rfl rest []
  rw [List.append_nil] at name
  simp only [turn?, here, opens, collected, star, name, Option.bind_eq_bind, Option.bind_some, if_true,
    Bool.false_eq_true, if_false]

/-- With as many turns as bytes are left and one more, the reader gives what the parser makes of the rest.
Where no literal text is being read, a slash is next. -/
theorem turns?_eq (front read rest : List Char) (allowed : Nat) (segments : List Segment)
    (enough : Utf8.width rest < allowed) (begun : read = [] → ∀ c, rest.head? = some c → c = '/') :
    turns? (front ++ read ++ rest) allowed ⟨Utf8.width (front ++ read), Utf8.width front, segments⟩ =
      some ((split (.literal read) rest).map (segments ++ ·)) := by
  induction size : rest.length using Nat.strong_induction_on
    generalizing front read rest allowed segments with
  | _ n ih =>
    obtain ⟨allowed, rfl⟩ : ∃ fewer, allowed = fewer + 1 := ⟨allowed - 1, by omega⟩
    cases rest with
    | nil =>
      have done : ¬ Utf8.width (front ++ read) < Utf8.width (front ++ read) := Nat.lt_irrefl _
      have collected := collected?_eq front read [] segments
      rw [List.append_nil] at collected ⊢
      rw [turns?, if_neg done, collected]
      rfl
    | cons c rest =>
      have inside := Utf8.width_lt_append_cons (front ++ read) c rest
      rw [split]
      split
      · rename_i opens
        obtain ⟨rfl, slash⟩ := opens
        have behind : (front ++ read).getLast? = some '/' := by simp [slash]
        obtain ⟨name, left, rfl, whole, ends⟩ := exists_piece rest
        rw [turns?, if_pos inside, turn?_param behind whole ends, Option.bind_some,
          split_param [] whole ends, List.nil_append]
        cases param name with
        | error fault => rfl
        | ok segment =>
          have further : Utf8.width left < allowed := by
            rw [Utf8.width, Utf8.width_append] at enough
            have pos := (':').utf8Size_pos
            omega
          have shorter : left.length < n := by
            rw [← size, List.length_cons, List.length_append]
            omega
          have next := ih left.length shorter (front ++ read ++ ':' :: name) [] left allowed
            (segments ++ literal read ++ [segment]) further (fun _ => ends) rfl
          simp only [List.append_nil, List.append_assoc, List.cons_append] at next ⊢
          rw [next]
          cases split (.literal []) left with
          | error fault => rfl
          | ok more => simp [Except.map, Except.bind]
      split
      · rename_i opens star
        subst star
        rw [turns?, if_pos inside, turn?_catchAll, Option.bind_some]
        cases catchAll rest with
        | error fault => rfl
        | ok segment => simp [Except.map]
      · rename_i opens star
        have shorter : rest.length < n := by
          rw [← size, List.length_cons]
          exact Nat.lt_succ_self _
        obtain ⟨fewer, turns⟩ : ∃ fewer, allowed + 1 = fewer + c.utf8Size :=
          ⟨allowed + 1 - c.utf8Size, by rw [Utf8.width] at enough; omega⟩
        have next := ih rest.length shorter front (read ++ [c]) rest fewer segments
          (by rw [Utf8.width] at enough; omega) (fun none => absurd none (by simp)) rfl
        rw [turns, turns?_literal (fun none => begun none c rfl) opens star]
        simp only [List.append_assoc, List.singleton_append] at next ⊢
        exact next

/-! ### Templates -/

theorem one_lt_width_slash_iff (rest : List Char) :
    1 < Utf8.width ('/' :: rest) ↔ 1 < ('/' :: rest).length := by
  have slash : ('/').utf8Size = 1 := rfl
  rw [Utf8.width, slash, List.length_cons]
  cases rest with
  | nil => simp [Utf8.width]
  | cons c rest =>
    have pos := c.utf8Size_pos
    rw [Utf8.width, List.length_cons]
    omega

/-- Reading a template never goes out of bounds, and it gives what the parser gives. -/
theorem scanChars?_eq (text : List Char) : scanChars? text = some (parseChars text) := by
  rw [scanChars?, parseChars]
  split
  · rfl
  · rename_i first
    obtain ⟨rest, rfl⟩ := List.head?_eq_some_iff.mp (not_not.mp first)
    simp only [one_lt_width_slash_iff]
    split
    · rfl
    · split
      · rfl
      · have run := turns?_eq [] [] ('/' :: rest) _ [] (Nat.lt_succ_self _)
          (fun _ c first => (Option.some.inj first).symm)
        rw [List.nil_append, List.nil_append] at run
        exact run.trans (by cases split (.literal []) ('/' :: rest) <;> rfl)

/-- The segments of a template, read by byte offsets. -/
def scan? (template : String) : Option (Except RouteError (List Segment)) :=
  (scanChars? template.toList).map (·.mapError (TemplateFault.toError template))

/-- Reading never goes out of bounds and succeeds on the grammar only.  The segments that are read are
written as the template, and they follow each other as the search relies on. -/
theorem parse_recognizes (template : String) :
    scan? template = some (parse template) ∧
      match parse template with
      | .ok segments => Grammar template.toList ∧ write segments = template.toList ∧ Arranged segments
      | .error _ => ¬ Grammar template.toList := by
  refine ⟨by rw [scan?, scanChars?_eq, Option.map_some, parse], ?_⟩
  rw [parse]
  cases outcome : parseChars template.toList with
  | ok segments =>
    exact ⟨(exists_parseChars_iff _).mp ⟨segments, outcome⟩, write_of_parseChars outcome,
      arranged_of_parseChars outcome⟩
  | error fault =>
    intro grammar
    obtain ⟨segments, accepted⟩ := (exists_parseChars_iff _).mpr grammar
    rw [outcome] at accepted
    cases accepted

end Routing.Template
end RequestDispatch
