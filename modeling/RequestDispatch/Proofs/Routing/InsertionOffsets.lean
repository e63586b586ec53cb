import RequestDispatch.Proofs.Routing.Splits
import RequestDispatch.Proofs.Routing.Refusals

/-!
# Byte offsets at which insertion cuts

A label is compared with a text character by character, and the place where they part is told as a byte
offset, at which both are then sliced.  A slice is only possible between two characters
(`Utf8.take?`, `Utf8.drop?`), so a walk that slices may fail.  `Tree.insertAtOffsets?` is that walk; it
never fails, and it inserts what `Tree.insert` inserts (`cuts_between_characters`).
-/

namespace RequestDispatch.Routing

variable {α : Type}

/-- The characters of a text, each with the byte offset at which it begins. -/
def offsets (start : Nat) : List Char → List (Nat × Char)
  | [] => []
  | c :: cs => (start, c) :: offsets (start + c.utf8Size) cs

/-- The byte offset up to which two texts agree: that of the first character which differs from the one at
its place in the other text, or the smaller number of bytes if there is none. -/
def commonOffset (a b : List Char) : Nat :=
  match ((offsets 0 a).zip b).find? fun pair => pair.1.2 ≠ pair.2 with
  | some ((offset, _), _) => offset
  | none => min (Utf8.width a) (Utf8.width b)

/-- No two characters differ in what the texts have in common. -/
theorem find?_offsets_append (common a b : List Char) (start : Nat) :
    ((offsets start (common ++ a)).zip (common ++ b)).find? (fun pair => pair.1.2 ≠ pair.2) =
      ((offsets (start + Utf8.width common) a).zip b).find? fun pair => pair.1.2 ≠ pair.2 := by
  induction common generalizing start with
  | nil => rfl
  | cons c common ih =>
    rw [Utf8.width, ← Nat.add_assoc, ← ih]
    simp [offsets]

/-- The rests of two texts do not begin alike. -/
theorem commonPart_apart (a b : List Char) :
    (commonPart a b).2.1 = [] ∨ (commonPart a b).2.2 = [] ∨
      BeginApart (commonPart a b).2.2 (commonPart a b).2.1 := by
  have heads := commonPart_heads a b
  generalize (commonPart a b).2.1 = left at heads ⊢
  generalize (commonPart a b).2.2 = right at heads ⊢
  cases left with
  | nil => exact .inl rfl
  | cons c left =>
    cases right with
    | nil => exact .inr (.inl rfl)
    | cons d right =>
      refine .inr (.inr ⟨d, c, rfl, rfl, ?_⟩)
      rintro rfl
      exact heads d rfl rfl

theorem commonOffset_eq (a b : List Char) : commonOffset a b = Utf8.width (commonPart a b).1 := by
  have left := commonPart_left a b
  have right := commonPart_right a b
  have apart := commonPart_apart a b
  generalize commonPart a b = parts at left right apart ⊢
  obtain ⟨common, x, y⟩ := parts
  simp only at left right apart ⊢
  subst left right
  rw [commonOffset, find?_offsets_append, Utf8.width_append, Utf8.width_append]
  rcases apart with rfl | rfl | ⟨d, c, begins, other, different⟩
  · simp [offsets, Utf8.width]
  · simp [Utf8.width]
  · obtain ⟨x, rfl⟩ := List.head?_eq_some_iff.mp other
    obtain ⟨y, rfl⟩ := List.head?_eq_some_iff.mp begins
    simp [offsets, different.symm]

/-- What begins both texts begins their common part. -/
theorem prefix_commonPart {front a b : List Char} (inA : front <+: a) (inB : front <+: b) :
    front <+: (commonPart a b).1 := by
  obtain ⟨x, rfl⟩ := inA
  obtain ⟨y, rfl⟩ := inB
  induction front with
  | nil => exact List.nil_prefix
  | cons c front ih =>
    simp only [List.cons_append, commonPart, if_true]
    exact List.cons_prefix_cons.mpr ⟨rfl, ih⟩

/-- The branch cut at a byte offset, if that is before the end of its label. -/
def LiteralBranch.cutAt? (offset : Nat) (b : LiteralBranch α) : Option (LiteralBranch α) :=
  if offset < Utf8.width b.label then b.splitAt? offset else some b

/-- Registers at this point, or leaves it to a walk through the branches below that may fail. -/
def Node.placeAtOffsets? (m : Method) (a : α) (node : Node α) (tokens : List Token)
    (deeper : Option (Except α (Tree α))) : Option (Except α (Node α)) :=
  match tokens with
  | .char _ :: _ | .param :: _ => deeper.map (Except.map fun below => ⟨node.stop, below⟩)
  | tokens => some (insert m a node tokens)

theorem drop?_commonOffset (label text : List Char) :
    Utf8.drop? (commonOffset label text) text = some (commonPart label text).2.2 := by
  have whole := Utf8.drop?_width (commonPart label text).1 (commonPart label text).2.2
  rwa [commonPart_right, ← commonOffset_eq] at whole

theorem commonPart_of_head? {label text : List Char} {c : Char} (begins : label.head? = some c)
    (alike : text.head? = some c) :
    ∃ common back front, commonPart label text = (c :: common, back, front) := by
  obtain ⟨label, rfl⟩ := List.head?_eq_some_iff.mp begins
  obtain ⟨text, rfl⟩ := List.head?_eq_some_iff.mp alike
  rw [commonPart, if_pos rfl]
  exact ⟨_, _, _, rfl⟩

/-- Tokens that begin as a label does are fewer at the offset up to which they agree with it. -/
theorem length_lt_of_sliced {label left : List Char} {c : Char} {tokens : List Token}
    (begins : label.head? = some c) (alike : (leadingChars tokens).head? = some c)
    (sliced : Utf8.drop? (commonOffset label (leadingChars tokens)) (leadingChars tokens) = some left) :
    (left.map Token.char ++ tokens.drop (leadingChars tokens).length).length < tokens.length := by
  obtain ⟨common, back, front, parted⟩ := commonPart_of_head? begins alike
  rw [drop?_commonOffset, parted] at sliced
  cases sliced
  rw [Tree.drop_commonPart parted]
  exact length_drop_lt_of_cut parted

/-- Insertion that compares labels by byte offset and slices there.  Where no label is left to compare with
nothing is sliced. -/
def Tree.insertAtOffsets? (m : Method) (a : α) (tree : Tree α) (tokens : List Token) :
    Option (Except α (Tree α)) :=
  match tree, tokens with
  | .leaf, tokens => some (insert m a .leaf tokens)
  | .param stop below, .param :: rest =>
    (Node.placeAtOffsets? m a ⟨stop, below⟩ rest (insertAtOffsets? m a below rest)).map
      (Except.map fun node => .param node.stop node.below)
  | .param stop below, tokens => some (insert m a (.param stop below) tokens)
  | .literal label stop below siblings, .char c :: rest =>
    if _begins : label.head? = some c then
      let text := leadingChars (.char c :: rest)
      let offset := commonOffset label text
      match LiteralBranch.cutAt? offset ⟨label, ⟨stop, below⟩⟩ with
      | none => none
      | some b =>
        match _sliced : Utf8.drop? offset text with
        | none => none
        | some left =>
          let further := left.map .char ++ (Token.char c :: rest).drop text.length
          (Node.placeAtOffsets? m a b.node further (insertAtOffsets? m a b.node.below further)).map
            (Except.map fun node => .literal b.label node.stop node.below siblings)
    else
      (insertAtOffsets? m a siblings (.char c :: rest)).map
        (Except.map fun siblings => .literal label stop below siblings)
  | .literal label stop below siblings, tokens =>
    (insertAtOffsets? m a siblings tokens).map
      (Except.map fun siblings => .literal label stop below siblings)
termination_by (tokens.length, sizeOf tree)
decreasing_by
  · exact Prod.Lex.left _ _ (Nat.lt_succ_self _)
  · exact Prod.Lex.left _ _ (length_lt_of_sliced _begins rfl _sliced)
  · exact Prod.Lex.right _ (by decreasing_tactic)
  · exact Prod.Lex.right _ (by decreasing_tactic)

variable {m : Method} {a : α}

/-- If the walk through the branches comes to what `deeper` makes of them, so does the walk from the point
above them. -/
theorem Node.placeAtOffsets?_eq {node : Node α} {tokens : List Token} {walk : Option (Except α (Tree α))}
    (deeper : List Token → Except α (Tree α)) (inner : GoesOn tokens → walk = some (deeper tokens)) :
    placeAtOffsets? m a node tokens walk = some (place m a node tokens deeper) := by
  cases tokens with
  | nil => rfl
  | cons token rest =>
    cases token with
    | catchAll => rfl
    | char c =>
      rw [inner (goesOn_char c rest)]
      rfl
    | param =>
      rw [inner (goesOn_param rest)]
      rfl

/-- Where a label and a text begin alike the label is cut at the end of their common part, if it goes on. -/
theorem LiteralBranch.cutAt?_commonOffset (label text : List Char) (node : Node α) :
    cutAt? (commonOffset label text) ⟨label, node⟩ =
      some ⟨(commonPart label text).1, .cut (commonPart label text).2.1 node⟩ := by
  have whole := commonPart_left label text
  rw [commonOffset_eq]
  generalize (commonPart label text).1 = common at whole ⊢
  generalize (commonPart label text).2.1 = back at whole ⊢
  subst whole
  cases back with
  | nil => simp [cutAt?, Node.cut]
  | cons c back =>
    have shorter : Utf8.width common < Utf8.width (common ++ c :: back) := by
      have wide := c.utf8Size_pos
      rw [Utf8.width_append, Utf8.width]
      omega
    rw [cutAt?, if_pos shorter, splitAt?_width]
    rfl

theorem commonPart_eq_nil {a b : List Char} (apart : ∀ c, b.head? = some c → a.head? ≠ some c) :
    (commonPart a b).1 = [] := by
  fun_cases commonPart a b with
  | case1 as c bs common restA restB eq => exact absurd rfl (apart c rfl)
  | case2 => rfl
  | case3 => rfl

namespace Tree

/-- The walk never fails, and inserts what `insert` inserts.  By induction along the walk: wherever it slices,
both slices are those between the common part and the rests. -/
theorem insertAtOffsets?_eq (tree : Tree α) (tokens : List Token) :
    insertAtOffsets? m a tree tokens = some (insert m a tree tokens) := by
  fun_induction insertAtOffsets? m a tree tokens with
  | case1 tokens => rfl
  | case2 stop below rest ih =>
    rw [Node.placeAtOffsets?_eq (insert m a below) fun _ => ih]
    rfl
  | case3 stop below tokens other => rfl
  | case4 label stop below siblings c rest begins text offset uncut =>
    rw [LiteralBranch.cutAt?_commonOffset] at uncut
    cases uncut
  | case5 label stop below siblings c rest begins text offset b cut unsliced =>
    rw [drop?_commonOffset] at unsliced
    cases unsliced
  | case6 label stop below siblings c rest begins text offset b cut left sliced further ih =>
    rw [LiteralBranch.cutAt?_commonOffset] at cut
    rw [drop?_commonOffset] at sliced
    have alike : text.head? = some c := rfl
    obtain ⟨common, back, front, parted⟩ := commonPart_of_head? begins alike
    rw [parted] at cut sliced
    cases cut
    cases sliced
    have onward : further = _ := drop_commonPart parted
    rw [Node.placeAtOffsets?_eq (insert m a _) fun _ => ih, insert_cut parted, onward]
    rfl
  | case7 label stop below siblings c rest other ih =>
    have apart : (commonPart label (leadingChars (.char c :: rest))).1 = [] := by
      refine commonPart_eq_nil fun d begins same => ?_
      cases begins
      exact other same
    rw [ih, insert_past apart]
    rfl
  | case8 label stop below siblings tokens notChar ih =>
    have none : leadingChars tokens = [] := by
      fun_cases leadingChars tokens with
      | case1 c rest => exact (notChar c rest rfl).elim
      | case2 => rfl
    have apart : (commonPart label (leadingChars tokens)).1 = [] :=
      commonPart_eq_nil (by simp [none])
    rw [ih, insert_past apart]
    rfl

end Tree

/-- Insertion at a point, with labels compared by byte offset and sliced there. -/
def Node.insertAtOffsets? (m : Method) (a : α) (node : Node α) (tokens : List Token) :
    Option (Except α (Node α)) :=
  placeAtOffsets? m a node tokens (Tree.insertAtOffsets? m a node.below tokens)

/-- The offset at which two texts part lies between two characters of both.  They agree up to it and on no
longer text, and what is left of them does not begin alike.  Hence a label can be cut there and the other text
sliced, and an insertion that does so wherever it comes to a label never fails: it does what `insert` does. -/
theorem cuts_between_characters (α : Type) :
    (∀ label text : List Char, ∃ common back left : List Char,
      let offset := commonOffset label text
      (Utf8.take? offset label = some common ∧ Utf8.drop? offset label = some back) ∧
        (Utf8.take? offset text = some common ∧ Utf8.drop? offset text = some left) ∧
        (∀ longer, longer <+: label → longer <+: text → longer <+: common) ∧
        (back = [] ∨ left = [] ∨ BeginApart left back) ∧
        ∀ node : Node α, LiteralBranch.splitAt? offset ⟨label, node⟩ = some ⟨common, .split back node⟩) ∧
      ∀ (m : Method) (a : α) (node : Node α) (tokens : List Token),
        node.insertAtOffsets? m a tokens = some (node.insert m a tokens) := by
  refine ⟨fun label text => ?_, fun m a node tokens => ?_⟩
  · have whole := commonPart_left label text
    have other := commonPart_right label text
    have apart := commonPart_apart label text
    have longest {longer : List Char} (inLabel : longer <+: label) (inText : longer <+: text) :=
      prefix_commonPart inLabel inText
    rw [commonOffset_eq]
    generalize commonPart label text = parts at whole other apart longest ⊢
    obtain ⟨common, back, left⟩ := parts
    simp only at whole other apart longest ⊢
    subst whole other
    exact ⟨common, back, left, ⟨Utf8.take?_width common back, Utf8.drop?_width common back⟩,
      ⟨Utf8.take?_width common left, Utf8.drop?_width common left⟩, fun _ => longest, apart,
      LiteralBranch.splitAt?_width common back⟩
  · exact Node.placeAtOffsets?_eq (Tree.insert m a node.below) fun _ =>
      Tree.insertAtOffsets?_eq node.below tokens

example : commonOffset "/users".toList "/users/new".toList = 6 := by decide

example : commonOffset "/café".toList "/cafè".toList = 4 := by decide

end RequestDispatch.Routing
