import Mathlib.Tactic.ByContra
import RequestDispatch.Routing.Contents
import RequestDispatch.Proofs.Routing.TemplateShape

/-!
# The branches of a tree and its entries

In a well-formed tree no branch is dead, so the entries alone tell which branches there are: their first
tokens are the first characters of the labels and the parameter.  `Tree.wellFormed_literal_iff` and
`Tree.wellFormed_param_iff` say being well formed in terms of entries.
-/

namespace RequestDispatch.Routing

variable {α : Type}

/-- The tokens go on with a character or a parameter. -/
def GoesOn (tokens : List Token) : Prop :=
  ∃ token rest, tokens = token :: rest ∧ token ≠ .catchAll

theorem goesOn_char (c : Char) (tokens : List Token) : GoesOn (.char c :: tokens) :=
  ⟨_, tokens, rfl, nofun⟩

theorem goesOn_param (tokens : List Token) : GoesOn (.param :: tokens) := ⟨_, tokens, rfl, nofun⟩

theorem GoesOn.char_or_param {tokens : List Token} (h : GoesOn tokens) :
    (∃ c rest, tokens = .char c :: rest) ∨ ∃ rest, tokens = .param :: rest := by
  obtain ⟨token, rest, rfl, other⟩ := h
  cases token with
  | char c => exact .inl ⟨c, rest, rfl⟩
  | param => exact .inr ⟨rest, rfl⟩
  | catchAll => exact absurd rfl other

theorem not_goesOn_nil : ¬ GoesOn [] := by
  rintro ⟨_, _, eq, _⟩
  cases eq

theorem not_goesOn_catchAll : ¬ GoesOn [.catchAll] := by
  rintro ⟨_, _, eq, other⟩
  cases eq
  exact other rfl

/-- The token with which a literal branch begins. -/
def firstToken (label : List Char) : Option Token := label.head?.map .char

theorem firstToken_cons (c : Char) (label : List Char) :
    firstToken (c :: label) = some (.char c) := rfl

theorem firstToken_inj {a b : List Char} (h : firstToken a = firstToken b) :
    a.head? = b.head? :=
  Option.map_injective (fun _ _ same => Token.char.inj same) h

theorem head?_chars_append {label : List Char} (nonempty : label ≠ []) (tokens : List Token) :
    (label.map Token.char ++ tokens).head? = firstToken label := by
  cases label with
  | nil => exact absurd rfl nonempty
  | cons c label => rfl

theorem mem_of_lookup_eq_some {owners : List (Method × α)} {m : Method} {a : α}
    (h : owners.lookup m = some a) : (m, a) ∈ owners := by
  obtain ⟨front, back, rfl, _⟩ := List.lookup_eq_some_iff.mp h
  simp

theorem ne_of_lookup_eq_none {owners : List (Method × α)} {m : Method}
    (h : owners.lookup m = none) {owner : Method × α} (mem : owner ∈ owners) : owner.1 ≠ m := by
  rw [List.lookup_eq_none_iff] at h
  intro same
  simpa [same] using h owner mem

theorem Stop.mem_entries_iff {stop : Stop α} {e : Entry α} :
    e ∈ stop.entries ↔
      (e.tokens = [] ∧ (e.method, e.value) ∈ stop.ends) ∨
        (e.tokens = [.catchAll] ∧ (e.method, e.value) ∈ stop.catchAlls) := by
  cases e
  simp only [entries, List.mem_append, List.mem_map, Entry.mk.injEq, Prod.exists]
  grind

theorem Stop.entries_eq_nil_iff {stop : Stop α} : stop.entries = [] ↔ stop.IsEmpty := by
  simp [entries, IsEmpty]

theorem Tree.entries_literal (label : List Char) (stop : Stop α) (below siblings : Tree α) :
    (literal label stop below siblings).entries =
      (Node.mk stop below).entries.map (Entry.after (label.map .char)) ++ siblings.entries := rfl

theorem Tree.entries_param (stop : Stop α) (below : Tree α) :
    (param stop below).entries = (Node.mk stop below).entries.map (Entry.after [.param]) := rfl

theorem Tree.mem_entries_literal {label : List Char} {stop : Stop α} {below siblings : Tree α}
    {e : Entry α} :
    e ∈ (literal label stop below siblings).entries ↔
      (∃ inner ∈ (Node.mk stop below).entries, inner.after (label.map .char) = e) ∨
        e ∈ siblings.entries := by
  rw [entries_literal, List.mem_append, List.mem_map]

theorem Tree.mem_entries_param {stop : Stop α} {below : Tree α} {e : Entry α} :
    e ∈ (param stop below).entries ↔
      ∃ inner ∈ (Node.mk stop below).entries, inner.after [.param] = e := by
  rw [entries_param, List.mem_map]

theorem Node.mem_entries_iff {node : Node α} {e : Entry α} :
    e ∈ node.entries ↔ e ∈ node.stop.entries ∨ e ∈ node.below.entries := by
  rw [entries, List.mem_append]

namespace Tree

/-- Every branch at a point leads to an entry. -/
structure Alive (tree : Tree α) : Prop where
  label : ∀ label ∈ tree.labels, ∃ e ∈ tree.entries, e.tokens.head? = firstToken label
  param : tree.hasParam = true → ∃ e ∈ tree.entries, e.tokens.head? = some .param

/-- A point at which something is registered or a branch begins leads to an entry. -/
theorem Alive.exists_entry {stop : Stop α} {below : Tree α} (alive : Alive below)
    (something : ¬ stop.IsEmpty ∨ below.hasParam = true ∨ below.labels ≠ []) :
    ∃ e, e ∈ (Node.mk stop below).entries := by
  rcases something with occupied | hasParam | labels
  · rw [← Stop.entries_eq_nil_iff] at occupied
    obtain ⟨e, he⟩ := List.exists_mem_of_ne_nil _ occupied
    exact ⟨e, Node.mem_entries_iff.mpr (.inl he)⟩
  · obtain ⟨e, he, _⟩ := alive.param hasParam
    exact ⟨e, Node.mem_entries_iff.mpr (.inr he)⟩
  · obtain ⟨label, mem⟩ := List.exists_mem_of_ne_nil _ labels
    obtain ⟨e, he, _⟩ := alive.label label mem
    exact ⟨e, Node.mem_entries_iff.mpr (.inr he)⟩

theorem Parts.labels_or {stop : Stop α} {below : Tree α} (parts : Parts stop below) :
    ¬ stop.IsEmpty ∨ below.hasParam = true ∨ below.labels ≠ [] := by
  refine parts.imp_right (Or.imp_right fun several empty => ?_)
  rw [empty] at several
  simp at several

theorem alive {tree : Tree α} (wf : tree.WellFormed) : Alive tree := by
  induction tree with
  | leaf => exact ⟨fun _ mem => absurd mem List.not_mem_nil, nofun⟩
  | param stop below ih =>
    obtain ⟨_, _, something, _, _, wfBelow⟩ := wf
    have something : ¬ stop.IsEmpty ∨ below.hasParam = true ∨ below.labels ≠ [] :=
      something.imp (fun ends empty => ends empty.1) .inr
    obtain ⟨e, he⟩ := (ih wfBelow).exists_entry something
    refine ⟨fun _ mem => absurd mem List.not_mem_nil, fun _ => ⟨e.after [.param], ?_, rfl⟩⟩
    exact mem_entries_param.mpr ⟨e, he, rfl⟩
  | literal label stop below siblings ihBelow ihSiblings =>
    obtain ⟨filled, _, _, parts, wfBelow, wfSiblings⟩ := wf
    obtain ⟨e, he⟩ := (ihBelow wfBelow).exists_entry parts.labels_or
    refine ⟨?_, fun hasParam => ?_⟩
    · intro other mem
      rcases List.mem_cons.mp mem with rfl | mem
      · exact ⟨e.after (other.map .char), mem_entries_literal.mpr (.inl ⟨e, he, rfl⟩),
          head?_chars_append filled _⟩
      · obtain ⟨found, hf, first⟩ := (ihSiblings wfSiblings).label other mem
        exact ⟨found, mem_entries_literal.mpr (.inr hf), first⟩
    · obtain ⟨found, hf, first⟩ := (ihSiblings wfSiblings).param hasParam
      exact ⟨found, mem_entries_literal.mpr (.inr hf), first⟩

/-- Every entry lies on a branch. -/
theorem branch_of_mem_entries {tree : Tree α} (wf : tree.WellFormed) {e : Entry α}
    (mem : e ∈ tree.entries) :
    (∃ label ∈ tree.labels, e.tokens.head? = firstToken label) ∨
      (tree.hasParam = true ∧ e.tokens.head? = some .param) := by
  induction tree with
  | leaf => cases mem
  | param stop below =>
    obtain ⟨inner, _, rfl⟩ := mem_entries_param.mp mem
    exact .inr ⟨rfl, rfl⟩
  | literal label stop below siblings _ ih =>
    obtain ⟨filled, _, _, _, _, wfSiblings⟩ := wf
    rcases mem_entries_literal.mp mem with ⟨inner, _, rfl⟩ | mem
    · exact .inl ⟨label, List.mem_cons_self .., head?_chars_append filled _⟩
    · rcases ih wfSiblings mem with ⟨other, here, first⟩ | viaParam
      · exact .inl ⟨other, List.mem_cons_of_mem _ here, first⟩
      · exact .inr viaParam

/-- A label of a branch is not empty. -/
theorem exists_firstToken {tree : Tree α} (wf : tree.WellFormed) {label : List Char}
    (mem : label ∈ tree.labels) : ∃ c, firstToken label = some (.char c) := by
  induction tree with
  | leaf => cases mem
  | param stop below => cases mem
  | literal front stop below siblings _ ih =>
    obtain ⟨filled, _, _, _, _, wfSiblings⟩ := wf
    rcases List.mem_cons.mp mem with rfl | mem
    · obtain ⟨c, rest, rfl⟩ := List.exists_cons_of_ne_nil filled
      exact ⟨c, rfl⟩
    · exact ih wfSiblings mem

/-- What lies in the branches is not registered at the point itself. -/
theorem goesOn_of_mem_entries {tree : Tree α} (wf : tree.WellFormed) {e : Entry α}
    (mem : e ∈ tree.entries) : GoesOn e.tokens := by
  have first : ∃ token, e.tokens.head? = some token ∧ token ≠ .catchAll := by
    rcases branch_of_mem_entries wf mem with ⟨label, here, first⟩ | ⟨_, first⟩
    · obtain ⟨c, hc⟩ := exists_firstToken wf here
      exact ⟨.char c, first.trans hc, Token.noConfusion⟩
    · exact ⟨.param, first, Token.noConfusion⟩
  obtain ⟨token, first, other⟩ := first
  obtain ⟨rest, eq⟩ := List.head?_eq_some_iff.mp first
  exact ⟨token, rest, eq, other⟩

/-- No two siblings begin with the same character. -/
theorem labels_apart {tree : Tree α} (wf : tree.WellFormed) :
    tree.labels.Pairwise fun a b => a.head? ≠ b.head? := by
  induction tree with
  | leaf => exact .nil
  | param => exact .nil
  | literal label stop below siblings _ ih =>
    obtain ⟨_, apart, _, _, _, wfSiblings⟩ := wf
    exact .cons (fun other mem same => apart other mem same.symm) (ih wfSiblings)

/-- Of two branches at least one does not begin with a given character. -/
theorem exists_label_ne {tree : Tree α} (wf : tree.WellFormed) (several : 2 ≤ tree.labels.length)
    (c : Char) : ∃ label ∈ tree.labels, firstToken label ≠ some (.char c) := by
  cases tree with
  | leaf => simp [labels] at several
  | param stop below => simp [labels] at several
  | literal label stop below siblings =>
    obtain ⟨_, apart, _, _, _, _⟩ := wf
    have more : siblings.labels ≠ [] := by
      intro none
      simp [labels, none] at several
    obtain ⟨other, mem⟩ := List.exists_mem_of_ne_nil _ more
    by_cases same : firstToken label = some (.char c)
    · refine ⟨other, List.mem_cons_of_mem _ mem, fun here => ?_⟩
      exact apart other mem (firstToken_inj (here.trans same.symm))
    · exact ⟨label, List.mem_cons_self .., same⟩

theorem Parts.exists_head_ne {stop : Stop α} {below : Tree α} (wf : below.WellFormed)
    (parts : Parts stop below) (c : Char) :
    ∃ e ∈ (Node.mk stop below).entries, e.tokens.head? ≠ some (.char c) := by
  rcases parts with occupied | hasParam | labels
  · rw [← Stop.entries_eq_nil_iff] at occupied
    obtain ⟨e, he⟩ := List.exists_mem_of_ne_nil _ occupied
    refine ⟨e, Node.mem_entries_iff.mpr (.inl he), ?_⟩
    rcases Stop.mem_entries_iff.mp he with ⟨tokens, _⟩ | ⟨tokens, _⟩
    · simp [tokens]
    · simp [tokens]
  · obtain ⟨e, he, first⟩ := (alive wf).param hasParam
    exact ⟨e, Node.mem_entries_iff.mpr (.inr he), by simp [first]⟩
  · obtain ⟨label, mem, other⟩ := exists_label_ne wf labels c
    obtain ⟨e, he, first⟩ := (alive wf).label label mem
    exact ⟨e, Node.mem_entries_iff.mpr (.inr he), first ▸ other⟩

/-- Where the ways do not part, there is at most one way on. -/
theorem exists_head_of_not_parts {stop : Stop α} {below : Tree α} (wf : below.WellFormed)
    (joined : ¬ Parts stop below) :
    ∃ c, ∀ e ∈ (Node.mk stop below).entries, e.tokens.head? = some (.char c) := by
  simp only [Parts, not_or, not_not, Nat.not_le] at joined
  obtain ⟨empty, noParam, few⟩ := joined
  have inside : ∀ e ∈ (Node.mk stop below).entries,
      ∃ label ∈ below.labels, e.tokens.head? = firstToken label := by
    intro e he
    rcases Node.mem_entries_iff.mp he with he | he
    · rw [Stop.entries_eq_nil_iff.mpr empty] at he
      cases he
    · rcases branch_of_mem_entries wf he with onLabel | ⟨hasParam, _⟩
      · exact onLabel
      · exact absurd hasParam noParam
  match labels : below.labels, few with
  | [], _ =>
    refine ⟨'/', fun e he => ?_⟩
    obtain ⟨label, mem, _⟩ := inside e he
    rw [labels] at mem
    cases mem
  | [single], _ =>
    obtain ⟨c, hc⟩ := exists_firstToken wf (labels ▸ List.mem_singleton_self single)
    refine ⟨c, fun e he => ?_⟩
    obtain ⟨label, mem, first⟩ := inside e he
    rw [labels, List.mem_singleton] at mem
    rw [first, mem, hc]

/-- The ways part at the end of a label exactly when no character begins every entry there. -/
theorem parts_iff {stop : Stop α} {below : Tree α} (wf : below.WellFormed) :
    Parts stop below ↔
      ∀ c, ∃ e ∈ (Node.mk stop below).entries, e.tokens.head? ≠ some (.char c) := by
  refine ⟨Parts.exists_head_ne wf, fun apart => ?_⟩
  by_contra joined
  obtain ⟨c, same⟩ := exists_head_of_not_parts wf joined
  obtain ⟨e, he, differs⟩ := apart c
  exact differs (same e he)

theorem wellFormed_literal_iff {label : List Char} {stop : Stop α} {below siblings : Tree α} :
    (literal label stop below siblings).WellFormed ↔
      label ≠ [] ∧ (∀ e ∈ siblings.entries, e.tokens.head? ≠ firstToken label) ∧
        (∀ c, ∃ e ∈ (Node.mk stop below).entries, e.tokens.head? ≠ some (.char c)) ∧
        (Node.mk stop below).WellFormed ∧ siblings.WellFormed := by
  constructor
  · rintro ⟨filled, apart, owners, parts, wfBelow, wfSiblings⟩
    refine ⟨filled, ?_, (parts_iff wfBelow).mp parts, ⟨owners, wfBelow⟩, wfSiblings⟩
    intro e he same
    rcases branch_of_mem_entries wfSiblings he with ⟨other, mem, first⟩ | ⟨_, first⟩
    · exact apart other mem (firstToken_inj (first.symm.trans same))
    · rw [first] at same
      cases label with
      | nil => exact filled rfl
      | cons c label => cases same
  · rintro ⟨filled, apart, parts, ⟨owners, wfBelow⟩, wfSiblings⟩
    refine ⟨filled, ?_, owners, (parts_iff wfBelow).mpr parts, wfBelow, wfSiblings⟩
    intro other mem same
    obtain ⟨e, he, first⟩ := (alive wfSiblings).label other mem
    exact apart e he (first.trans (congrArg (Option.map Token.char) same))

/-- Behind the parameter of a well-formed tree lies something, and it goes on with a slash. -/
theorem entries_of_wellFormed_param {stop : Stop α} {below : Tree α}
    (wf : (param stop below).WellFormed) :
    (Node.mk stop below).entries ≠ [] ∧
      ∀ e ∈ (Node.mk stop below).entries, FollowsParam e.tokens := by
  obtain ⟨e, he, _⟩ := (alive wf).param rfl
  obtain ⟨inner, mem, _⟩ := mem_entries_param.mp he
  obtain ⟨_, noCatchAll, _, noParam, slashes, wfBelow⟩ := wf
  refine ⟨List.ne_nil_of_mem mem, fun e he token first => ?_⟩
  rcases Node.mem_entries_iff.mp he with he | he
  · rcases Stop.mem_entries_iff.mp he with ⟨tokens, _⟩ | ⟨_, mem⟩
    · rw [tokens] at first
      cases first
    · rw [noCatchAll] at mem
      cases mem
  · rcases branch_of_mem_entries wfBelow he with ⟨label, mem, onLabel⟩ | ⟨hasParam, _⟩
    · rw [onLabel, firstToken, slashes label mem] at first
      cases first
      rfl
    · rw [noParam] at hasParam
      cases hasParam

theorem wellFormed_param_of_entries {stop : Stop α} {below : Tree α}
    (wf : (Node.mk stop below).WellFormed) (nonempty : (Node.mk stop below).entries ≠ [])
    (follows : ∀ e ∈ (Node.mk stop below).entries, FollowsParam e.tokens) :
    (param stop below).WellFormed := by
  obtain ⟨owners, wfBelow⟩ := wf
  have onSlash : ∀ label ∈ below.labels, label.head? = some '/' := by
    intro label mem
    obtain ⟨e, he, first⟩ := (alive wfBelow).label label mem
    obtain ⟨c, hc⟩ := exists_firstToken wfBelow mem
    have slash := follows e (Node.mem_entries_iff.mpr (.inr he)) (.char c) (first.trans hc)
    rw [slash] at hc
    exact firstToken_inj (hc.trans (firstToken_cons '/' []).symm)
  have noParam : below.hasParam = false := by
    rw [Bool.eq_false_iff]
    intro hasParam
    obtain ⟨e, he, first⟩ := (alive wfBelow).param hasParam
    cases follows e (Node.mem_entries_iff.mpr (.inr he)) .param first
  have noCatchAll : stop.catchAlls = [] := by
    by_contra occupied
    obtain ⟨entry, mem⟩ := List.exists_mem_of_ne_nil _ occupied
    have he : ⟨[.catchAll], entry.1, entry.2⟩ ∈ (Node.mk stop below).entries :=
      Node.mem_entries_iff.mpr (.inl (Stop.mem_entries_iff.mpr (.inr ⟨rfl, mem⟩)))
    cases follows _ he .catchAll rfl
  refine ⟨owners, noCatchAll, ?_, noParam, onSlash, wfBelow⟩
  by_contra dead
  simp only [not_or, not_not] at dead
  obtain ⟨e, he⟩ := List.exists_mem_of_ne_nil _ nonempty
  rcases Node.mem_entries_iff.mp he with he | he
  · rw [Stop.entries_eq_nil_iff.mpr ⟨dead.1, noCatchAll⟩] at he
    cases he
  · rcases branch_of_mem_entries wfBelow he with ⟨label, mem, _⟩ | ⟨hasParam, _⟩
    · rw [dead.2] at mem
      cases mem
    · rw [noParam] at hasParam
      cases hasParam

theorem wellFormed_param_iff {stop : Stop α} {below : Tree α} :
    (param stop below).WellFormed ↔
      (Node.mk stop below).entries ≠ [] ∧
        (∀ e ∈ (Node.mk stop below).entries, FollowsParam e.tokens) ∧
        (Node.mk stop below).WellFormed := by
  constructor
  · intro wf
    obtain ⟨nonempty, follows⟩ := entries_of_wellFormed_param wf
    obtain ⟨owners, _, _, _, _, wfBelow⟩ := wf
    exact ⟨nonempty, follows, owners, wfBelow⟩
  · rintro ⟨nonempty, follows, wf⟩
    exact wellFormed_param_of_entries wf nonempty follows

end Tree
end RequestDispatch.Routing
