import Mathlib.Data.List.Perm.Basic
import RequestDispatch.Proofs.Routing.Branches

/-!
# Insertion into a tree

Inserting into a well-formed tree either adds exactly one entry and keeps the tree well formed, or
names the present owner of the very place and method that was asked for (`Node.insert_answers`).
-/

namespace RequestDispatch.Routing

variable {α : Type}

/-- Nobody owns the place and the method of `e` among `before`, and `after` holds `e` besides. -/
structure Added (e : Entry α) (before after : List (Entry α)) : Prop where
  fresh : ∀ other ∈ before, other.tokens = e.tokens → other.method ≠ e.method
  perm : after.Perm (e :: before)

namespace Added

variable {e : Entry α} {before after : List (Entry α)}

theorem under (h : Added e before after) (front : List Token) :
    Added (e.after front) (before.map (Entry.after front)) (after.map (Entry.after front)) := by
  refine ⟨?_, h.perm.map _⟩
  intro other mem same
  obtain ⟨inner, here, rfl⟩ := List.mem_map.mp mem
  exact h.fresh inner here (List.append_cancel_left same)

theorem append_right (h : Added e before after) {more : List (Entry α)}
    (apart : ∀ other ∈ more, other.tokens ≠ e.tokens) : Added e (before ++ more) (after ++ more) := by
  refine ⟨?_, h.perm.append_right more⟩
  intro other mem same
  rcases List.mem_append.mp mem with mem | mem
  · exact h.fresh other mem same
  · exact absurd same (apart other mem)

theorem append_left (h : Added e before after) {more : List (Entry α)}
    (apart : ∀ other ∈ more, other.tokens ≠ e.tokens) : Added e (more ++ before) (more ++ after) := by
  refine ⟨?_, (h.perm.append_left more).trans List.perm_middle⟩
  intro other mem same
  rcases List.mem_append.mp mem with mem | mem
  · exact absurd same (apart other mem)
  · exact h.fresh other mem same

/-- The first entry of all. -/
theorem single (e : Entry α) : Added e [] [e] :=
  ⟨fun _ mem => absurd mem List.not_mem_nil, List.Perm.refl _⟩

end Added

/-- The good answers to inserting `e` into a tree. -/
def Tree.Answers (e : Entry α) (tree : Tree α) : Except α (Tree α) → Prop
  | .ok next => next.WellFormed ∧ Added e tree.entries next.entries
  | .error owner => ⟨e.tokens, e.method, owner⟩ ∈ tree.entries

/-- The good answers to inserting `e` at a node. -/
def Node.Answers (e : Entry α) (node : Node α) : Except α (Node α) → Prop
  | .ok next => next.WellFormed ∧ Added e node.entries next.entries
  | .error owner => ⟨e.tokens, e.method, owner⟩ ∈ node.entries

theorem Entry.after_after (a b : List Token) (e : Entry α) :
    (e.after b).after a = e.after (a ++ b) := by
  simp [Entry.after]

namespace Stop

theorem register_ok {entries next : List (Method × α)} {m : Method} {a : α}
    (h : register entries m a = .ok next) :
    next = entries ++ [(m, a)] ∧ ∀ entry ∈ entries, entry.1 ≠ m := by
  unfold register at h
  split at h
  · cases h
  · rename_i absent
    cases h
    exact ⟨rfl, fun _ => ne_of_lookup_eq_none absent⟩

theorem register_error {entries : List (Method × α)} {m : Method} {a owner : α}
    (h : register entries m a = .error owner) : (m, owner) ∈ entries := by
  unfold register at h
  split at h
  · rename_i found
    cases h
    exact mem_of_lookup_eq_some found
  · cases h

theorem nodup_register {entries next : List (Method × α)} {m : Method} {a : α}
    (distinct : (entries.map Prod.fst).Nodup) (h : register entries m a = .ok next) :
    (next.map Prod.fst).Nodup := by
  obtain ⟨rfl, free⟩ := register_ok h
  rw [List.map_append, List.nodup_append]
  refine ⟨distinct, by simp, ?_⟩
  intro owner mem asked here same
  obtain ⟨entry, at_, rfl⟩ := List.mem_map.mp mem
  have asked_eq : asked = m := by simpa using here
  exact free entry at_ (same.trans asked_eq)

end Stop

theorem Stop.added_of_register {owners next : List (Method × α)} {m : Method} {a : α}
    (h : register owners m a = .ok next) (tokens : List Token) :
    Added ⟨tokens, m, a⟩ (owners.map fun e => ⟨tokens, e.1, e.2⟩)
      (next.map fun e => ⟨tokens, e.1, e.2⟩) := by
  obtain ⟨rfl, free⟩ := register_ok h
  refine ⟨?_, ?_⟩
  · intro other mem _
    obtain ⟨owner, here, rfl⟩ := List.mem_map.mp mem
    exact free owner here
  · rw [List.map_append]
    exact List.perm_append_singleton _ _

namespace Node

variable {m : Method} {a : α}

theorem entries_eq (node : Node α) :
    node.entries = (node.stop.ends.map fun e => ⟨[], e.1, e.2⟩) ++
      ((node.stop.catchAlls.map fun e => ⟨[.catchAll], e.1, e.2⟩) ++ node.below.entries) := by
  rw [entries, Stop.entries, List.append_assoc]

/-- Nothing in the branches has tokens that end at the point. -/
theorem ne_of_mem_below {node : Node α} (wf : node.WellFormed) {tokens : List Token}
    (ends : ¬ GoesOn tokens) : ∀ e ∈ node.below.entries, e.tokens ≠ tokens := by
  rintro e mem rfl
  exact ends (Tree.goesOn_of_mem_entries wf.2 mem)

/-- The branches answer for tokens that go on. -/
theorem below_answers {node : Node α} {tokens : List Token} {answer : Except α (Tree α)}
    (wf : node.WellFormed) (goesOn : GoesOn tokens)
    (good : node.below.Answers ⟨tokens, m, a⟩ answer) :
    node.Answers ⟨tokens, m, a⟩ (answer.map fun below => ⟨node.stop, below⟩) := by
  cases answer with
  | error owner => exact mem_entries_iff.mpr (.inr good)
  | ok below =>
    obtain ⟨wfNext, added⟩ := good
    refine ⟨⟨wf.1, wfNext⟩, added.append_left ?_⟩
    obtain ⟨token, rest, rfl, other⟩ := goesOn
    intro e mem same
    rcases Stop.mem_entries_iff.mp mem with ⟨tokens, _⟩ | ⟨tokens, _⟩
    · cases tokens.symm.trans same
    · cases tokens.symm.trans same
      exact other rfl

theorem ends_answers {node : Node α} (wf : node.WellFormed) :
    node.Answers ⟨[], m, a⟩ ((Stop.register node.stop.ends m a).map fun ends =>
      ⟨{ node.stop with ends := ends }, node.below⟩) := by
  have notBelow := ne_of_mem_below wf not_goesOn_nil
  cases registered : Stop.register node.stop.ends m a with
  | error owner =>
    exact mem_entries_iff.mpr (.inl (Stop.mem_entries_iff.mpr
      (.inl ⟨rfl, Stop.register_error registered⟩)))
  | ok ends =>
    refine ⟨⟨⟨Stop.nodup_register wf.1.1 registered, wf.1.2⟩, wf.2⟩, ?_⟩
    rw [entries_eq, entries_eq]
    refine (Stop.added_of_register registered []).append_right ?_
    intro e mem
    rcases List.mem_append.mp mem with mem | mem
    · obtain ⟨owner, _, rfl⟩ := List.mem_map.mp mem
      exact List.cons_ne_nil _ _
    · exact notBelow e mem

theorem catchAlls_answers {node : Node α} (wf : node.WellFormed) :
    node.Answers ⟨[.catchAll], m, a⟩ ((Stop.register node.stop.catchAlls m a).map fun catchAlls =>
      ⟨{ node.stop with catchAlls := catchAlls }, node.below⟩) := by
  have notBelow := ne_of_mem_below wf not_goesOn_catchAll
  cases registered : Stop.register node.stop.catchAlls m a with
  | error owner =>
    exact mem_entries_iff.mpr (.inl (Stop.mem_entries_iff.mpr
      (.inr ⟨rfl, Stop.register_error registered⟩)))
  | ok catchAlls =>
    refine ⟨⟨⟨wf.1.1, Stop.nodup_register wf.1.2 registered⟩, wf.2⟩, ?_⟩
    rw [entries_eq, entries_eq]
    refine ((Stop.added_of_register registered [.catchAll]).append_right notBelow).append_left ?_
    intro e mem
    obtain ⟨owner, _, rfl⟩ := List.mem_map.mp mem
    exact (List.cons_ne_nil _ _).symm

/-- Placing at a node is good if what lies deeper answers well. -/
theorem place_answers {node : Node α} {tokens : List Token}
    {deeper : List Token → Except α (Tree α)} (wf : node.WellFormed) (shaped : WellShaped tokens)
    (inner : GoesOn tokens → Tree.Answers ⟨tokens, m, a⟩ node.below (deeper tokens)) :
    Answers ⟨tokens, m, a⟩ node (place m a node tokens deeper) := by
  cases tokens with
  | nil => exact ends_answers wf
  | cons token rest =>
    cases token with
    | char c => exact below_answers wf (goesOn_char c rest) (inner (goesOn_char c rest))
    | param => exact below_answers wf (goesOn_param rest) (inner (goesOn_param rest))
    | catchAll =>
      cases shaped
      exact catchAlls_answers wf

theorem empty_wellFormed : (empty : Node α).WellFormed :=
  ⟨⟨List.nodup_nil, List.nodup_nil⟩, trivial⟩

theorem under_of_ne_nil {label : List Char} (filled : label ≠ []) (node : Node α) :
    under label node = ⟨.empty, .literal label node.stop node.below .leaf⟩ := by
  cases label with
  | nil => exact absurd rfl filled
  | cons c label => rfl

theorem entries_under (label : List Char) (node : Node α) :
    (under label node).entries = node.entries.map (Entry.after (label.map .char)) := by
  cases label with
  | nil => exact (List.map_id' node.entries).symm
  | cons c label => exact List.append_nil _

theorem entries_split (back : List Char) (node : Node α) :
    (split back node).entries = node.entries.map (Entry.after (back.map .char)) :=
  List.append_nil _

theorem split_wellFormed {back : List Char} {node : Node α} (filled : back ≠ [])
    (parts : ∀ c, ∃ e ∈ node.entries, e.tokens.head? ≠ some (.char c)) (wf : node.WellFormed) :
    (split back node).WellFormed := by
  refine ⟨⟨List.nodup_nil, List.nodup_nil⟩, Tree.wellFormed_literal_iff.mpr ?_⟩
  exact ⟨filled, fun _ mem => absurd mem List.not_mem_nil, parts, wf, trivial⟩

theorem under_wellFormed {label : List Char} {node : Node α} (wf : node.WellFormed)
    (apart : ∀ c, ∃ e ∈ node.entries, e.tokens.head? ≠ some (.char c)) :
    (under label node).WellFormed := by
  cases label with
  | nil => exact wf
  | cons c label => exact split_wellFormed (List.cons_ne_nil c label) apart wf

end Node

namespace Tree

variable {m : Method} {a : α}

/-- A chain holds the one entry it was made for. -/
theorem entries_chain {tokens : List Token} (shaped : WellShaped tokens) (label : List Char) :
    (chain m a label tokens).entries = [⟨label.map .char ++ tokens, m, a⟩] := by
  induction tokens generalizing label with
  | nil =>
    rw [chain, Node.entries_under]
    rfl
  | cons token rest ih =>
    cases token with
    | char c =>
      rw [chain, ih shaped]
      simp
    | param =>
      rw [chain, Node.entries_under]
      have inner := ih shaped.2 []
      simp only [Node.entries, Stop.empty, Stop.entries, entries] at inner ⊢
      rw [inner]
      rfl
    | catchAll =>
      cases shaped
      rw [chain, Node.entries_under]
      rfl

theorem chain_wellFormed {tokens : List Token} (shaped : WellShaped tokens) (label : List Char) :
    (chain m a label tokens).WellFormed := by
  induction tokens generalizing label with
  | nil =>
    refine Node.under_wellFormed ⟨⟨by simp, by simp⟩, trivial⟩ fun c => ?_
    exact ⟨⟨[], m, a⟩, List.mem_cons_self .., nofun⟩
  | cons token rest ih =>
    cases token with
    | char c => exact ih shaped _
    | catchAll =>
      refine Node.under_wellFormed ⟨⟨by simp, by simp⟩, trivial⟩ fun c => ?_
      exact ⟨⟨[.catchAll], m, a⟩, List.mem_cons_self .., nofun⟩
    | param =>
      have inner := entries_chain (m := m) (a := a) shaped.2 []
      have wf : (param (chain m a [] rest).stop (chain m a [] rest).below).WellFormed := by
        refine wellFormed_param_iff.mpr ⟨?_, ?_, ih shaped.2 []⟩
        · exact inner ▸ List.cons_ne_nil _ _
        · intro e he
          rw [inner, List.mem_singleton] at he
          subst he
          exact shaped.1
      refine Node.under_wellFormed ⟨⟨List.nodup_nil, List.nodup_nil⟩, wf⟩ fun c => ?_
      refine ⟨⟨.param :: rest, m, a⟩, ?_, nofun⟩
      refine Node.mem_entries_iff.mpr (.inr (mem_entries_param.mpr ⟨⟨rest, m, a⟩, ?_, rfl⟩))
      exact inner ▸ List.mem_singleton.mpr rfl

/-- Nothing is registered at the start of a chain that goes on from there. -/
theorem stop_chain {label : List Char} {tokens : List Token} (h : label ≠ [] ∨ GoesOn tokens) :
    (chain m a label tokens).stop = .empty := by
  induction tokens generalizing label with
  | nil =>
    rcases h with filled | ⟨_, _, eq, _⟩
    · rw [chain, Node.under_of_ne_nil filled]
    · cases eq
  | cons token rest ih =>
    cases token with
    | char c => exact ih (.inl (by simp))
    | param =>
      cases label with
      | nil => rfl
      | cons c label => rfl
    | catchAll =>
      rcases h with filled | ⟨_, _, eq, other⟩
      · rw [chain, Node.under_of_ne_nil filled]
      · cases eq
        exact absurd rfl other

/-- The fresh tree that leads along `tokens`. -/
theorem fresh_spec {tokens : List Token} (shaped : WellShaped tokens) (goesOn : GoesOn tokens) :
    (chain m a [] tokens).below.WellFormed ∧
      (chain m a [] tokens).below.entries = [⟨tokens, m, a⟩] := by
  refine ⟨(chain_wellFormed shaped []).2, ?_⟩
  have whole := entries_chain (m := m) (a := a) shaped []
  rw [Node.entries, stop_chain (.inr goesOn)] at whole
  exact whole

/-- A fresh tree that begins with a character is a single literal branch. -/
theorem chain_literal {label : List Char} (filled : label ≠ []) (tokens : List Token) :
    ∃ front stop below, (chain m a label tokens).below = literal front stop below leaf := by
  induction tokens generalizing label with
  | nil => exact ⟨_, _, _, congrArg Node.below (Node.under_of_ne_nil filled _)⟩
  | cons token rest ih =>
    cases token with
    | char c => exact ih (by simp)
    | param => exact ⟨_, _, _, congrArg Node.below (Node.under_of_ne_nil filled _)⟩
    | catchAll => exact ⟨_, _, _, congrArg Node.below (Node.under_of_ne_nil filled _)⟩

/-- A fresh literal branch goes in front of the branches that are there. -/
theorem before_answers {c : Char} {rest : List Token} {siblings : Tree α}
    (shaped : WellShaped (.char c :: rest)) (wf : siblings.WellFormed)
    (apart : ∀ e ∈ siblings.entries, e.tokens.head? ≠ some (.char c)) :
    Answers ⟨.char c :: rest, m, a⟩ siblings
      (.ok ((chain m a [] (.char c :: rest)).below.before siblings)) := by
  have spec := fresh_spec (m := m) (a := a) shaped ⟨.char c, rest, rfl, Token.noConfusion⟩
  obtain ⟨front, stop, below, eq⟩ := chain_literal (m := m) (a := a) (List.cons_ne_nil c []) rest
  have eq : (chain m a [] (.char c :: rest)).below = literal front stop below leaf := eq
  rw [eq] at spec ⊢
  obtain ⟨wfFresh, entries⟩ := spec
  obtain ⟨filled, _, parts, wfInner, _⟩ := wellFormed_literal_iff.mp wfFresh
  have begins : firstToken front = some (.char c) := by
    obtain ⟨e, he, first⟩ := (alive wfFresh).label front (List.mem_cons_self ..)
    rw [entries, List.mem_singleton] at he
    rw [← first, he]
    rfl
  have entries : (Node.mk stop below).entries.map (Entry.after (front.map .char)) =
      [⟨.char c :: rest, m, a⟩] := by
    rw [← entries]
    exact (List.append_nil _).symm
  refine ⟨wellFormed_literal_iff.mpr ⟨filled, begins ▸ apart, parts, wfInner, wf⟩, ?_, ?_⟩
  · intro other mem same
    exact absurd (congrArg List.head? same) (apart other mem)
  · rw [before, entries_literal, entries]
    exact List.Perm.refl _

/-- An answer at the end of a label is one for the whole tree.  `tree` is the tree as it was, perhaps
with a longer label. -/
theorem literal_answers {e : Entry α} {tree siblings : Tree α} {label : List Char} {node : Node α}
    {answer : Except α (Node α)} (good : node.Answers e answer)
    (whole : tree.entries = node.entries.map (Entry.after (label.map .char)) ++ siblings.entries)
    (filled : label ≠ []) (apart : ∀ other ∈ siblings.entries, other.tokens.head? ≠ firstToken label)
    (wf : siblings.WellFormed)
    (parts : ∀ c, ∃ x ∈ e :: node.entries, x.tokens.head? ≠ some (.char c)) :
    tree.Answers (e.after (label.map .char))
      (answer.map fun next => literal label next.stop next.below siblings) := by
  cases answer with
  | error owner =>
    have owned : Entry.after (label.map .char) ⟨e.tokens, e.method, owner⟩ ∈ tree.entries := by
      rw [whole]
      exact List.mem_append_left _ (List.mem_map_of_mem good)
    exact owned
  | ok next =>
    obtain ⟨wfNext, added⟩ := good
    refine ⟨wellFormed_literal_iff.mpr ⟨filled, apart, fun c => ?_, wfNext, wf⟩, ?_⟩
    · obtain ⟨x, mem, differs⟩ := parts c
      exact ⟨x, added.perm.mem_iff.mpr mem, differs⟩
    · rw [whole, entries_literal]
      refine (added.under _).append_right ?_
      intro other mem same
      apply apart other mem
      rw [same]
      exact head?_chars_append filled _

theorem sibling_answers {e : Entry α} {label : List Char} {stop : Stop α} {below siblings : Tree α}
    {answer : Except α (Tree α)} (good : siblings.Answers e answer)
    (wf : (literal label stop below siblings).WellFormed)
    (other : e.tokens.head? ≠ firstToken label) :
    (literal label stop below siblings).Answers e
      (answer.map fun next => literal label stop below next) := by
  obtain ⟨filled, apart, parts, wfInner, _⟩ := wellFormed_literal_iff.mp wf
  cases answer with
  | error owner => exact mem_entries_literal.mpr (.inr good)
  | ok next =>
    obtain ⟨wfNext, added⟩ := good
    refine ⟨wellFormed_literal_iff.mpr ⟨filled, ?_, parts, wfInner, wfNext⟩, ?_⟩
    · intro x mem
      rcases List.mem_cons.mp (added.perm.mem_iff.mp mem) with rfl | mem
      · exact other
      · exact apart x mem
    · refine added.append_left ?_
      intro x mem same
      obtain ⟨inner, _, rfl⟩ := List.mem_map.mp mem
      apply other
      rw [← same]
      exact head?_chars_append filled _

theorem param_answers {rest : List Token} {stop : Stop α} {below : Tree α}
    {answer : Except α (Node α)} (good : (Node.mk stop below).Answers ⟨rest, m, a⟩ answer)
    (wf : (param stop below).WellFormed) (follows : FollowsParam rest) :
    (param stop below).Answers ⟨.param :: rest, m, a⟩
      (answer.map fun next => param next.stop next.below) := by
  obtain ⟨_, slashes, _⟩ := wellFormed_param_iff.mp wf
  cases answer with
  | error owner => exact mem_entries_param.mpr ⟨_, good, rfl⟩
  | ok next =>
    obtain ⟨wfNext, added⟩ := good
    refine ⟨wellFormed_param_iff.mpr ⟨?_, ?_, wfNext⟩, added.under [.param]⟩
    · exact List.ne_nil_of_mem (added.perm.mem_iff.mpr (List.mem_cons_self ..))
    · intro x mem
      rcases List.mem_cons.mp (added.perm.mem_iff.mp mem) with rfl | mem
      · exact follows
      · exact slashes x mem

/-- The tokens after the leading characters do not begin with a character. -/
theorem leadingChars_spec (tokens : List Token) :
    tokens = (leadingChars tokens).map .char ++ tokens.drop (leadingChars tokens).length ∧
      ∀ c, (tokens.drop (leadingChars tokens).length).head? ≠ some (.char c) := by
  fun_induction leadingChars tokens with
  | case1 c rest ih =>
    refine ⟨?_, ih.2⟩
    simpa using ih.1
  | case2 tokens other =>
    refine ⟨rfl, fun c first => ?_⟩
    obtain ⟨rest, eq⟩ := List.head?_eq_some_iff.mp first
    exact other c rest eq

/-- The tokens after what a text at their beginning has in common with a label. -/
theorem drop_commonPart {label common back front : List Char} {tokens : List Token}
    (parted : commonPart label (leadingChars tokens) = (common, back, front)) :
    front.map .char ++ tokens.drop (leadingChars tokens).length = tokens.drop common.length := by
  have split := commonPart_right label (leadingChars tokens)
  obtain ⟨whole, _⟩ := leadingChars_spec tokens
  rw [parted] at split
  generalize tokens.drop (leadingChars tokens).length = tail at whole ⊢
  rw [whole, ← split, List.map_append, List.append_assoc]
  simp

/-- Where the tokens leave a label: `common` is what they share with it, and they do not go on as
the rest of the label does. -/
theorem cut_label {label common back front : List Char} {tokens : List Token}
    (cut : commonPart label (leadingChars tokens) = (common, back, front)) :
    label = common ++ back ∧ tokens = common.map .char ++ tokens.drop common.length ∧
      (back ≠ [] → (tokens.drop common.length).head? ≠ firstToken back) := by
  have left := commonPart_left label (leadingChars tokens)
  have right := commonPart_right label (leadingChars tokens)
  have heads := commonPart_heads label (leadingChars tokens)
  obtain ⟨split, ends⟩ := leadingChars_spec tokens
  rw [cut] at left right heads
  rw [← drop_commonPart cut]
  refine ⟨left.symm, ?_, fun more => ?_⟩
  · rw [← List.append_assoc, ← List.map_append, right]
    exact split
  · obtain ⟨c, back, rfl⟩ := List.exists_cons_of_ne_nil more
    rw [firstToken_cons]
    cases front with
    | nil => exact ends c
    | cons d front =>
      intro same
      cases same
      exact heads c rfl rfl

/-- Where the tokens leave a label in its middle, the label is cut: its end and the fresh tree become
siblings. -/
theorem split_answers {common back : List Char} {stop : Stop α} {below siblings : Tree α}
    {rest : List Token} (wf : (literal (common ++ back) stop below siblings).WellFormed)
    (filled : common ≠ []) (more : back ≠ []) (shaped : WellShaped rest)
    (leaves : rest.head? ≠ firstToken back) :
    (literal (common ++ back) stop below siblings).Answers ⟨common.map .char ++ rest, m, a⟩
      ((Node.place m a (Node.split back ⟨stop, below⟩) rest fun deeper =>
        .ok (literal back stop below (chain m a [] deeper).below)).map fun node =>
          literal common node.stop node.below siblings) := by
  obtain ⟨_, apart, parts, wfNode, wfSiblings⟩ := wellFormed_literal_iff.mp wf
  have wfSplit := Node.split_wellFormed more parts wfNode
  have beside (goesOn : GoesOn rest) : (literal back stop below leaf).Answers ⟨rest, m, a⟩
      (.ok (literal back stop below (chain m a [] rest).below)) := by
    obtain ⟨wfFresh, entries⟩ := fresh_spec (m := m) (a := a) shaped goesOn
    have good : (leaf : Tree α).Answers ⟨rest, m, a⟩ (.ok (chain m a [] rest).below) :=
      ⟨wfFresh, entries ▸ Added.single _⟩
    exact sibling_answers good wfSplit.2 leaves
  have first : firstToken (common ++ back) = firstToken common := by
    obtain ⟨c, chars, rfl⟩ := List.exists_cons_of_ne_nil filled
    rfl
  refine literal_answers (Node.place_answers wfSplit shaped beside) ?_ filled (first ▸ apart)
    wfSiblings fun c => ?_
  · rw [Node.entries_split, List.map_map, entries_literal, List.map_append]
    congr 2
    funext e
    exact (Entry.after_after _ _ e).symm
  · -- The end of the label and the fresh tree do not begin with the same character.
    by_cases same : firstToken back = some (.char c)
    · exact ⟨_, List.mem_cons_self .., same ▸ leaves⟩
    · obtain ⟨old, here, _⟩ := parts c
      refine ⟨old.after (back.map .char), List.mem_cons_of_mem _ ?_, ?_⟩
      · exact Node.entries_split back _ ▸ List.mem_map_of_mem here
      · rw [Entry.after, head?_chars_append more]
        exact same

/-- Inserting into a well-formed tree answers well. -/
theorem insert_answers {tree : Tree α} (wf : tree.WellFormed) {tokens : List Token}
    (shaped : WellShaped tokens) (goesOn : GoesOn tokens) :
    tree.Answers ⟨tokens, m, a⟩ (tree.insert m a tokens) := by
  induction tree generalizing tokens with
  | leaf =>
    obtain ⟨wfFresh, entries⟩ := fresh_spec (m := m) (a := a) shaped goesOn
    exact ⟨wfFresh, entries ▸ Added.single _⟩
  | param stop below ih =>
    obtain ⟨token, rest, rfl, other⟩ := goesOn
    cases token with
    | catchAll => exact absurd rfl other
    | char c =>
      refine before_answers shaped wf ?_
      intro e he first
      obtain ⟨inner, _, rfl⟩ := mem_entries_param.mp he
      cases first
    | param =>
      obtain ⟨_, _, wfNode⟩ := wellFormed_param_iff.mp wf
      refine param_answers ?_ wf shaped.1
      exact Node.place_answers wfNode shaped.2 fun more => ih wfNode.2 shaped.2 more
  | literal label stop below siblings ihBelow ihSiblings =>
    obtain ⟨filled, apart, parts, wfNode, wfSiblings⟩ := wellFormed_literal_iff.mp wf
    match cut : commonPart label (leadingChars tokens) with
    | ([], back, front) =>
      obtain ⟨rfl, _, leaves⟩ := cut_label cut
      have answer : insert m a (literal label stop below siblings) tokens =
          (insert m a siblings tokens).map fun next => literal label stop below next := by
        rw [insert, cut]
      rw [answer]
      refine sibling_answers (ihSiblings wfSiblings shaped goesOn) wf ?_
      exact leaves filled
    | (c :: common, [], front) =>
      obtain ⟨whole, split, _⟩ := cut_label cut
      rw [List.append_nil] at whole
      subst whole
      have answer : insert m a (literal (c :: common) stop below siblings) tokens =
          (Node.place m a ⟨stop, below⟩ (tokens.drop (c :: common).length)
            fun deeper => insert m a below deeper).map fun node =>
              literal (c :: common) node.stop node.below siblings := by
        rw [insert, cut]
      rw [answer]
      generalize tokens.drop (c :: common).length = rest at *
      subst split
      have shaped := (wellShaped_chars_append _ _).mp shaped
      have placed := Node.place_answers (m := m) (a := a) wfNode shaped
        fun more => ihBelow wfNode.2 shaped more
      refine literal_answers placed rfl filled apart wfSiblings fun x => ?_
      obtain ⟨e, he, differs⟩ := parts x
      exact ⟨e, List.mem_cons_of_mem _ he, differs⟩
    | (c :: common, d :: back, front) =>
      obtain ⟨rfl, split, leaves⟩ := cut_label cut
      have answer : insert m a (literal (c :: common ++ d :: back) stop below siblings) tokens =
          (Node.place m a (Node.split (d :: back) ⟨stop, below⟩)
            (tokens.drop (c :: common).length) fun deeper =>
              .ok (.literal (d :: back) stop below (chain m a [] deeper).below)).map fun node =>
                literal (c :: common) node.stop node.below siblings := by
        rw [insert, cut]
      rw [answer]
      generalize tokens.drop (c :: common).length = rest at *
      subst split
      exact split_answers wf (List.cons_ne_nil c common) (List.cons_ne_nil d back)
        ((wellShaped_chars_append _ _).mp shaped) (leaves (List.cons_ne_nil d back))

end Tree

/-- Inserting at a well-formed node answers well. -/
theorem Node.insert_answers {m : Method} {a : α} {node : Node α} (wf : node.WellFormed)
    {tokens : List Token} (shaped : WellShaped tokens) :
    node.Answers ⟨tokens, m, a⟩ (node.insert m a tokens) :=
  place_answers wf shaped fun more => Tree.insert_answers wf.2 shaped more

end RequestDispatch.Routing
