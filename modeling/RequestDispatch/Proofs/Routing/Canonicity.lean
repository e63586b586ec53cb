import Mathlib.Data.List.Perm.Subperm
import RequestDispatch.Proofs.Routing.Insertion

/-!
# One tree for one set of entries

Two trees are alike if they differ only in the order of literal siblings and in the order of what is
registered at one point.  Well-formed trees with the same entries are alike
(`Tree.alike_of_perm`): labels are as long as they can be and no branch is dead, so the entries leave no
choice where the tree splits.  This holds also of trees from which the values have been taken
(`Node.bare`).
-/

namespace RequestDispatch.Routing

variable {α β : Type}

/-- Both hold the same, in any order. -/
structure Stop.Alike (a b : Stop α) : Prop where
  ends : a.ends.Perm b.ends
  catchAlls : a.catchAlls.Perm b.catchAlls

/-- The trees differ only in the order of literal siblings and of what is registered at one point. -/
inductive Tree.Alike : Tree α → Tree α → Prop
  | leaf : Alike .leaf .leaf
  | param {a b : Stop α} {s t : Tree α} (stops : a.Alike b) (below : Alike s t) :
      Alike (.param a s) (.param b t)
  | literal (label : List Char) {a b : Stop α} {s t u v : Tree α} (stops : a.Alike b)
      (below : Alike s t) (siblings : Alike u v) :
      Alike (.literal label a s u) (.literal label b t v)
  | swap (label other : List Char) (a b : Stop α) (s t siblings : Tree α) :
      Alike (.literal label a s (.literal other b t siblings))
        (.literal other b t (.literal label a s siblings))
  | trans {s t u : Tree α} (first : Alike s t) (second : Alike t u) : Alike s u

structure Node.Alike (a b : Node α) : Prop where
  stop : a.stop.Alike b.stop
  below : a.below.Alike b.below

namespace Stop

theorem Alike.refl (stop : Stop α) : stop.Alike stop := ⟨List.Perm.refl _, List.Perm.refl _⟩

theorem Alike.symm {a b : Stop α} (h : a.Alike b) : b.Alike a := ⟨h.ends.symm, h.catchAlls.symm⟩

theorem Alike.entries {a b : Stop α} (h : a.Alike b) : a.entries.Perm b.entries :=
  (h.ends.map _).append (h.catchAlls.map _)

theorem Alike.hasOwners {a b : Stop α} (h : a.Alike b) (owners : a.HasOwners) : b.HasOwners :=
  ⟨(h.ends.map _).nodup_iff.mp owners.1, (h.catchAlls.map _).nodup_iff.mp owners.2⟩

theorem Alike.isEmpty {a b : Stop α} (h : a.Alike b) (empty : b.IsEmpty) : a.IsEmpty :=
  ⟨(empty.1 ▸ h.ends).eq_nil, (empty.2 ▸ h.catchAlls).eq_nil⟩

end Stop

namespace Tree

theorem Alike.refl (tree : Tree α) : tree.Alike tree := by
  induction tree with
  | leaf => exact .leaf
  | param stop below ih => exact .param (.refl stop) ih
  | literal label stop below siblings ihBelow ihSiblings =>
    exact .literal label (.refl stop) ihBelow ihSiblings

theorem Alike.symm {s t : Tree α} (h : s.Alike t) : t.Alike s := by
  induction h with
  | leaf => exact .leaf
  | param stops _ ih => exact .param stops.symm ih
  | literal label stops _ _ ihBelow ihSiblings =>
    exact .literal label stops.symm ihBelow ihSiblings
  | swap => exact .swap ..
  | trans _ _ ihFirst ihSecond => exact ihSecond.trans ihFirst

theorem Alike.entries {s t : Tree α} (h : s.Alike t) : s.entries.Perm t.entries := by
  induction h with
  | leaf => exact List.Perm.refl _
  | param stops _ ih => exact (stops.entries.append ih).map _
  | literal label stops _ _ ihBelow ihSiblings =>
    exact ((stops.entries.append ihBelow).map _).append ihSiblings
  | swap label other a b s t siblings =>
    simp only [Tree.entries, ← List.append_assoc]
    exact List.perm_append_comm.append_right _
  | trans _ _ ihFirst ihSecond => exact ihFirst.trans ihSecond

theorem Alike.labels {s t : Tree α} (h : s.Alike t) : s.labels.Perm t.labels := by
  induction h with
  | leaf => exact List.Perm.refl _
  | param => exact List.Perm.refl _
  | literal label _ _ _ _ ihSiblings => exact ihSiblings.cons label
  | swap label other a b s t siblings => exact List.Perm.swap ..
  | trans _ _ ihFirst ihSecond => exact ihFirst.trans ihSecond

theorem Alike.hasParam {s t : Tree α} (h : s.Alike t) : s.hasParam = t.hasParam := by
  induction h with
  | leaf => rfl
  | param => rfl
  | literal _ _ _ _ _ ihSiblings => exact ihSiblings
  | swap => rfl
  | trans _ _ ihFirst ihSecond => exact ihFirst.trans ihSecond

theorem Alike.parts {a b : Stop α} {s t : Tree α} (stops : a.Alike b) (below : s.Alike t)
    (h : Parts a s) : Parts b t := by
  unfold Parts at h ⊢
  rw [← below.hasParam, ← below.labels.length_eq]
  exact h.imp_left fun occupied empty => occupied (stops.isEmpty empty)

theorem Alike.wellFormed {s t : Tree α} (h : s.Alike t) (wf : s.WellFormed) : t.WellFormed := by
  induction h with
  | leaf => trivial
  | param stops below ih =>
    obtain ⟨owners, noCatchAll, alive, noParam, slashes, wfBelow⟩ := wf
    refine ⟨stops.hasOwners owners, (noCatchAll ▸ stops.catchAlls.symm).eq_nil, ?_,
      below.hasParam ▸ noParam, fun label mem => slashes label (below.labels.mem_iff.mpr mem),
      ih wfBelow⟩
    refine alive.imp (fun ends empty => ends ?_) fun labels empty => labels ?_
    · exact (empty ▸ stops.ends).eq_nil
    · exact (empty ▸ below.labels).eq_nil
  | literal label stops below siblings ihBelow ihSiblings =>
    obtain ⟨filled, apart, owners, parts, wfBelow, wfSiblings⟩ := wf
    exact ⟨filled, fun other mem => apart other (siblings.labels.mem_iff.mpr mem),
      stops.hasOwners owners, Alike.parts stops below parts, ihBelow wfBelow, ihSiblings wfSiblings⟩
  | swap label other a b s t siblings =>
    obtain ⟨filled, apart, owners, parts, wfBelow, filled', apart', owners', parts', wfBelow',
      wfSiblings⟩ := wf
    refine ⟨filled', ?_, owners', parts', wfBelow', filled, ?_, owners, parts, wfBelow, wfSiblings⟩
    · intro x mem
      rcases List.mem_cons.mp mem with rfl | mem
      · exact (apart other (List.mem_cons_self ..)).symm
      · exact apart' x mem
    · exact fun x mem => apart x (List.mem_cons_of_mem _ mem)
  | trans _ _ ihFirst ihSecond => exact ihSecond (ihFirst wf)

/-- Any literal branch may come first. -/
theorem exists_alike_front {tree : Tree α} {label : List Char} (mem : label ∈ tree.labels) :
    ∃ stop below siblings, tree.Alike (literal label stop below siblings) := by
  induction tree with
  | leaf => cases mem
  | param => cases mem
  | literal first stop below siblings _ ih =>
    rcases List.mem_cons.mp mem with rfl | mem
    · exact ⟨stop, below, siblings, .refl _⟩
    · obtain ⟨found, inner, rest, alike⟩ := ih mem
      exact ⟨found, inner, literal first stop below rest,
        (Alike.literal first (.refl stop) (.refl below) alike).trans (.swap ..)⟩

end Tree

theorem Entry.after_injective (front : List Token) :
    Function.Injective (Entry.after (α := α) front) := by
  rintro ⟨s, m, a⟩ ⟨t, k, b⟩ same
  simp only [Entry.after, Entry.mk.injEq, List.append_cancel_left_eq] at same
  obtain ⟨rfl, rfl, rfl⟩ := same
  rfl

/-- A rearrangement does not mix what a property tells apart. -/
theorem perm_parts {p : β → Bool} {a b c d : List β} (h : (a ++ b).Perm (c ++ d))
    (ha : ∀ x ∈ a, p x = true) (hb : ∀ x ∈ b, p x = false) (hc : ∀ x ∈ c, p x = true)
    (hd : ∀ x ∈ d, p x = false) : a.Perm c ∧ b.Perm d := by
  have first {l r : List β} (hl : ∀ x ∈ l, p x = true) (hr : ∀ x ∈ r, p x = false) :
      (l ++ r).filter p = l := by
    have whole : l.filter p = l := List.filter_eq_self.mpr hl
    have nothing : r.filter p = [] := List.filter_eq_nil_iff.mpr (by simpa using hr)
    rw [List.filter_append, whole, nothing, List.append_nil]
  have second {l r : List β} (hl : ∀ x ∈ l, p x = true) (hr : ∀ x ∈ r, p x = false) :
      (l ++ r).filter (fun x => !p x) = r := by
    have nothing : l.filter (fun x => !p x) = [] := List.filter_eq_nil_iff.mpr (by simpa using hl)
    have whole : r.filter (fun x => !p x) = r := List.filter_eq_self.mpr (by simpa using hr)
    rw [List.filter_append, nothing, whole, List.nil_append]
  constructor
  · have kept := h.filter p
    rwa [first ha hb, first hc hd] at kept
  · have kept := h.filter fun x => !p x
    rwa [second ha hb, second hc hd] at kept

theorem Stop.alike_of_perm {a b : Stop α} (h : a.entries.Perm b.entries) : a.Alike b := by
  have entry_injective (tokens : List Token) :
      Function.Injective fun e : Method × α => (⟨tokens, e.1, e.2⟩ : Entry α) := by
    rintro ⟨m, x⟩ ⟨k, y⟩ same
    cases same
    rfl
  have ending (stop : Stop α) : ∀ e ∈ stop.ends.map fun e => (⟨[], e.1, e.2⟩ : Entry α),
      e.tokens.isEmpty = true := by
    intro e mem
    obtain ⟨owner, _, rfl⟩ := List.mem_map.mp mem
    rfl
  have catching (stop : Stop α) :
      ∀ e ∈ stop.catchAlls.map fun e => (⟨[.catchAll], e.1, e.2⟩ : Entry α),
        e.tokens.isEmpty = false := by
    intro e mem
    obtain ⟨owner, _, rfl⟩ := List.mem_map.mp mem
    rfl
  obtain ⟨ends, catchAlls⟩ := perm_parts h (ending a) (catching a) (ending b) (catching b)
  exact ⟨(List.map_perm_map_iff (entry_injective _)).mp ends,
    (List.map_perm_map_iff (entry_injective _)).mp catchAlls⟩

/-- What a point itself holds is told apart from what lies in its branches. -/
theorem Node.perm_entries {a b : Node α} (wfA : a.WellFormed) (wfB : b.WellFormed)
    (h : a.entries.Perm b.entries) : a.stop.Alike b.stop ∧ a.below.entries.Perm b.below.entries := by
  let here (e : Entry α) : Bool := e.tokens = [] ∨ e.tokens = [.catchAll]
  have atStop (stop : Stop α) : ∀ e ∈ stop.entries, here e = true := by
    intro e mem
    exact decide_eq_true ((Stop.mem_entries_iff.mp mem).imp And.left And.left)
  have beyond {tree : Tree α} (wf : tree.WellFormed) : ∀ e ∈ tree.entries, here e = false := by
    intro e mem
    obtain ⟨token, rest, eq, other⟩ := Tree.goesOn_of_mem_entries wf mem
    simp [here, eq, other]
  obtain ⟨stops, below⟩ :=
    perm_parts h (atStop a.stop) (beyond wfA.2) (atStop b.stop) (beyond wfB.2)
  exact ⟨Stop.alike_of_perm stops, below⟩

/-- A label cannot be longer than the entries have characters in common. -/
theorem prefix_of_perm {label other : List Char} {a b : List (Entry α)}
    (h : (a.map (Entry.after (label.map .char))).Perm (b.map (Entry.after (other.map .char))))
    (parts : ∀ c, ∃ e ∈ a, e.tokens.head? ≠ some (.char c)) : other <+: label := by
  have agree {e : Entry α} (mem : e ∈ a) :
      ∃ e' ∈ b, other.map Token.char ++ e'.tokens = label.map .char ++ e.tokens := by
    obtain ⟨e', mem', same⟩ := List.mem_map.mp (h.mem_iff.mp (List.mem_map_of_mem mem))
    exact ⟨e', mem', congrArg Entry.tokens same⟩
  have char_injective : Function.Injective Token.char := fun _ _ same => Token.char.inj same
  obtain ⟨e, mem, _⟩ := parts 'x'
  obtain ⟨e', _, same⟩ := agree mem
  have comparable := List.prefix_or_prefix_of_prefix ⟨e'.tokens, same⟩ (List.prefix_append _ _)
  simp only [List.prefix_map_iff_of_injective char_injective] at comparable
  rcases comparable with shorter | ⟨more, rfl⟩
  · exact shorter
  · cases more with
    | nil => simp
    | cons c more =>
      obtain ⟨x, here, differs⟩ := parts c
      obtain ⟨x', _, same⟩ := agree here
      rw [List.map_append, List.append_assoc, List.append_cancel_left_eq] at same
      exact absurd (congrArg List.head? same.symm) differs

namespace Tree

/-- Two trees with the same entries that begin with a branch for the same character agree in this branch
and in the rest. -/
theorem perm_of_literal {label other : List Char} {stop stop' : Stop α}
    {below below' siblings siblings' : Tree α}
    (wf : (literal label stop below siblings).WellFormed)
    (wf' : (literal other stop' below' siblings').WellFormed)
    (h : (literal label stop below siblings).entries.Perm
      (literal other stop' below' siblings').entries)
    (begins : firstToken other = firstToken label) :
    other = label ∧ stop.Alike stop' ∧ below.entries.Perm below'.entries ∧
      siblings.entries.Perm siblings'.entries := by
  obtain ⟨filled, apart, parts, wfNode, _⟩ := wellFormed_literal_iff.mp wf
  obtain ⟨filled', apart', parts', wfNode', _⟩ := wellFormed_literal_iff.mp wf'
  rw [entries_literal, entries_literal] at h
  have onBranch {front : List Char} (filled : front ≠ []) (same : firstToken front = firstToken label)
      (inner : List (Entry α)) : ∀ e ∈ inner.map (Entry.after (front.map .char)),
        decide (e.tokens.head? = firstToken label) = true := by
    intro e mem
    obtain ⟨x, _, rfl⟩ := List.mem_map.mp mem
    exact decide_eq_true ((head?_chars_append filled _).trans same)
  have beside {others : List (Entry α)} (apart : ∀ e ∈ others, e.tokens.head? ≠ firstToken label) :
      ∀ e ∈ others, decide (e.tokens.head? = firstToken label) = false :=
    fun e mem => decide_eq_false (apart e mem)
  obtain ⟨branches, rest⟩ := perm_parts h (onBranch filled rfl _) (beside apart)
    (onBranch filled' begins _) (beside (begins ▸ apart'))
  have labels : other = label := by
    have shorter := prefix_of_perm branches parts
    have longer := prefix_of_perm branches.symm parts'
    exact shorter.eq_of_length_le longer.length_le
  subst labels
  have inner := (List.map_perm_map_iff (Entry.after_injective _)).mp branches
  obtain ⟨stops, inside⟩ := Node.perm_entries wfNode wfNode' inner
  exact ⟨rfl, stops, inside, rest⟩

/-- A tree with the same entries has a branch for the first character of every label. -/
theorem exists_label_of_perm {s t : Tree α} (wfS : s.WellFormed) (wfT : t.WellFormed)
    (h : s.entries.Perm t.entries) {label : List Char} (mem : label ∈ s.labels) :
    ∃ other ∈ t.labels, firstToken other = firstToken label := by
  obtain ⟨e, here, first⟩ := (alive wfS).label label mem
  obtain ⟨c, char⟩ := exists_firstToken wfS mem
  rcases branch_of_mem_entries wfT (h.mem_iff.mp here) with ⟨other, there, same⟩ | ⟨_, other⟩
  · exact ⟨other, there, same.symm.trans first⟩
  · cases other.symm.trans (first.trans char)

/-- A well-formed tree without entries has no branches. -/
theorem eq_leaf_of_entries {tree : Tree α} (wf : tree.WellFormed) (nothing : tree.entries = []) :
    tree = leaf := by
  cases tree with
  | leaf => rfl
  | param stop below =>
    have alive := (wellFormed_param_iff.mp wf).1
    exact absurd (List.map_eq_nil_iff.mp nothing) alive
  | literal label stop below siblings =>
    obtain ⟨e, mem, _⟩ := (alive wf).label label (List.mem_cons_self ..)
    rw [nothing] at mem
    cases mem

/-- Well-formed trees with the same entries are alike. -/
theorem alike_of_perm {s t : Tree α} (wfS : s.WellFormed) (wfT : t.WellFormed)
    (h : s.entries.Perm t.entries) : s.Alike t := by
  induction s generalizing t with
  | leaf =>
    rw [eq_leaf_of_entries wfT h.symm.eq_nil]
    exact .leaf
  | param stop below ih =>
    obtain ⟨alive, _, wfNode⟩ := wellFormed_param_iff.mp wfS
    cases t with
    | leaf => exact absurd (List.map_eq_nil_iff.mp h.eq_nil) alive
    | literal label stop' below' siblings' =>
      obtain ⟨other, mem, _⟩ := exists_label_of_perm wfT wfS h.symm (List.mem_cons_self ..)
      cases mem
    | param stop' below' =>
      obtain ⟨_, _, wfNode'⟩ := wellFormed_param_iff.mp wfT
      have inner := (List.map_perm_map_iff (Entry.after_injective _)).mp h
      obtain ⟨stops, rest⟩ := Node.perm_entries wfNode wfNode' inner
      exact .param stops (ih wfNode.2 wfNode'.2 rest)
  | literal label stop below siblings ihBelow ihSiblings =>
    obtain ⟨_, _, _, wfNode, wfSiblings⟩ := wellFormed_literal_iff.mp wfS
    -- The branch of `t` for the first character of the label is brought to the front.
    obtain ⟨other, mem, begins⟩ := exists_label_of_perm wfS wfT h (List.mem_cons_self ..)
    obtain ⟨stop', below', siblings', front⟩ := exists_alike_front mem
    have wfFront := front.wellFormed wfT
    obtain ⟨_, _, _, wfNode', wfSiblings'⟩ := wellFormed_literal_iff.mp wfFront
    obtain ⟨rfl, stops, inside, rest⟩ := perm_of_literal wfS wfFront (h.trans front.entries) begins
    have alike := Alike.literal other stops (ihBelow wfNode.2 wfNode'.2 inside)
      (ihSiblings wfSiblings wfSiblings' rest)
    exact alike.trans front.symm

end Tree

theorem Node.alike_of_perm {a b : Node α} (wfA : a.WellFormed) (wfB : b.WellFormed)
    (h : a.entries.Perm b.entries) : a.Alike b := by
  obtain ⟨stops, below⟩ := perm_entries wfA wfB h
  exact ⟨stops, Tree.alike_of_perm wfA.2 wfB.2 below⟩

namespace Tree

theorem labels_map (g : α → β) (tree : Tree α) : (tree.map g).labels = tree.labels := by
  induction tree with
  | leaf => rfl
  | param => rfl
  | literal label _ _ _ _ ih => exact congrArg (label :: ·) ih

theorem hasParam_map (g : α → β) (tree : Tree α) : (tree.map g).hasParam = tree.hasParam := by
  induction tree with
  | leaf => rfl
  | param => rfl
  | literal _ _ _ _ _ ih => exact ih

end Tree

theorem Stop.hasOwners_map (g : α → β) {stop : Stop α} (h : stop.HasOwners) :
    (stop.map g).HasOwners := by
  unfold HasOwners map
  rw [List.map_map, List.map_map]
  exact h

theorem Tree.wellFormed_map (g : α → β) {tree : Tree α} (wf : tree.WellFormed) :
    (tree.map g).WellFormed := by
  induction tree with
  | leaf => trivial
  | param stop below ih =>
    obtain ⟨owners, noCatchAll, alive, noParam, slashes, wfBelow⟩ := wf
    refine ⟨Stop.hasOwners_map g owners, ?_, ?_, ?_, ?_, ih wfBelow⟩
    · exact List.map_eq_nil_iff.mpr noCatchAll
    · rw [labels_map]
      exact alive.imp_left fun ends empty => ends (List.map_eq_nil_iff.mp empty)
    · rwa [hasParam_map]
    · rwa [labels_map]
  | literal label stop below siblings ihBelow ihSiblings =>
    obtain ⟨filled, apart, owners, parts, wfBelow, wfSiblings⟩ := wf
    refine ⟨filled, ?_, Stop.hasOwners_map g owners, ?_, ihBelow wfBelow, ihSiblings wfSiblings⟩
    · rwa [labels_map]
    · unfold Parts at parts ⊢
      rw [labels_map, hasParam_map]
      exact parts.imp_left fun occupied empty =>
        occupied ⟨List.map_eq_nil_iff.mp empty.1, List.map_eq_nil_iff.mp empty.2⟩

namespace Node

/-- The labels, branches and methods of a tree, without what is registered for them. -/
def bare (node : Node α) : Node Unit := node.map fun _ => ()

theorem bare_wellFormed {node : Node α} (wf : node.WellFormed) : node.bare.WellFormed :=
  ⟨Stop.hasOwners_map _ wf.1, Tree.wellFormed_map _ wf.2⟩

end Node

end RequestDispatch.Routing
