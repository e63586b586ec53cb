import Mathlib.Data.List.Nodup
import Mathlib.Data.List.Perm.Basic
import RequestDispatch.Routing.Outline
import RequestDispatch.Proofs.Routing.Canonicity

/-!
# Outlines of alike trees

Alike trees have the same lines up to the order of the methods in one pair of brackets
(`Node.Alike.outline`).  Siblings are sorted by their labels, and no two have the same label, so the
order in which they stand in the tree does not show.
-/

namespace RequestDispatch.Routing

variable {α : Type}

/-- The lines differ at most in the order of their methods. -/
structure OutlineLine.Alike (a b : OutlineLine) : Prop where
  depth : a.depth = b.depth
  label : a.label = b.label
  methods : a.methods.Perm b.methods

theorem OutlineLine.Alike.refl (line : OutlineLine) : line.Alike line := ⟨rfl, rfl, List.Perm.refl _⟩

theorem OutlineLine.Alike.trans {a b c : OutlineLine} (h : a.Alike b) (k : b.Alike c) : a.Alike c :=
  ⟨h.depth.trans k.depth, h.label.trans k.label, h.methods.trans k.methods⟩

/-- Line by line alike. -/
abbrev LinesAlike (a b : List OutlineLine) : Prop := List.Forall₂ OutlineLine.Alike a b

theorem LinesAlike.refl (lines : List OutlineLine) : LinesAlike lines lines :=
  List.forall₂_same.mpr fun line _ => .refl line

theorem forall₂_trans {β : Type} {R : β → β → Prop} {a b c : List β} (h : List.Forall₂ R a b)
    (k : List.Forall₂ R b c) (trans : ∀ x y z, R x y → R y z → R x z) : List.Forall₂ R a c := by
  induction h generalizing c with
  | nil =>
    cases k
    exact .nil
  | cons first _ ih =>
    cases k with
    | cons second more => exact .cons (trans _ _ _ first second) (ih more)

theorem LinesAlike.trans {a b c : List OutlineLine} (h : LinesAlike a b) (k : LinesAlike b c) :
    LinesAlike a c :=
  forall₂_trans h k fun _ _ _ => .trans

/-- The lines of a literal branch under its label. -/
abbrev Branch := List Char × List OutlineLine

/-- One label, and lines that are alike. -/
structure BranchesAlike (a b : Branch) : Prop where
  label : a.1 = b.1
  lines : LinesAlike a.2 b.2

theorem BranchesAlike.trans {a b c : Branch} (h : BranchesAlike a b) (k : BranchesAlike b c) :
    BranchesAlike a c :=
  ⟨h.label.trans k.label, h.lines.trans k.lines⟩

/-- The branches correspond in some order. -/
structure Outline.Alike (a b : Outline) : Prop where
  literals : ∃ between, a.literals.Perm between ∧ List.Forall₂ BranchesAlike between b.literals
  param : LinesAlike a.param b.param

theorem Outline.Alike.trans {a b c : Outline} (h : a.Alike b) (k : b.Alike c) : a.Alike c := by
  obtain ⟨m, perm, alike⟩ := h.literals
  obtain ⟨n, perm', alike'⟩ := k.literals
  -- The second rearrangement is done before the first change of lines.
  obtain ⟨l, before, after⟩ :=
    (congrFun (congrFun List.forall₂_comp_perm_eq_perm_comp_forall₂ m) n).mp ⟨_, alike, perm'⟩
  have alike := forall₂_trans after alike' fun _ _ _ => .trans
  exact ⟨⟨l, perm.trans before, alike⟩, h.param.trans k.param⟩

theorem labels_eq {a b : List Branch} (h : List.Forall₂ BranchesAlike a b) :
    a.map Prod.fst = b.map Prod.fst := by
  induction h with
  | nil => rfl
  | cons first _ ih => rw [List.map_cons, List.map_cons, first.label, ih]

theorem linesAlike_flatMap {a b : List Branch} (h : List.Forall₂ BranchesAlike a b) :
    LinesAlike (a.flatMap Prod.snd) (b.flatMap Prod.snd) := by
  induction h with
  | nil => exact .nil
  | cons first _ ih => exact List.rel_append first.lines ih

/-- The branches in ascending order of their labels, as an outline lists them. -/
abbrev sortBranches (branches : List Branch) : List Branch :=
  branches.mergeSort fun a b => String.ofList a.1 ≤ String.ofList b.1

/-- Their labels ascend. -/
def Ascending (branches : List Branch) : Prop :=
  branches.Pairwise fun a b => String.ofList a.1 ≤ String.ofList b.1

theorem ascending_sortBranches (branches : List Branch) : Ascending (sortBranches branches) := by
  have sorted := @List.pairwise_mergeSort _
    (fun a b : Branch => String.ofList a.1 ≤ String.ofList b.1) ?_ ?_ branches
  · exact sorted.imp of_decide_eq_true
  · intro a b c first second
    rw [decide_eq_true_eq] at first second ⊢
    exact String.le_trans first second
  · intro a b
    rw [Bool.or_eq_true, decide_eq_true_eq, decide_eq_true_eq]
    exact String.le_total _ _

theorem Ascending.of_labels {a b : List Branch} (h : Ascending a)
    (same : a.map Prod.fst = b.map Prod.fst) : Ascending b := by
  have ascending_iff (branches : List Branch) : Ascending branches ↔
      (branches.map Prod.fst).Pairwise fun x y => String.ofList x ≤ String.ofList y := by
    rw [Ascending, List.pairwise_map]
  rw [ascending_iff] at h ⊢
  exact same ▸ h

/-- Branches with distinct labels have one ascending order. -/
theorem Ascending.eq_of_perm {a b : List Branch} (ha : Ascending a) (hb : Ascending b)
    (h : a.Perm b) (distinct : (a.map Prod.fst).Nodup) : a = b := by
  refine List.Perm.eq_of_pairwise ?_ ha hb h
  intro x y hx hy forward backward
  have labels : x.1 = y.1 := String.ofList_injective (String.le_antisymm forward backward)
  exact List.inj_on_of_nodup_map distinct hx (h.mem_iff.mpr hy) labels

/-- Sorting brings corresponding branches to the same place. -/
theorem sortBranches_alike {a between b : List Branch} (h : a.Perm between)
    (alike : List.Forall₂ BranchesAlike between b) (distinct : (a.map Prod.fst).Nodup) :
    List.Forall₂ BranchesAlike (sortBranches a) (sortBranches b) := by
  have sorted : (sortBranches a).Perm a := List.mergeSort_perm _ _
  obtain ⟨found, alike, perm⟩ := List.perm_comp_forall₂ (sorted.trans h) alike
  have labels := labels_eq alike
  have ascending := (ascending_sortBranches a).of_labels labels
  have distinct : (found.map Prod.fst).Nodup :=
    labels ▸ (sorted.map Prod.fst).nodup_iff.mpr distinct
  have same : found = sortBranches b :=
    ascending.eq_of_perm (ascending_sortBranches b) (perm.trans (List.mergeSort_perm _ _).symm)
      distinct
  exact same ▸ alike

theorem Stop.Alike.outline {a b : Stop α} {below other : Outline} (stops : a.Alike b)
    (h : below.Alike other) (distinct : (below.literals.map Prod.fst).Nodup) (depth : Nat)
    (label : String) :
    LinesAlike (a.outline depth label below) (b.outline depth label other) := by
  obtain ⟨between, perm, alike⟩ := h.literals
  have branches := linesAlike_flatMap (sortBranches_alike perm alike distinct)
  have catchAlls : LinesAlike
      (if a.catchAlls.isEmpty then [] else [⟨depth + 1, "*catch-all", a.catchAlls.map Prod.fst⟩])
      (if b.catchAlls.isEmpty then [] else [⟨depth + 1, "*catch-all", b.catchAlls.map Prod.fst⟩]) := by
    have same : a.catchAlls.isEmpty = b.catchAlls.isEmpty := by
      rw [Bool.eq_iff_iff, List.isEmpty_iff, List.isEmpty_iff]
      exact ⟨fun nothing => (nothing ▸ stops.catchAlls.symm).eq_nil,
        fun nothing => (nothing ▸ stops.catchAlls).eq_nil⟩
    rw [same]
    split
    · exact .nil
    · exact .cons ⟨rfl, rfl, stops.catchAlls.map _⟩ .nil
  refine .cons ⟨rfl, rfl, stops.ends.map _⟩ ?_
  exact List.rel_append (List.rel_append branches h.param) catchAlls

namespace Tree

theorem labels_outline (depth : Nat) (tree : Tree α) :
    (tree.outline depth).literals.map Prod.fst = tree.labels := by
  induction tree with
  | leaf => rfl
  | param => rfl
  | literal label stop below siblings _ ih => exact congrArg (label :: ·) ih

theorem nodup_labels {tree : Tree α} (wf : tree.WellFormed) : tree.labels.Nodup :=
  (labels_apart wf).imp fun apart same => apart (congrArg List.head? same)

theorem Alike.outline {s t : Tree α} (h : s.Alike t) (wf : s.WellFormed) (depth : Nat) :
    (s.outline depth).Alike (t.outline depth) := by
  induction h generalizing depth with
  | leaf => exact ⟨⟨[], List.Perm.refl _, .nil⟩, .nil⟩
  | param stops below ih =>
    obtain ⟨_, _, _, _, _, wfBelow⟩ := wf
    refine ⟨⟨[], List.Perm.refl _, .nil⟩, stops.outline (ih wfBelow _) ?_ _ _⟩
    exact labels_outline _ _ ▸ nodup_labels wfBelow
  | literal label stops below siblings ihBelow ihSiblings =>
    obtain ⟨_, _, _, _, wfBelow, wfSiblings⟩ := wf
    have inside := stops.outline (ihBelow wfBelow (depth + 1))
      (labels_outline _ _ ▸ nodup_labels wfBelow) depth (Text.quoted (String.ofList label))
    obtain ⟨⟨between, perm, alike⟩, param⟩ := ihSiblings wfSiblings depth
    exact ⟨⟨_, perm.cons _, .cons ⟨rfl, inside⟩ alike⟩, param⟩
  | swap label other a b s t siblings =>
    refine ⟨⟨_, List.Perm.swap .., ?_⟩, .refl _⟩
    exact List.forall₂_same.mpr fun branch _ => ⟨rfl, .refl _⟩
  | trans first second ihFirst ihSecond =>
    exact (ihFirst wf depth).trans (ihSecond (first.wellFormed wf) depth)

end Tree

theorem Node.Alike.outline {a b : Node α} (h : a.Alike b) (wf : a.WellFormed) :
    LinesAlike a.outline b.outline := by
  refine h.stop.outline (h.below.outline wf.2 1) ?_ 0 _
  exact Tree.labels_outline _ _ ▸ Tree.nodup_labels wf.2

end RequestDispatch.Routing
