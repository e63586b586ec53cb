import RequestDispatch.Proofs.Routing.OutlineOrder
import RequestDispatch.Proofs.Routing.Submissions

/-!
# The points of a tree

A tree as the list of its points, each with the label that leads to it, what is registered there and the
branches below it.  These are the lines that an outline prints (`Node.outline_perm_points`).  After any
calls each of them is sound (`Router.points_sound`): labels are as long as they can be, siblings part at
their first character, and no branch is dead.
-/

namespace RequestDispatch.Routing

variable {α : Type}

inductive PointKind where
  | root
  | literal
  | param
  | catchAll

/-- What an outline prints for a point. -/
def PointKind.caption (label : List Char) : PointKind → String
  | .root | .literal => Text.quoted (String.ofList label)
  | .param => ":param"
  | .catchAll => "*catch-all"

/-- One point of a tree, with the labels of the literal branches below it. -/
structure Point (α : Type) where
  depth : Nat
  kind : PointKind
  label : List Char
  endpoints : List (Method × α)
  literals : List (List Char)
  hasParam : Bool
  hasCatchAll : Bool

namespace Point

def IsLeaf (point : Point α) : Prop :=
  point.literals = [] ∧ point.hasParam = false ∧ point.hasCatchAll = false

/-- What holds of every point between two calls. -/
structure Sound (point : Point α) : Prop where
  /-- Literal branches have a label, and nothing else has. -/
  label : point.label ≠ [] ↔ point.kind = .literal
  siblings : point.literals.Pairwise fun a b => a.head? ≠ b.head?
  catchAll : point.kind = .catchAll → point.IsLeaf ∧ point.endpoints ≠ []
  /-- No branch is dead. -/
  leaf : point.IsLeaf → point.endpoints ≠ [] ∨ point.kind = .root
  /-- No label could be longer. -/
  maximal : point.kind = .literal → point.endpoints = [] → point.hasParam = false →
    point.hasCatchAll = false → 2 ≤ point.literals.length
  param : point.kind = .param → point.hasParam = false ∧ point.hasCatchAll = false ∧
    ∀ label ∈ point.literals, label.head? = some '/'
  owners : (point.endpoints.map Prod.fst).Nodup

/-- The line of an outline that shows the point. -/
def line (point : Point α) : OutlineLine :=
  ⟨point.depth, point.kind.caption point.label, point.endpoints.map Prod.fst⟩

end Point

namespace Stop

/-- The point of the catch-alls, if there are any. -/
def catchAllPoints (depth : Nat) (stop : Stop α) : List (Point α) :=
  if stop.catchAlls.isEmpty then []
  else [⟨depth, .catchAll, [], stop.catchAlls, [], false, false⟩]

def point (depth : Nat) (kind : PointKind) (label : List Char) (stop : Stop α) (below : Tree α) :
    Point α :=
  ⟨depth, kind, label, stop.ends, below.labels, below.hasParam, !stop.catchAlls.isEmpty⟩

end Stop

/-- The points of the branches at a point; their own stand at `depth`. -/
def Tree.points (depth : Nat) : Tree α → List (Point α)
  | .leaf => []
  | .param stop below =>
    stop.point depth .param [] below :: (below.points (depth + 1) ++ stop.catchAllPoints (depth + 1))
  | .literal label stop below siblings =>
    stop.point depth .literal label below ::
      (below.points (depth + 1) ++ stop.catchAllPoints (depth + 1)) ++ siblings.points depth

/-- The points of a whole tree. -/
def Node.points (root : Node α) : List (Point α) :=
  root.stop.point 0 .root [] root.below :: (root.below.points 1 ++ root.stop.catchAllPoints 1)

/-- The lines of a point are its own and those of what lies below it. -/
theorem Stop.outline_perm (stop : Stop α) (depth : Nat) (kind : PointKind) (label : List Char)
    {below : Tree α} (inside : ((below.outline (depth + 1)).literals.flatMap Prod.snd ++
      (below.outline (depth + 1)).param).Perm ((below.points (depth + 1)).map Point.line)) :
    (stop.outline depth (kind.caption label) (below.outline (depth + 1))).Perm
      ((stop.point depth kind label below ::
        (below.points (depth + 1) ++ stop.catchAllPoints (depth + 1))).map Point.line) := by
  have sorted := List.mergeSort_perm (below.outline (depth + 1)).literals
    fun a b => String.ofList a.1 ≤ String.ofList b.1
  have catchAlls : (if stop.catchAlls.isEmpty then []
      else [⟨depth + 1, "*catch-all", stop.catchAlls.map Prod.fst⟩]) =
        (stop.catchAllPoints (depth + 1)).map Point.line := by
    unfold catchAllPoints
    split <;> rfl
  rw [List.map_cons, List.map_append, ← catchAlls]
  exact ((((sorted.flatMap_right _).append_right _).trans inside).append_right _).cons _

theorem Tree.outline_perm_points (depth : Nat) (tree : Tree α) :
    ((tree.outline depth).literals.flatMap Prod.snd ++ (tree.outline depth).param).Perm
      ((tree.points depth).map Point.line) := by
  induction tree generalizing depth with
  | leaf => exact List.Perm.refl _
  | param stop below ih => exact stop.outline_perm depth .param [] (ih _)
  | literal label stop below siblings ihBelow ihSiblings =>
    rw [points, List.map_append, outline, List.flatMap_cons, List.append_assoc]
    exact (stop.outline_perm depth .literal label (ihBelow _)).append (ihSiblings depth)

/-- An outline has one line for every point. -/
theorem Node.outline_perm_points (root : Node α) :
    root.outline.Perm (root.points.map Point.line) :=
  root.stop.outline_perm 0 .root [] (Tree.outline_perm_points 1 root.below)

theorem Stop.catchAllPoints_sound {stop : Stop α} (owners : stop.HasOwners) (depth : Nat) :
    ∀ point ∈ stop.catchAllPoints depth, point.Sound := by
  unfold catchAllPoints
  split
  · simp
  · rename_i occupied
    have occupied : stop.catchAlls ≠ [] := by simpa using occupied
    intro point mem
    rw [List.mem_singleton] at mem
    subst mem
    exact {
      label := by simp
      siblings := .nil
      catchAll := fun _ => ⟨⟨rfl, rfl, rfl⟩, occupied⟩
      leaf := fun _ => .inl occupied
      maximal := nofun
      param := nofun
      owners := owners.2 }

namespace Tree

theorem point_sound_of_param {stop : Stop α} {below : Tree α} (wf : (param stop below).WellFormed)
    (depth : Nat) : (stop.point depth .param [] below).Sound := by
  obtain ⟨owners, noCatchAll, something, noParam, slashes, wfBelow⟩ := wf
  exact {
    label := by simp [Stop.point]
    siblings := labels_apart wfBelow
    catchAll := nofun
    leaf := fun leaf => .inl (something.resolve_right (not_not.mpr leaf.1))
    maximal := nofun
    param := fun _ => ⟨noParam, by simp [Stop.point, noCatchAll], slashes⟩
    owners := owners.1 }

theorem point_sound_of_literal {label : List Char} {stop : Stop α} {below siblings : Tree α}
    (wf : (literal label stop below siblings).WellFormed) (depth : Nat) :
    (stop.point depth .literal label below).Sound := by
  obtain ⟨filled, _, owners, parts, wfBelow, _⟩ := wf
  have parts {point : Point α} (same : point = stop.point depth .literal label below)
      (none : point.endpoints = []) (noParam : point.hasParam = false)
      (noCatchAll : point.hasCatchAll = false) : 2 ≤ point.literals.length := by
    subst same
    have empty : stop.IsEmpty := ⟨none, by simpa [Stop.point] using noCatchAll⟩
    exact (parts.resolve_left (not_not.mpr empty)).resolve_left (by simp_all [Stop.point])
  exact {
    label := by simp [Stop.point, filled]
    siblings := labels_apart wfBelow
    catchAll := nofun
    leaf := fun ⟨noLiterals, noParam, noCatchAll⟩ => by
      left
      intro none
      have several := parts rfl none noParam noCatchAll
      rw [noLiterals] at several
      simp at several
    maximal := fun _ => parts rfl
    param := nofun
    owners := owners.1 }

theorem points_sound {tree : Tree α} (wf : tree.WellFormed) (depth : Nat) :
    ∀ point ∈ tree.points depth, point.Sound := by
  induction tree generalizing depth with
  | leaf => simp [points]
  | param stop below ih =>
    have here := point_sound_of_param wf depth
    obtain ⟨owners, _, _, _, _, wfBelow⟩ := wf
    simp only [points, List.forall_mem_cons, List.forall_mem_append]
    exact ⟨here, ih wfBelow _, Stop.catchAllPoints_sound owners _⟩
  | literal label stop below siblings ihBelow ihSiblings =>
    have here := point_sound_of_literal wf depth
    obtain ⟨_, _, owners, _, wfBelow, wfSiblings⟩ := wf
    simp only [points, List.forall_mem_cons, List.forall_mem_append, List.cons_append]
    exact ⟨here, ⟨ihBelow wfBelow _, Stop.catchAllPoints_sound owners _⟩,
      ihSiblings wfSiblings depth⟩

end Tree

theorem Node.points_sound {root : Node α} (wf : root.WellFormed) :
    ∀ point ∈ root.points, point.Sound := by
  obtain ⟨owners, wfBelow⟩ := wf
  simp only [points, List.forall_mem_cons, List.forall_mem_append]
  refine ⟨?_, Tree.points_sound wfBelow 1, Stop.catchAllPoints_sound owners 1⟩
  exact {
    label := by simp [Stop.point]
    siblings := Tree.labels_apart wfBelow
    catchAll := nofun
    leaf := fun _ => .inr rfl
    maximal := nofun
    param := nofun
    owners := owners.1 }

theorem Stop.kind_of_mem_catchAllPoints {stop : Stop α} {depth : Nat} {point : Point α}
    (mem : point ∈ stop.catchAllPoints depth) : point.kind = .catchAll := by
  unfold catchAllPoints at mem
  split at mem
  · cases mem
  · rw [List.mem_singleton.mp mem]

theorem Tree.kind_ne_root {tree : Tree α} {depth : Nat} {point : Point α}
    (mem : point ∈ tree.points depth) : point.kind ≠ .root := by
  have catchAlls {stop : Stop α} {depth : Nat} (here : point ∈ stop.catchAllPoints depth) :
      point.kind ≠ .root := by
    rw [Stop.kind_of_mem_catchAllPoints here]
    exact nofun
  induction tree generalizing depth with
  | leaf => cases mem
  | param stop below ih =>
    rcases List.mem_cons.mp mem with rfl | mem
    · exact nofun
    · exact (List.mem_append.mp mem).elim ih catchAlls
  | literal label stop below siblings ihBelow ihSiblings =>
    rcases List.mem_append.mp mem with mem | mem
    · rcases List.mem_cons.mp mem with rfl | mem
      · exact nofun
      · exact (List.mem_append.mp mem).elim ihBelow catchAlls
    · exact ihSiblings mem

/-- A leaf at which nothing is registered is the root of a tree that holds nothing. -/
theorem Node.entries_eq_nil_of_bare_leaf {root : Node α} (wf : root.WellFormed) {point : Point α}
    (mem : point ∈ root.points) (leaf : point.IsLeaf) (bare : point.endpoints = []) :
    root.entries = [] := by
  have isRoot : point.kind = .root :=
    ((points_sound wf point mem).leaf leaf).resolve_left (not_not.mpr bare)
  rcases List.mem_cons.mp mem with rfl | mem
  · obtain ⟨noLiterals, noParam, noCatchAll⟩ := leaf
    have empty : root.stop.IsEmpty := ⟨bare, by simpa [Stop.point] using noCatchAll⟩
    have below : root.below = .leaf := by
      cases eq : root.below with
      | leaf => rfl
      | param stop below => simp [Stop.point, eq, Tree.hasParam] at noParam
      | literal label stop below siblings => simp [Stop.point, eq, Tree.labels] at noLiterals
    rw [entries, Stop.entries_eq_nil_iff.mpr empty, below]
    rfl
  · rcases List.mem_append.mp mem with mem | mem
    · exact absurd isRoot (Tree.kind_ne_root mem)
    · rw [Stop.kind_of_mem_catchAllPoints mem] at isRoot
      cases isRoot

/-- After any calls every point of the tree is sound, and a leaf at which nothing is registered is the
root of an empty router.  The points are those that an outline shows. -/
theorem Router.every_point_sound (calls : List (Submission α)) :
    let root := (empty.addAll calls).root
    (∀ point ∈ root.points, point.Sound) ∧
      (∀ point ∈ root.points, point.IsLeaf → point.endpoints = [] →
        point.kind = .root ∧ empty.accepted calls = []) ∧
      root.outline.Perm (root.points.map Point.line) := by
  intro root
  have holds := holds_accepted calls
  have sound := Node.points_sound holds.wellFormed
  refine ⟨sound, fun point mem leaf bare => ?_, root.outline_perm_points⟩
  have nothing : root.entries = [] :=
    Node.entries_eq_nil_of_bare_leaf holds.wellFormed mem leaf bare
  have entries := holds.entries
  rw [nothing] at entries
  exact ⟨((sound point mem).leaf leaf).resolve_left (not_not.mpr bare),
    List.map_eq_nil_iff.mp entries.nil_eq.symm⟩

/-- A label is cut where two templates part, and what follows a parameter begins with a slash. -/
example :
    let calls : List (Submission Nat) :=
      [⟨.get, "/users/:id", "show", 0⟩, ⟨.get, "/uploads", "list", 1⟩, ⟨.get, "/users/:id/x", "x", 2⟩]
    (Router.empty.addAll calls).root.points.map (fun point => (point.depth, point.label)) =
      [(0, []), (1, ['/', 'u']), (2, ['s', 'e', 'r', 's', '/']), (3, []), (4, ['/', 'x']),
        (2, ['p', 'l', 'o', 'a', 'd', 's'])] := by
  rfl

end RequestDispatch.Routing
