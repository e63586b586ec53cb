import RequestDispatch.Routing.Contents

/-!
# Labels that are cut

Cutting the label of a literal branch moves all that the branch holds one point down, under the rest of the
label.  The new point can be reached where the whole label did not fit; nothing is registered there, and the
only branch below it fails there, so a search that gets that far goes on beside it.  As no sibling begins
alike, it finds there what it would have found before (`Tree.search_cut`).  Hence no search from any point
above can tell whether the label has been cut (`Node.search_splitAt`).
-/

namespace RequestDispatch.Routing

variable {α : Type}

/-- Both texts begin with a character, and not with the same one. -/
def BeginApart (text other : List Char) : Prop :=
  ∃ c d, text.head? = some c ∧ other.head? = some d ∧ c ≠ d

namespace BeginApart

variable {text front back : List Char}

/-- How a text begins is settled by any part of it that begins it. -/
theorem append_iff (filled : front ≠ []) :
    BeginApart text (front ++ back) ↔ BeginApart text front := by
  obtain ⟨c, front, rfl⟩ := List.exists_cons_of_ne_nil filled
  exact Iff.rfl

/-- A text does not fit where another one begins. -/
theorem after?_eq_none {rest : List Char} (apart : BeginApart text rest) : after? text rest = none := by
  obtain ⟨c, d, begins, other, different⟩ := apart
  obtain ⟨_, rfl⟩ := List.head?_eq_some_iff.mp begins
  obtain ⟨_, rfl⟩ := List.head?_eq_some_iff.mp other
  simp [after?, different]

end BeginApart

/-- A literal branch by itself: its label, and the point to which it leads. -/
structure LiteralBranch (α : Type) where
  label : List Char
  node : Node α

namespace LiteralBranch

/-- The branch as the first one of a point, with its later siblings. -/
def beside (b : LiteralBranch α) (siblings : Tree α) : Tree α :=
  .literal b.label b.node.stop b.node.below siblings

/-- The branch with its label cut at a byte offset: what it held is under the rest of the label.  There is
no such branch where the offset is not between two characters. -/
def splitAt? (offset : Nat) (b : LiteralBranch α) : Option (LiteralBranch α) :=
  (Utf8.take? offset b.label).bind fun front =>
    (Utf8.drop? offset b.label).map fun back => ⟨front, .split back b.node⟩

theorem splitAt?_width (front back : List Char) (node : Node α) :
    splitAt? (Utf8.width front) ⟨front ++ back, node⟩ = some ⟨front, .split back node⟩ := by
  simp [splitAt?, Utf8.take?_width, Utf8.drop?_width]

theorem splitAt?_eq_some_iff {offset : Nat} {b b' : LiteralBranch α} :
    b.splitAt? offset = some b' ↔
      ∃ back, b.label = b'.label ++ back ∧ offset = Utf8.width b'.label ∧ b'.node = .split back b.node := by
  constructor
  · intro split
    obtain ⟨front, taken, split⟩ := Option.bind_eq_some_iff.mp split
    obtain ⟨back, dropped, rfl⟩ := Option.map_eq_some_iff.mp split
    obtain ⟨rest, label, rfl⟩ := Utf8.take?_eq_some_iff.mp taken
    rw [label, Utf8.drop?_width] at dropped
    cases dropped
    exact ⟨back, label, rfl, rfl⟩
  · rintro ⟨back, label, rfl, node⟩
    have cut := splitAt?_width b'.label back b.node
    rw [← label, ← node] at cut
    exact cut

end LiteralBranch

namespace Tree

/-- At every point of the tree the literal branches begin with different characters. -/
def SiblingsApart : Tree α → Prop
  | .leaf => True
  | .param _ below => SiblingsApart below
  | .literal label _ below siblings =>
    (∀ other ∈ siblings.labels, BeginApart other label) ∧ SiblingsApart below ∧ SiblingsApart siblings

/-- The second tree is the first one with the literal branch `b`, at the top or at any point further below,
replaced by `b'`. -/
inductive Replaces (b b' : LiteralBranch α) : Tree α → Tree α → Prop
  | here (siblings : Tree α) : Replaces b b' (b.beside siblings) (b'.beside siblings)
  | sibling (label : List Char) (stop : Stop α) (below : Tree α) {siblings siblings' : Tree α}
      (later : Replaces b b' siblings siblings') :
      Replaces b b' (.literal label stop below siblings) (.literal label stop below siblings')
  | literal (label : List Char) (stop : Stop α) {below below' : Tree α} (siblings : Tree α)
      (inside : Replaces b b' below below') :
      Replaces b b' (.literal label stop below siblings) (.literal label stop below' siblings)
  | param (stop : Stop α) {below below' : Tree α} (inside : Replaces b b' below below') :
      Replaces b b' (.param stop below) (.param stop below')

variable {m : Method} {rest : List Char} {pos : Nat} {f : Findings}

/-- Where no label fits it makes no difference whether the literal branches are passed over. -/
theorem search_unfit {tree : Tree α} (unfit : ∀ label ∈ tree.labels, after? label rest = none)
    (tried : Bool) : search m rest pos tried tree f = search m rest pos true tree f := by
  induction tree with
  | leaf => rfl
  | param stop below => rfl
  | literal label stop below siblings _ ih =>
    obtain ⟨here, later⟩ := List.forall_mem_cons.mp unfit
    have skipped : (if tried then none else after? label rest) = none := by simp [here]
    simp only [search, skipped]
    exact ih later

theorem after?_append (front back rest : List Char) :
    after? (front ++ back) rest = (after? front rest).bind (after? back) := by
  induction front generalizing rest with
  | nil => rfl
  | cons c front ih =>
    cases rest with
    | nil => rfl
    | cons d rest =>
      by_cases same : c = d
      · simp [after?, same, ih]
      · simp [after?, same]

end Tree

theorem Findings.truncate_self (f : Findings) : f.truncate f.captures.ranges.length = f := by
  simp [truncate, Captures.truncate]

theorem Findings.truncate_truncate (f : Findings) (count : Nat) :
    (f.truncate count).truncate count = f.truncate count := by
  simp [truncate, Captures.truncate, List.take_take]

/-- At a point at which nothing is registered only the branches below are asked. -/
theorem Node.visit_empty {m : Method} {rest : List Char} (more : rest ≠ []) (pos : Nat) (f : Findings)
    (deeper : Findings → Option α × Findings) : visit m .empty rest pos f deeper = deeper f := by
  have ongoing : rest.isEmpty = false := by simpa using more
  unfold visit
  rw [ongoing]
  rcases deeper f with ⟨_ | a, g⟩ <;> rfl

theorem Node.visit_empty_nil (m : Method) (pos : Nat) (f : Findings)
    (deeper : Findings → Option α × Findings) : visit m .empty [] pos f deeper = (none, f) := rfl

namespace Tree

variable {m : Method} {rest : List Char} {pos : Nat} {f : Findings}

section Fitting

variable {label left : List Char} {stop : Stop α} {below : Tree α} {g : Findings}

/-- A label that fits is taken, unless another one has been. -/
theorem search_fit_found {a : α}
    (found : Node.visit m stop left (pos + Utf8.width label) f
      (search m left (pos + Utf8.width label) false below) = (some a, g)) (siblings : Tree α) :
    search m (label ++ left) pos false (literal label stop below siblings) f = (some a, g) := by
  have fits : after? label (label ++ left) = some left := (after?_eq_some_iff ..).mpr rfl
  simp only [search, Bool.false_eq_true, if_false, fits, found]

/-- What stands beside a label that fits is asked if nothing comes of it. -/
theorem search_fit_failed
    (failed : Node.visit m stop left (pos + Utf8.width label) f
      (search m left (pos + Utf8.width label) false below) = (none, g)) (siblings : Tree α) :
    search m (label ++ left) pos false (literal label stop below siblings) f =
      search m (label ++ left) pos true siblings (g.truncate f.captures.ranges.length) := by
  have fits : after? label (label ++ left) = some left := (after?_eq_some_iff ..).mpr rfl
  simp only [search, Bool.false_eq_true, if_false, fits, failed]

end Fitting

theorem search_of_unfit {label : List Char} (unfit : after? label rest = none) (tried : Bool)
    (stop : Stop α) (below siblings : Tree α) :
    search m rest pos tried (literal label stop below siblings) f =
      search m rest pos tried siblings f := by
  simp only [search, unfit, ite_self]

/-- A search of the branches of a point does the same whether or not the label of the first of them is cut.
The new point is reached by paths that begin with the front of the label only; nothing comes of it then, and
the siblings, which are passed over, do not fit either. -/
theorem search_cut {front back : List Char} (filled : front ≠ []) (cut : back ≠ []) (node : Node α)
    {siblings : Tree α} (apart : ∀ other ∈ siblings.labels, BeginApart other front) (tried : Bool) :
    search m rest pos tried (LiteralBranch.beside ⟨front, .split back node⟩ siblings) f =
      search m rest pos tried (LiteralBranch.beside ⟨front ++ back, node⟩ siblings) f := by
  unfold LiteralBranch.beside Node.split
  cases tried with
  | true => rfl
  | false =>
    have whole : after? (front ++ back) rest = (after? front rest).bind (after? back) :=
      after?_append front back rest
    cases begins : after? front rest with
    | none =>
      rw [begins] at whole
      rw [search_of_unfit begins, search_of_unfit whole]
    | some left =>
      rw [begins] at whole
      obtain rfl := (after?_eq_some_iff front rest left).mp begins
      have passed (g : Findings) :
          search m (front ++ left) pos false siblings g = search m (front ++ left) pos true siblings g := by
        refine search_unfit (fun other mem => BeginApart.after?_eq_none ?_) false
        exact (BeginApart.append_iff filled).mpr (apart other mem)
      cases goesOn : after? back left with
      | none =>
        have nothing : Node.visit m .empty left (pos + Utf8.width front) f
            (search m left (pos + Utf8.width front) false (literal back node.stop node.below leaf)) =
              (none, f) := by
          cases left with
          | nil => exact Node.visit_empty_nil m _ f _
          | cons c left =>
            rw [Node.visit_empty (List.cons_ne_nil c left), search_of_unfit goesOn]
            rfl
        rw [search_fit_failed nothing, search_of_unfit (whole.trans goesOn), passed, Findings.truncate_self]
      | some last =>
        obtain rfl := (after?_eq_some_iff back left last).mp goesOn
        have more : back ++ last ≠ [] := by simp [cut]
        -- the end of the label is reached in one step or in two, at the same place
        have asked := Node.visit_empty (m := m) more (pos + Utf8.width front) f
          (search m (back ++ last) (pos + Utf8.width front) false (literal back node.stop node.below leaf))
        have place : pos + Utf8.width front + Utf8.width back = pos + Utf8.width (front ++ back) := by
          rw [Utf8.width_append, Nat.add_assoc]
        rcases visited : Node.visit m node.stop last (pos + Utf8.width (front ++ back)) f
          (search m last (pos + Utf8.width (front ++ back)) false node.below) with ⟨_ | a, g⟩
        · have below := search_fit_failed (place ▸ visited) (leaf : Tree α)
          have beside := search_fit_failed visited siblings
          rw [List.append_assoc] at beside
          rw [search_fit_failed (asked.trans below), beside, Findings.truncate_truncate]
        · have below := search_fit_found (place ▸ visited) (leaf : Tree α)
          have beside := search_fit_found visited siblings
          rw [List.append_assoc] at beside
          rw [search_fit_found (asked.trans below), beside]

/-- A search does the same whatever branch it meets, if it does so right where the branch is replaced. -/
theorem search_replaces {b b' : LiteralBranch α} {tree tree' : Tree α} (replaces : Replaces b b' tree tree')
    (same : ∀ {siblings : Tree α}, (b.beside siblings).SiblingsApart → ∀ rest pos tried f,
      search m rest pos tried (b'.beside siblings) f = search m rest pos tried (b.beside siblings) f)
    (apart : tree.SiblingsApart) (rest : List Char) (pos : Nat) (tried : Bool) (f : Findings) :
    search m rest pos tried tree' f = search m rest pos tried tree f := by
  induction replaces generalizing rest pos tried f with
  | here siblings => exact same apart rest pos tried f
  | sibling label stop below later ih =>
    obtain ⟨_, _, apartLater⟩ := apart
    simp only [search, ih apartLater]
  | literal label stop siblings inside ih =>
    obtain ⟨_, apartInside, _⟩ := apart
    simp only [search, ih apartInside]
  | param stop inside ih => simp only [search, ih apart]

end Tree

/-- At any point of a tree in which literal siblings begin with different characters, and for any literal
branch somewhere below it: if the label of the branch is cut between two of its characters, a search from
the point finds the same, and leaves the same captures and the same methods in the same order, whatever it
searches for and whatever it was handed. -/
theorem Node.search_splitAt {b b' : LiteralBranch α} {offset : Nat} (begun : 0 < offset)
    (unended : offset < Utf8.width b.label) (split : b.splitAt? offset = some b') {point point' : Node α}
    (apart : point.below.SiblingsApart) (stop : point'.stop = point.stop)
    (replaces : Tree.Replaces b b' point.below point'.below) (m : Method) (rest : List Char) (pos : Nat)
    (f : Findings) : point'.search m rest pos f = point.search m rest pos f := by
  obtain ⟨back, label, rfl, node⟩ := LiteralBranch.splitAt?_eq_some_iff.mp split
  obtain ⟨front, inner⟩ := b'
  obtain ⟨whole, outer⟩ := b
  simp only at label node begun unended
  subst label node
  have filled : front ≠ [] := by
    rintro rfl
    exact absurd begun (by simp [Utf8.width])
  have cut : back ≠ [] := by
    rintro rfl
    exact absurd unended (by simp)
  have below (f : Findings) : Tree.search m rest pos false point'.below f =
      Tree.search m rest pos false point.below f := by
    refine Tree.search_replaces replaces (fun {siblings} here rest pos tried f => ?_) apart rest pos false f
    obtain ⟨others, _, _⟩ := here
    refine Tree.search_cut filled cut outer (fun other mem => ?_) tried
    exact (BeginApart.append_iff filled).mp (others other mem)
  unfold search
  rw [stop, funext below]

/-- A path that reaches the new point and goes on otherwise still comes to the parameter beside it. -/
theorem Node.search_splitAt_beside_param :
    let whole : LiteralBranch Nat := ⟨"café".toList, ⟨⟨[(.get, 0)], []⟩, .param ⟨[(.put, 1)], []⟩ .leaf⟩⟩
    let cut : LiteralBranch Nat := ⟨"caf".toList, .split ['é'] whole.node⟩
    let siblings : Tree Nat := .literal "tea".toList ⟨[], [(.get, 2)]⟩ .leaf (.param ⟨[(.get, 3)], []⟩ .leaf)
    let point (b : LiteralBranch Nat) : Node Nat := ⟨.empty, .literal ['/'] .empty (b.beside siblings) .leaf⟩
    whole.splitAt? 3 = some cut ∧ whole.splitAt? 4 = none ∧
      (∀ m rest pos f, (point cut).search m rest pos f = (point whole).search m rest pos f) ∧
      (point cut).search .get "/cafè".toList 0 ⟨⟨[], 0⟩, []⟩ = (some 3, ⟨⟨[⟨1, 6⟩], 1⟩, []⟩) := by
  intro whole cut siblings point
  have split : whole.splitAt? 3 = some cut := by rfl
  have apart : (point whole).below.SiblingsApart := by
    refine ⟨nofun, ⟨?_, trivial, nofun, trivial, trivial⟩, trivial⟩
    intro other mem
    obtain rfl : other = "tea".toList := List.mem_singleton.mp mem
    exact ⟨'t', 'c', rfl, rfl, by decide⟩
  have replaces : Tree.Replaces whole cut (point whole).below (point cut).below :=
    .literal _ _ _ (.here siblings)
  refine ⟨split, by rfl, fun m rest pos f => ?_, by rfl⟩
  have stop : (point cut).stop = (point whole).stop := rfl
  exact search_splitAt (by decide) (by decide) split apart stop replaces m rest pos f

end RequestDispatch.Routing
