import RequestDispatch.Proofs.Routing.Actions
import RequestDispatch.Proofs.Routing.Canonicity

/-!
# Walking a tree

A walk visits everything that is registered in a tree and puts in its place what the visit makes of it.
It makes one visit for each thing, in the order of `Node.values`, and leaves labels, branches and methods as
they are (`Node.walk_walks`).  The tree it leaves is therefore searched as the one before
(`Node.related_of_walk`).  Applying a function everywhere is a walk (`Node.walk_pure`).
-/

namespace RequestDispatch.Routing

variable {α β σ γ δ : Type}

/-- Running `x` visits the values one after another, each once.  Under the view, what comes back has the
given shape and holds what the visits made of the values, in order. -/
def Walks (visit : α → StateM σ β) (values : List α) (view : γ → List β × δ) (shape : δ)
    (x : StateM σ γ) : Prop :=
  ∀ s, (view (x.run s).1, (x.run s).2) =
    ((((values.mapM visit).run s).1, shape), ((values.mapM visit).run s).2)

/-- One walk after another is a walk over the values of both. -/
theorem Walks.seq {γ' δ' ε ζ : Type} {visit : α → StateM σ β} {values more : List α}
    {view : γ → List β × δ} {view' : γ' → List β × δ'} {shape : δ} {shape' : δ'} {x : StateM σ γ}
    {y : StateM σ γ'} (hx : Walks visit values view shape x) (hy : Walks visit more view' shape' y)
    {whole : ε → List β × ζ} (both : γ → γ' → ε) (glue : δ → δ' → ζ)
    (h : ∀ a b, whole (both a b) = ((view a).1 ++ (view' b).1, glue (view a).2 (view' b).2)) :
    Walks visit (values ++ more) whole (glue shape shape') (do return both (← x) (← y)) := by
  intro s
  have first := hx s
  have second := hy (x.run s).2
  simp only [Prod.mk.injEq] at first second
  have ran : (do return both (← x) (← y) : StateM σ ε).run s =
      (both (x.run s).1 (y.run (x.run s).2).1, (y.run (x.run s).2).2) := rfl
  have appended : ((values ++ more).mapM visit).run s =
      (((values.mapM visit).run s).1 ++ ((more.mapM visit).run ((values.mapM visit).run s).2).1,
        ((more.mapM visit).run ((values.mapM visit).run s).2).2) := by
    rw [List.mapM_append]
    rfl
  rw [ran, appended, h, first.1, ← first.2, second.1, second.2]

/-- What a walk comes back with may be put into another form. -/
theorem Walks.map {ε ζ : Type} {visit : α → StateM σ β} {values : List α} {view : γ → List β × δ}
    {shape : δ} {x : StateM σ γ} (hx : Walks visit values view shape x) {whole : ε → List β × ζ}
    (form : γ → ε) (glue : δ → ζ) (h : ∀ a, whole (form a) = ((view a).1, glue (view a).2)) :
    Walks visit values whole (glue shape) (do return form (← x)) := by
  intro s
  have ran := hx s
  simp only [Prod.mk.injEq] at ran
  have formed : (do return form (← x) : StateM σ ε).run s = (form (x.run s).1, (x.run s).2) := rfl
  rw [formed, h, ran.1, ran.2]

/-- A single visit. -/
theorem Walks.visit (visit : α → StateM σ β) (a : α) :
    Walks visit [a] (fun b => ([b], ())) () (visit a) := by
  intro s
  rw [List.mapM_cons, List.mapM_nil]
  rfl

/-- Visits the entries of one list. -/
def visitEach (visit : α → StateM σ β) : List (Method × α) → StateM σ (List (Method × β))
  | [] => return []
  | e :: rest => do return (e.1, ← visit e.2) :: (← visitEach visit rest)

namespace Stop

/-- What is registered at a point and, between what ends there and the catch-alls, what lies below. -/
def values (stop : Stop α) (below : List α) : List α :=
  stop.ends.map Prod.snd ++ (below ++ stop.catchAlls.map Prod.snd)

/-- Visits what is registered at a point, around a walk of the branches below. -/
def walk (visit : α → StateM σ β) (stop : Stop α) (walkBelow : StateM σ (Tree β)) :
    StateM σ (Node β) := do
  let ends ← visitEach visit stop.ends
  let below ← walkBelow
  let catchAlls ← visitEach visit stop.catchAlls
  return ⟨⟨ends, catchAlls⟩, below⟩

end Stop

namespace Tree

/-- Everything that is registered, in the order in which a walk comes to it. -/
def values : Tree α → List α
  | .leaf => []
  | .param stop below => stop.values below.values
  | .literal _ stop below siblings => stop.values below.values ++ siblings.values

/-- Visits everything that is registered: at a point what ends there, then the literal branches, the
parameter, and the catch-alls. -/
def walk (visit : α → StateM σ β) : Tree α → StateM σ (Tree β)
  | .leaf => return .leaf
  | .param stop below => do
    let node ← stop.walk visit (walk visit below)
    return .param node.stop node.below
  | .literal label stop below siblings => do
    let node ← stop.walk visit (walk visit below)
    let siblings ← walk visit siblings
    return .literal label node.stop node.below siblings

/-- The branches and methods without what is registered. -/
def bare (tree : Tree α) : Tree Unit := tree.map fun _ => ()

end Tree

namespace Node

def values (node : Node α) : List α := node.stop.values node.below.values

def walk (visit : α → StateM σ β) (node : Node α) : StateM σ (Node β) :=
  node.stop.walk visit (node.below.walk visit)

end Node

variable (visit : α → StateM σ β)

theorem visitEach_walks (entries : List (Method × α)) :
    Walks visit (entries.map Prod.snd) (fun found => (found.map Prod.snd, found.map fun e => (e.1, ())))
      (entries.map fun e => (e.1, ())) (visitEach visit entries) := by
  induction entries with
  | nil => exact fun s => rfl
  | cons e rest ih =>
    exact (Walks.visit visit e.2).seq ih (fun b found => (e.1, b) :: found)
      (fun _ methods => (e.1, ()) :: methods) fun _ _ => rfl

theorem Stop.walk_walks (stop : Stop α) {below : Tree α} {walkBelow : StateM σ (Tree β)}
    (inside : Walks visit below.values (fun tree => (tree.values, tree.bare)) below.bare walkBelow) :
    Walks visit (stop.values below.values) (fun node => (node.values, node.bare))
      (Node.bare ⟨stop, below⟩) (stop.walk visit walkBelow) := by
  let after (both : Tree β × List (Method × β)) :=
    (both.1.values ++ both.2.map Prod.snd, both.1.bare, both.2.map fun e => (e.1, ()))
  have rest : Walks visit (below.values ++ stop.catchAlls.map Prod.snd) after _ _ :=
    inside.seq (visitEach_walks visit stop.catchAlls) Prod.mk Prod.mk fun _ _ => rfl
  exact (visitEach_walks visit stop.ends).seq rest
    (fun ends both => Node.mk ⟨ends, both.2⟩ both.1)
    (fun ends both => Node.mk ⟨ends, both.2⟩ both.1) fun _ _ => rfl

theorem Tree.walk_walks (tree : Tree α) :
    Walks visit tree.values (fun tree => (tree.values, tree.bare)) tree.bare (tree.walk visit) := by
  induction tree with
  | leaf => exact fun s => rfl
  | param stop below ih =>
    exact (Stop.walk_walks visit stop ih).map (fun node => param node.stop node.below)
      (fun node => param node.stop node.below) fun _ => rfl
  | literal label stop below siblings ihBelow ihSiblings =>
    exact (Stop.walk_walks visit stop ihBelow).seq ihSiblings
      (fun node siblings => literal label node.stop node.below siblings)
      (fun node siblings => literal label node.stop node.below siblings) fun _ _ => rfl

/-- A walk makes one visit for everything that is registered, in order, and keeps the branches. -/
theorem Node.walk_walks (node : Node α) :
    Walks visit node.values (fun node => (node.values, node.bare)) node.bare (node.walk visit) :=
  Stop.walk_walks visit node.stop (Tree.walk_walks visit node.below)

section Maps

variable (g : α → β)

theorem visitEach_pure (entries : List (Method × α)) :
    visitEach (fun a => (return g a : StateM σ β)) entries =
      return entries.map fun e => (e.1, g e.2) := by
  induction entries with
  | nil => rfl
  | cons e rest ih =>
    rw [visitEach, ih]
    rfl

theorem Stop.walk_pure (stop : Stop α) {below : Tree α} {walkBelow : StateM σ (Tree β)}
    (inside : walkBelow = return below.map g) :
    stop.walk (fun a => (return g a : StateM σ β)) walkBelow = return Node.map g ⟨stop, below⟩ := by
  rw [walk, visitEach_pure, visitEach_pure, inside]
  rfl

theorem Tree.walk_pure (tree : Tree α) :
    tree.walk (fun a => (return g a : StateM σ β)) = return tree.map g := by
  induction tree with
  | leaf => rfl
  | param stop below ih =>
    rw [walk, Stop.walk_pure g stop ih]
    rfl
  | literal label stop below siblings ihBelow ihSiblings =>
    rw [walk, Stop.walk_pure g stop ihBelow, ihSiblings]
    rfl

/-- Applying a function to everything is a walk whose visits do nothing else. -/
theorem Node.walk_pure (node : Node α) :
    node.walk (fun a => (return g a : StateM σ β)) = return node.map g :=
  Stop.walk_pure g node.stop (Tree.walk_pure g node.below)

theorem Stop.values_map (stop : Stop α) (below : List α) :
    (stop.map g).values (below.map g) = (stop.values below).map g := by
  simp [values, map, Function.comp_def]

theorem Tree.values_map (tree : Tree α) : (tree.map g).values = tree.values.map g := by
  induction tree with
  | leaf => rfl
  | param stop below ih => rw [map, values, values, ih, Stop.values_map]
  | literal label stop below siblings ihBelow ihSiblings =>
    rw [map, values, values, ihBelow, ihSiblings, Stop.values_map, List.map_append]

theorem Node.values_map (node : Node α) : (node.map g).values = node.values.map g := by
  rw [values, values, map, Tree.values_map, Stop.values_map]

end Maps

theorem Stop.values_perm_entries (stop : Stop α) {below : Tree α}
    (inside : below.values.Perm (below.entries.map Entry.value)) :
    (stop.values below.values).Perm ((Node.mk stop below).entries.map Entry.value) := by
  have ends : (Node.mk stop below).entries.map Entry.value =
      stop.ends.map Prod.snd ++ (stop.catchAlls.map Prod.snd ++ below.entries.map Entry.value) := by
    simp [Node.entries, Stop.entries, Function.comp_def]
  rw [ends]
  exact (List.perm_append_comm.trans (inside.append_left _)).append_left _

theorem Tree.values_perm_entries (tree : Tree α) :
    tree.values.Perm (tree.entries.map Entry.value) := by
  have under (front : List Token) (entries : List (Entry α)) :
      (entries.map (Entry.after front)).map Entry.value = entries.map Entry.value := by
    rw [List.map_map]
    rfl
  induction tree with
  | leaf => exact List.Perm.refl _
  | param stop below ih =>
    rw [entries_param, under]
    exact stop.values_perm_entries ih
  | literal label stop below siblings ihBelow ihSiblings =>
    rw [entries_literal, List.map_append, under]
    exact (stop.values_perm_entries ihBelow).append ihSiblings

/-- A walk comes to every entry once. -/
theorem Node.values_perm_entries (node : Node α) :
    node.values.Perm (node.entries.map Entry.value) :=
  node.stop.values_perm_entries (Tree.values_perm_entries node.below)

variable {R : α → β → Prop}

/-- Lists of the same parts are related part by part. -/
theorem forall₂_append {a b : List α} {c d : List β} (same : a.length = c.length)
    (h : List.Forall₂ R (a ++ b) (c ++ d)) : List.Forall₂ R a c ∧ List.Forall₂ R b d := by
  have front := List.forall₂_take_append _ _ _ h
  have back := List.forall₂_drop_append _ _ _ h
  rw [← same] at front back
  rw [List.take_left] at front
  rw [List.drop_left] at back
  exact ⟨front, back⟩

theorem entriesRelated_of_methods {a : List (Method × α)} {b : List (Method × β)}
    (methods : (a.map fun e => (e.1, ())) = b.map fun e => (e.1, ()))
    (h : List.Forall₂ R (a.map Prod.snd) (b.map Prod.snd)) : EntriesRelated R a b := by
  induction a generalizing b with
  | nil =>
    cases b with
    | nil => exact .nil
    | cons y rest => cases methods
  | cons x rest ih =>
    cases b with
    | nil => cases methods
    | cons y more =>
      simp only [List.map_cons, List.cons.injEq, Prod.mk.injEq, and_true] at methods
      cases h with
      | cons first later => exact .cons ⟨methods.1, first⟩ (ih methods.2 later)

theorem Stop.related_of_bare {a : Stop α} {b : Stop β} {below : List α} {other : List β}
    (same : (a.map fun _ => ()) = b.map fun _ => ()) (lengths : below.length = other.length)
    (h : List.Forall₂ R (a.values below) (b.values other)) :
    a.Related R b ∧ List.Forall₂ R below other := by
  simp only [map, Stop.mk.injEq] at same
  obtain ⟨ends, catchAlls⟩ := same
  have count : (a.ends.map Prod.snd).length = (b.ends.map Prod.snd).length := by
    simpa using congrArg List.length ends
  obtain ⟨first, rest⟩ := forall₂_append count h
  obtain ⟨inside, last⟩ := forall₂_append lengths rest
  exact ⟨⟨entriesRelated_of_methods ends first, entriesRelated_of_methods catchAlls last⟩, inside⟩

theorem Tree.length_values_of_bare {s : Tree α} {t : Tree β} (same : s.bare = t.bare) :
    s.values.length = t.values.length := by
  have counted := congrArg (fun tree : Tree Unit => tree.values.length) same
  simpa only [bare, values_map, List.length_map] using counted

/-- Trees with the same branches and methods are related if their values are, one by one. -/
theorem Tree.related_of_bare {s : Tree α} {t : Tree β} (same : s.bare = t.bare)
    (h : List.Forall₂ R s.values t.values) : s.Related R t := by
  induction s generalizing t with
  | leaf =>
    cases t with
    | leaf => exact .leaf
    | param => cases same
    | literal => cases same
  | param stop below ih =>
    cases t with
    | leaf => cases same
    | literal => cases same
    | param stop' below' =>
      simp only [bare, map, param.injEq] at same
      obtain ⟨stops, inside⟩ :=
        Stop.related_of_bare same.1 (length_values_of_bare same.2) h
      exact .param stops (ih same.2 inside)
  | literal label stop below siblings ihBelow ihSiblings =>
    cases t with
    | leaf => cases same
    | param => cases same
    | literal label' stop' below' siblings' =>
      simp only [bare, map, literal.injEq] at same
      obtain ⟨rfl, stopsSame, belowSame, siblingsSame⟩ := same
      have lengths := length_values_of_bare belowSame
      have count : (stop.values below.values).length = (stop'.values below'.values).length := by
        have ends := congrArg (fun stop : Stop Unit => stop.ends.length) stopsSame
        have catchAlls := congrArg (fun stop : Stop Unit => stop.catchAlls.length) stopsSame
        simp only [Stop.map, List.length_map] at ends catchAlls
        simp only [Stop.values, List.length_append, List.length_map]
        omega
      obtain ⟨here, beside⟩ := forall₂_append count h
      obtain ⟨stops, inside⟩ := Stop.related_of_bare stopsSame lengths here
      exact .literal label stops (ihBelow belowSame inside) (ihSiblings siblingsSame beside)

/-- What a walk leaves is, place by place, what its visits made of what was there before. -/
theorem Node.related_of_walk (visit : α → StateM σ β) (node : Node α) (s : σ) :
    let after := ((node.walk visit).run s).1
    node.Related (fun a b => (a, b) ∈ node.values.zip after.values) after := by
  intro after
  have walked := node.walk_walks visit s
  simp only [Prod.mk.injEq] at walked
  obtain ⟨⟨_, same⟩, _⟩ := walked
  have same : after.bare = node.bare := same
  have lengths : node.values.length = after.values.length := by
    have counted := congrArg (fun node : Node Unit => node.values.length) same
    simpa only [bare, values_map, List.length_map] using counted.symm
  have paired : List.Forall₂ (fun a b => (a, b) ∈ node.values.zip after.values) node.values
      after.values := List.forall₂_iff_zip.mpr ⟨lengths, id⟩
  simp only [bare, map, Node.mk.injEq] at same
  obtain ⟨stops, inside⟩ := Stop.related_of_bare same.1.symm
    (Tree.length_values_of_bare same.2.symm) paired
  exact ⟨stops, Tree.related_of_bare same.2.symm inside⟩

end RequestDispatch.Routing
