import RequestDispatch.Routing.Router

/-!
# What a tree holds

The flat view of a tree: all entries with the tokens that lead to them, and the condition that insertion
keeps.  A tree is well formed when no branch of it is dead, no literal branch could be merged with the
only one below it, and no two literal siblings begin alike.
-/

namespace RequestDispatch.Routing

/-- One entry of a tree, under the tokens that lead to it. -/
structure Entry (α : Type) where
  tokens : List Token
  method : Method
  value : α

namespace Entry

variable {α : Type}

/-- The entry as seen from a point that lies before it by the given tokens. -/
def after (front : List Token) (e : Entry α) : Entry α := { e with tokens := front ++ e.tokens }

def map {β : Type} (g : α → β) (e : Entry α) : Entry β := ⟨e.tokens, e.method, g e.value⟩

end Entry

namespace Stop

variable {α : Type}

def entries (stop : Stop α) : List (Entry α) :=
  stop.ends.map (fun e => ⟨[], e.1, e.2⟩) ++ stop.catchAlls.map fun e => ⟨[.catchAll], e.1, e.2⟩

/-- Each method owns at most one template that ends here and one catch-all. -/
def HasOwners (stop : Stop α) : Prop :=
  (stop.ends.map Prod.fst).Nodup ∧ (stop.catchAlls.map Prod.fst).Nodup

/-- Nothing is registered here. -/
def IsEmpty (stop : Stop α) : Prop := stop.ends = [] ∧ stop.catchAlls = []

theorem entries_map {β : Type} (g : α → β) (stop : Stop α) :
    (stop.map g).entries = stop.entries.map (Entry.map g) := by
  simp [entries, map, Entry.map, Function.comp_def]

end Stop

namespace Tree

variable {α : Type}

/-- All entries of the branches below a point. -/
def entries : Tree α → List (Entry α)
  | .leaf => []
  | .param stop below => (stop.entries ++ below.entries).map (Entry.after [.param])
  | .literal label stop below siblings =>
    (stop.entries ++ below.entries).map (Entry.after (label.map .char)) ++ siblings.entries

/-- The labels of the literal branches at a point. -/
def labels : Tree α → List (List Char)
  | .literal label _ _ siblings => label :: siblings.labels
  | _ => []

def hasParam : Tree α → Bool
  | .leaf => false
  | .param _ _ => true
  | .literal _ _ _ siblings => siblings.hasParam

/-- A literal branch with this end is kept apart from what is below it: something is registered there,
or the ways part there. -/
def Parts (stop : Stop α) (below : Tree α) : Prop :=
  ¬ stop.IsEmpty ∨ below.hasParam = true ∨ 2 ≤ below.labels.length

/-- The condition that insertion keeps. -/
def WellFormed : Tree α → Prop
  | .leaf => True
  | .param stop below =>
    stop.HasOwners ∧ stop.catchAlls = [] ∧ (stop.ends ≠ [] ∨ below.labels ≠ []) ∧
      below.hasParam = false ∧ (∀ label ∈ below.labels, label.head? = some '/') ∧ WellFormed below
  | .literal label stop below siblings =>
    label ≠ [] ∧ (∀ other ∈ siblings.labels, other.head? ≠ label.head?) ∧
      stop.HasOwners ∧ Parts stop below ∧ WellFormed below ∧ WellFormed siblings

theorem entries_map {β : Type} (g : α → β) (tree : Tree α) :
    (tree.map g).entries = tree.entries.map (Entry.map g) := by
  have shift (front : List Token) :
      Entry.after front ∘ Entry.map g = Entry.map g ∘ Entry.after (α := α) front := rfl
  induction tree with
  | leaf => rfl
  | param stop below ih =>
    simp only [map, entries, Stop.entries_map, ih, List.map_append, List.map_map, shift]
  | literal label stop below siblings ihBelow ihSiblings =>
    simp only [map, entries, Stop.entries_map, ihBelow, ihSiblings, List.map_append, List.map_map,
      shift]

end Tree

namespace Node

variable {α : Type}

def entries (node : Node α) : List (Entry α) := node.stop.entries ++ node.below.entries

def WellFormed (node : Node α) : Prop := node.stop.HasOwners ∧ node.below.WellFormed

theorem entries_map {β : Type} (g : α → β) (node : Node α) :
    (node.map g).entries = node.entries.map (Entry.map g) := by
  simp [entries, map, Stop.entries_map, Tree.entries_map]

end Node

end RequestDispatch.Routing
