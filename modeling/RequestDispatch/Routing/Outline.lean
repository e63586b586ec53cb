import RequestDispatch.Routing.Tree
import RequestDispatch.Text.Quoted

/-!
# Outline of a tree

The tree as lines of text for diagnostics: one line per point, indented by its depth, with the
methods registered there.  Literal siblings appear in ascending order of their labels, so the outline
does not show the order of insertion.
-/

namespace RequestDispatch.Routing

/-- One line of an outline: depth, label, and the methods in order of registration. -/
structure OutlineLine where
  depth : Nat
  label : String
  methods : List Method
  deriving DecidableEq, Repr

namespace OutlineLine

def text (line : OutlineLine) : String :=
  let indent := String.ofList (List.replicate (2 * line.depth) ' ')
  let methods :=
    if line.methods.isEmpty then ""
    else " [" ++ ",".intercalate (line.methods.map Method.name) ++ "]"
  indent ++ line.label ++ methods ++ "\n"

end OutlineLine

/-- The lines below a point: literal branches with their labels, the parameter branch, and the
catch-alls of the point. -/
structure Outline where
  literals : List (List Char × List OutlineLine)
  param : List OutlineLine

namespace Stop

variable {α : Type}

/-- The line of a point under its label, then the lines below it. -/
def outline (depth : Nat) (label : String) (stop : Stop α) (below : Outline) : List OutlineLine :=
  let sorted := below.literals.mergeSort (fun a b => String.ofList a.1 ≤ String.ofList b.1)
  let catchAll :=
    if stop.catchAlls.isEmpty then []
    else [⟨depth + 1, "*catch-all", stop.catchAlls.map Prod.fst⟩]
  ⟨depth, label, stop.ends.map Prod.fst⟩ :: (sorted.flatMap Prod.snd ++ below.param ++ catchAll)

end Stop

namespace Tree

variable {α : Type}

/-- The outline of branches whose lines stand at `depth`. -/
def outline (depth : Nat) : Tree α → Outline
  | .leaf => ⟨[], []⟩
  | .param stop below => ⟨[], stop.outline depth ":param" (below.outline (depth + 1))⟩
  | .literal label stop below siblings =>
    let rest := siblings.outline depth
    { rest with
      literals :=
        (label, stop.outline depth (Text.quoted (String.ofList label))
          (below.outline (depth + 1))) :: rest.literals }

end Tree

namespace Node

variable {α : Type}

/-- The lines of a whole tree from its root on. -/
def outline (root : Node α) : List OutlineLine :=
  root.stop.outline 0 (Text.quoted "") (root.below.outline 1)

def render (root : Node α) : String :=
  String.join (root.outline.map OutlineLine.text)

end Node

end RequestDispatch.Routing
