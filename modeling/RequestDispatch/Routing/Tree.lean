import RequestDispatch.Routing.Capture
import RequestDispatch.Routing.Template

/-!
# The tree of templates

All templates are kept in one compressed prefix tree over characters and parameters.  A tree is the
list of branches below a point: literal branches in the order of their insertion, then at most one
parameter branch.  Every branch ends in a `Stop`, which holds what is registered there.

`insert` keeps sibling literals apart by their first characters and splits a label where two
templates part.  `search` tries, at every point, the literal branch that fits, then the parameter,
then the catch-all.
-/

namespace RequestDispatch.Routing

/-- What is registered at one point: for templates that end there, and for catch-alls that take over
from there, both by method in the order of registration. -/
structure Stop (α : Type) where
  ends : List (Method × α)
  catchAlls : List (Method × α)

inductive Tree (α : Type) where
  | leaf
  /-- The parameter branch; it is the last one. -/
  | param (stop : Stop α) (below : Tree α)
  /-- A literal branch under its label, and its later siblings. -/
  | literal (label : List Char) (stop : Stop α) (below siblings : Tree α)

namespace Stop

variable {α : Type}

def empty : Stop α := ⟨[], []⟩

/-- Registers `a` for a method; the method's present owner refuses it. -/
def register (entries : List (Method × α)) (m : Method) (a : α) : Except α (List (Method × α)) :=
  match entries.lookup m with
  | some owner => .error owner
  | none => .ok (entries ++ [(m, a)])

/-- The entry of a method; without one the methods registered here are noted as allowed. -/
def offer (entries : List (Method × α)) (m : Method) (f : Findings) : Option α × Findings :=
  match entries.lookup m with
  | some a => (some a, f)
  | none => (none, f.allow (entries.map Prod.fst))

def map {β : Type} (g : α → β) (stop : Stop α) : Stop β :=
  ⟨stop.ends.map (fun e => (e.1, g e.2)), stop.catchAlls.map (fun e => (e.1, g e.2))⟩

end Stop

/-- A point of the tree: what is registered there and the branches below. -/
structure Node (α : Type) where
  stop : Stop α
  below : Tree α

/-- The characters two texts have in common at their start, and the rest of each. -/
def commonPart : List Char → List Char → List Char × List Char × List Char
  | a :: as, b :: bs =>
    if a = b then
      let (common, restA, restB) := commonPart as bs
      (a :: common, restA, restB)
    else ([], a :: as, b :: bs)
  | as, bs => ([], as, bs)

theorem commonPart_left (as bs : List Char) :
    (commonPart as bs).1 ++ (commonPart as bs).2.1 = as := by
  fun_induction commonPart as bs with
  | case1 as b bs common restA restB h ih => simpa [h] using ih
  | case2 => rfl
  | case3 => rfl

theorem commonPart_right (as bs : List Char) :
    (commonPart as bs).1 ++ (commonPart as bs).2.2 = bs := by
  fun_induction commonPart as bs with
  | case1 as b bs common restA restB h ih => simpa [h] using ih
  | case2 => rfl
  | case3 => rfl

/-- The rests begin with different characters or one of them is empty. -/
theorem commonPart_heads (as bs : List Char) (c : Char)
    (h : (commonPart as bs).2.1.head? = some c) : (commonPart as bs).2.2.head? ≠ some c := by
  fun_induction commonPart as bs with
  | case1 as b bs common restA restB eq ih =>
    rw [eq] at ih
    exact ih h
  | case2 a as b bs different =>
    intro same
    exact different (by simp_all)
  | case3 as bs ended =>
    intro same
    cases as with
    | nil => simp at h
    | cons a as =>
      cases bs with
      | nil => simp at same
      | cons b bs => exact ended a as b bs rfl rfl

/-- The rest of a text after `front`, if the text starts with it. -/
def after? : List Char → List Char → Option (List Char)
  | [], rest => some rest
  | _ :: _, [] => none
  | a :: front, b :: rest => if a = b then after? front rest else none

theorem after?_eq_some_iff (front text rest : List Char) :
    after? front text = some rest ↔ text = front ++ rest := by
  fun_induction after? front text with
  | case1 text => simp [eq_comm]
  | case2 => simp
  | case3 a front text ih => simp [ih]
  | case4 a front b text different => simp [Ne.symm different]

/-- The characters before the first token that is none. -/
def leadingChars : List Token → List Char
  | .char c :: rest => c :: leadingChars rest
  | _ => []

namespace Node

variable {α : Type}

def empty : Node α := ⟨.empty, .leaf⟩

/-- The point at the start of a branch with this label that leads to `node`; without a label it is
`node` itself. -/
def under (label : List Char) (node : Node α) : Node α :=
  if label.isEmpty then node else ⟨.empty, .literal label node.stop node.below .leaf⟩

/-- The node that replaces `node` when the label above it is cut: the end `back` of the label becomes
the only branch below. -/
def split (back : List Char) (node : Node α) : Node α :=
  ⟨.empty, .literal back node.stop node.below .leaf⟩

/-- Registers `a` at this point when the tokens end here or go on with a catch-all; otherwise the
branches below take it, as `deeper` says. -/
def place (m : Method) (a : α) (node : Node α) (tokens : List Token)
    (deeper : List Token → Except α (Tree α)) : Except α (Node α) :=
  match tokens with
  | [] => (Stop.register node.stop.ends m a).map fun ends =>
      ⟨{ node.stop with ends := ends }, node.below⟩
  | .catchAll :: _ => (Stop.register node.stop.catchAlls m a).map fun catchAlls =>
      ⟨{ node.stop with catchAlls := catchAlls }, node.below⟩
  | tokens => (deeper tokens).map fun below => ⟨node.stop, below⟩

/-- Searches at a point that the path has reached with `rest` to go, from byte offset `pos` on.
Templates that end here are asked when nothing is left, the branches below (`deeper`) otherwise; the
catch-alls registered here come last and capture whatever is left. -/
def visit (m : Method) (stop : Stop α) (rest : List Char) (pos : Nat) (f : Findings)
    (deeper : Findings → Option α × Findings) : Option α × Findings :=
  match if rest.isEmpty then Stop.offer stop.ends m f else deeper f with
  | (some a, f) => (some a, f)
  | (none, f) =>
    match Stop.offer stop.catchAlls m f with
    | (some a, f) => (some a, f.push ⟨pos, pos + Utf8.width rest⟩)
    | (none, f) => (none, f)

end Node

namespace Tree

variable {α : Type}

/-- The point from which only the given tokens lead on, after the literal text `label`. -/
def chain (m : Method) (a : α) (label : List Char) : List Token → Node α
  | [] => Node.under label ⟨⟨[(m, a)], []⟩, .leaf⟩
  | .catchAll :: _ => Node.under label ⟨⟨[], [(m, a)]⟩, .leaf⟩
  | .param :: rest =>
    let node := chain m a [] rest
    Node.under label ⟨.empty, .param node.stop node.below⟩
  | .char c :: rest => chain m a (label ++ [c]) rest

/-- Puts the only branch of a fresh tree in front of `siblings`, which are a parameter or nothing. -/
def before (fresh siblings : Tree α) : Tree α :=
  match fresh with
  | .literal label stop below _ => .literal label stop below siblings
  | other => other

/-- Registers `a` for method `m` where the tokens lead.  They begin with a character or a parameter.
The owner of the place refuses a second registration. -/
def insert (m : Method) (a : α) (tree : Tree α) (tokens : List Token) : Except α (Tree α) :=
  match tree with
  | .leaf => .ok (chain m a [] tokens).below
  | .param stop below =>
    match tokens with
    | .param :: rest =>
      (Node.place m a ⟨stop, below⟩ rest fun deeper => insert m a below deeper).map fun node =>
        .param node.stop node.below
    | tokens => .ok ((chain m a [] tokens).below.before (.param stop below))
  | .literal label stop below siblings =>
    match commonPart label (leadingChars tokens) with
    | ([], _, _) => (insert m a siblings tokens).map fun siblings =>
        .literal label stop below siblings
    | (common, [], _) =>
      (Node.place m a ⟨stop, below⟩ (tokens.drop common.length) fun deeper =>
        insert m a below deeper).map fun node =>
          .literal common node.stop node.below siblings
    | (common, back, _) =>
      (Node.place m a (Node.split back ⟨stop, below⟩) (tokens.drop common.length) fun deeper =>
        .ok (.literal back stop below (chain m a [] deeper).below)).map fun node =>
          .literal common node.stop node.below siblings

/-- Searches the branches for the rest of a path, from byte offset `pos` on.  `tried` says that the
literal branch that fits has already been searched in vain: no sibling fits beside it. -/
def search (m : Method) (rest : List Char) (pos : Nat) (tried : Bool) (tree : Tree α)
    (f : Findings) : Option α × Findings :=
  match tree with
  | .leaf => (none, f)
  | .param stop below =>
    let piece := rest.takeWhile (· ≠ '/')
    let left := rest.dropWhile (· ≠ '/')
    if piece.isEmpty then (none, f)
    else
      let pos' := pos + Utf8.width piece
      match Node.visit m stop left pos' (f.push ⟨pos, pos'⟩)
          fun f => search m left pos' false below f with
      | (some a, f) => (some a, f)
      | (none, f') => (none, f'.truncate f.captures.ranges.length)
  | .literal label stop below siblings =>
    match if tried then none else after? label rest with
    | none => search m rest pos tried siblings f
    | some left =>
      let pos' := pos + Utf8.width label
      match Node.visit m stop left pos' f fun f => search m left pos' false below f with
      | (some a, f) => (some a, f)
      | (none, f') => search m rest pos true siblings (f'.truncate f.captures.ranges.length)

/-- Applies a function to everything that is registered. -/
def map {β : Type} (g : α → β) : Tree α → Tree β
  | .leaf => .leaf
  | .param stop below => .param (stop.map g) (below.map g)
  | .literal label stop below siblings =>
    .literal label (stop.map g) (below.map g) (siblings.map g)

end Tree

namespace Node

variable {α : Type}

/-- Registers `a` for method `m` where the tokens lead; the present owner of the place refuses it. -/
def insert (m : Method) (a : α) (node : Node α) (tokens : List Token) : Except α (Node α) :=
  Node.place m a node tokens (Tree.insert m a node.below)

/-- Searches for a path from this point on. -/
def search (m : Method) (rest : List Char) (pos : Nat) (node : Node α) (f : Findings) :
    Option α × Findings :=
  Node.visit m node.stop rest pos f (Tree.search m rest pos false node.below)

def map {β : Type} (g : α → β) (node : Node α) : Node β :=
  ⟨node.stop.map g, node.below.map g⟩

end Node

end RequestDispatch.Routing
