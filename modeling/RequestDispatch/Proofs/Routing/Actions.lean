import Mathlib.Data.List.Forall2
import RequestDispatch.Routing.Router

/-!
# What routes do plays no part in lookups

A search decides by templates and methods alone.  Of two trees with the same branches and the same methods
at every point, in which things are related one by one, a search finds things that are related, and
collects the same (`Tree.search_related`).  Applying a function to everything that is registered therefore
applies it to what is found and changes nothing else (`Router.lookup_map`).
-/

namespace RequestDispatch.Routing

variable {α β : Type}

/-- Registered for the same methods in the same order, and related one by one. -/
abbrev EntriesRelated (R : α → β → Prop) : List (Method × α) → List (Method × β) → Prop :=
  List.Forall₂ fun a b => a.1 = b.1 ∧ R a.2 b.2

structure Stop.Related (R : α → β → Prop) (a : Stop α) (b : Stop β) : Prop where
  ends : EntriesRelated R a.ends b.ends
  catchAlls : EntriesRelated R a.catchAlls b.catchAlls

/-- The trees have the same branches, and what they hold is related place by place. -/
inductive Tree.Related (R : α → β → Prop) : Tree α → Tree β → Prop
  | leaf : Related R .leaf .leaf
  | param {a : Stop α} {b : Stop β} {s : Tree α} {t : Tree β} (stops : a.Related R b)
      (below : Related R s t) : Related R (.param a s) (.param b t)
  | literal (label : List Char) {a : Stop α} {b : Stop β} {s u : Tree α} {t v : Tree β}
      (stops : a.Related R b) (below : Related R s t) (siblings : Related R u v) :
      Related R (.literal label a s u) (.literal label b t v)

structure Node.Related (R : α → β → Prop) (a : Node α) (b : Node β) : Prop where
  stop : a.stop.Related R b.stop
  below : a.below.Related R b.below

/-- Two searches have collected the same and found related things, or nothing. -/
inductive FoundRelated (R : α → β → Prop) : Option α × Findings → Option β × Findings → Prop
  | found {a : α} {b : β} (h : R a b) (f : Findings) : FoundRelated R (some a, f) (some b, f)
  | nothing (f : Findings) : FoundRelated R (none, f) (none, f)

variable {R : α → β → Prop}

theorem Stop.offer_related {a : List (Method × α)} {b : List (Method × β)}
    (h : EntriesRelated R a b) (m : Method) (f : Findings) :
    FoundRelated R (Stop.offer a m f) (Stop.offer b m f) := by
  have methods : a.map Prod.fst = b.map Prod.fst := by
    induction h with
    | nil => rfl
    | cons first _ ih => rw [List.map_cons, List.map_cons, first.1, ih]
  have owners : (∃ x y, a.lookup m = some x ∧ b.lookup m = some y ∧ R x y) ∨
      (a.lookup m = none ∧ b.lookup m = none) := by
    clear methods
    induction h with
    | nil => exact .inr ⟨rfl, rfl⟩
    | @cons x y _ _ first _ ih =>
      rw [List.lookup_cons, List.lookup_cons, ← first.1]
      cases m == x.1 with
      | true => exact .inl ⟨_, _, rfl, rfl, first.2⟩
      | false => exact ih
  unfold Stop.offer
  rcases owners with ⟨x, y, left, right, related⟩ | ⟨left, right⟩
  · rw [left, right]
    exact .found related f
  · rw [left, right, methods]
    exact .nothing _

theorem Node.visit_related {a : Stop α} {b : Stop β} (stops : a.Related R b) (m : Method)
    (rest : List Char) (pos : Nat) (f : Findings) {deeper : Findings → Option α × Findings}
    {deeper' : Findings → Option β × Findings}
    (below : ∀ f, FoundRelated R (deeper f) (deeper' f)) :
    FoundRelated R (Node.visit m a rest pos f deeper) (Node.visit m b rest pos f deeper') := by
  have first : FoundRelated R (if rest.isEmpty then Stop.offer a.ends m f else deeper f)
      (if rest.isEmpty then Stop.offer b.ends m f else deeper' f) := by
    split
    · exact Stop.offer_related stops.ends m f
    · exact below f
  unfold Node.visit
  generalize (if rest.isEmpty then Stop.offer a.ends m f else deeper f) = left at first ⊢
  generalize (if rest.isEmpty then Stop.offer b.ends m f else deeper' f) = right at first ⊢
  cases first with
  | found h f => exact .found h f
  | nothing f =>
    have last := Stop.offer_related stops.catchAlls m f
    dsimp only
    generalize Stop.offer a.catchAlls m f = left at last ⊢
    generalize Stop.offer b.catchAlls m f = right at last ⊢
    cases last with
    | found h f => exact .found h _
    | nothing f => exact .nothing f

theorem Tree.search_related {s : Tree α} {t : Tree β} (h : s.Related R t) (m : Method)
    (rest : List Char) (pos : Nat) (tried : Bool) (f : Findings) :
    FoundRelated R (s.search m rest pos tried f) (t.search m rest pos tried f) := by
  induction h generalizing rest pos tried f with
  | leaf => exact .nothing f
  | @param a b s t stops below ih =>
    simp only [Tree.search]
    generalize rest.takeWhile (· ≠ '/') = piece
    generalize rest.dropWhile (· ≠ '/') = left
    split
    · exact .nothing f
    · have visited := Node.visit_related stops m left (pos + Utf8.width piece)
        (f.push ⟨pos, pos + Utf8.width piece⟩) fun f => ih left (pos + Utf8.width piece) false f
      generalize Node.visit m a _ _ _ _ = before at visited ⊢
      generalize Node.visit m b _ _ _ _ = after at visited ⊢
      cases visited with
      | found h f => exact .found h f
      | nothing f => exact .nothing _
  | @literal label a b s u t v stops below siblings ihBelow ihSiblings =>
    simp only [Tree.search]
    cases (if tried then none else after? label rest) with
    | none => exact ihSiblings rest pos tried f
    | some left =>
      dsimp only
      have visited := Node.visit_related stops m left (pos + Utf8.width label) f
        fun f => ihBelow left (pos + Utf8.width label) false f
      generalize Node.visit m a _ _ _ _ = before at visited ⊢
      generalize Node.visit m b _ _ _ _ = after at visited ⊢
      cases visited with
      | found h f => exact .found h f
      | nothing f => exact ihSiblings _ _ true _

theorem Node.search_related {a : Node α} {b : Node β} (h : a.Related R b) (m : Method)
    (rest : List Char) (pos : Nat) (f : Findings) :
    FoundRelated R (a.search m rest pos f) (b.search m rest pos f) :=
  Node.visit_related h.stop m rest pos f fun f => Tree.search_related h.below m rest pos false f

/-- The same outcome, for related endpoints. -/
inductive Lookup.Related (R : Endpoint α → Endpoint β → Prop) : Lookup α → Lookup β → Prop
  | found {e : Endpoint α} {e' : Endpoint β} (h : R e e') : Related R (.found e) (.found e')
  | methodNotAllowed (allowed : List Method) :
      Related R (.methodNotAllowed allowed) (.methodNotAllowed allowed)
  | notFound : Related R .notFound .notFound

/-- Lookups come to the same decision and capture the same. -/
theorem Router.lookup_related {R : Endpoint α → Endpoint β → Prop} {router : Router α}
    {other : Router β} (h : router.root.Related R other.root) (m : Method) (path : String)
    (buffer : Captures) :
    (router.lookup m path buffer).1.Related R (other.lookup m path buffer).1 ∧
      (router.lookup m path buffer).2 = (other.lookup m path buffer).2 := by
  have searched := Node.search_related h m path.toList 0 ⟨buffer.clear, []⟩
  unfold Router.lookup
  generalize router.root.search m path.toList 0 ⟨buffer.clear, []⟩ = left at searched ⊢
  generalize other.root.search m path.toList 0 ⟨buffer.clear, []⟩ = right at searched ⊢
  cases searched with
  | found h f => exact ⟨.found h, rfl⟩
  | nothing f =>
    dsimp only
    split
    · exact ⟨.notFound, rfl⟩
    · exact ⟨.methodNotAllowed _, rfl⟩

section Maps

variable (g : α → β)

theorem Stop.related_map (stop : Stop α) : stop.Related (fun a b => b = g a) (stop.map g) := by
  have entries (list : List (Method × α)) :
      EntriesRelated (fun a b => b = g a) list (list.map fun e => (e.1, g e.2)) := by
    induction list with
    | nil => exact .nil
    | cons e rest ih => exact .cons ⟨rfl, rfl⟩ ih
  exact ⟨entries stop.ends, entries stop.catchAlls⟩

theorem Tree.related_map (tree : Tree α) : tree.Related (fun a b => b = g a) (tree.map g) := by
  induction tree with
  | leaf => exact .leaf
  | param stop below ih => exact .param (stop.related_map g) ih
  | literal label stop below siblings ihBelow ihSiblings =>
    exact .literal label (stop.related_map g) ihBelow ihSiblings

theorem Node.related_map (node : Node α) : node.Related (fun a b => b = g a) (node.map g) :=
  ⟨node.stop.related_map g, node.below.related_map g⟩

/-- The result of a lookup with the action replaced. -/
def Lookup.map : Lookup α → Lookup β
  | .found endpoint => .found ⟨endpoint.route, g endpoint.action⟩
  | .methodNotAllowed allowed => .methodNotAllowed allowed
  | .notFound => .notFound

/-- Replacing the actions of all routes replaces the action that a lookup finds, and nothing else. -/
theorem Router.lookup_map (router : Router α) (m : Method) (path : String) (buffer : Captures) :
    (router.map g).lookup m path buffer =
      ((router.lookup m path buffer).1.map g, (router.lookup m path buffer).2) := by
  have roots : router.root.Related (fun e e' => e' = ⟨e.route, g e.action⟩) (router.map g).root :=
    Node.related_map _ _
  obtain ⟨outcome, captures⟩ := Router.lookup_related roots m path buffer
  refine Prod.ext ?_ captures.symm
  revert outcome
  generalize (router.lookup m path buffer).1 = before
  generalize ((router.map g).lookup m path buffer).1 = after
  intro outcome
  cases outcome with
  | found same => exact congrArg Lookup.found same
  | methodNotAllowed allowed => rfl
  | notFound => rfl

end Maps

end RequestDispatch.Routing
