import RequestDispatch.Routing.Contents

/-!
# The order in which a search asks

A search that backtracks is the same as asking a list of owners one after the other
(`Tree.search_follows`).  The list depends on the tree and the path alone: neither the method nor what
has been collected so far decides where the search goes.
-/

namespace RequestDispatch.Routing

/-- Owners that a search asks, with the tokens that lead to them and the ranges captured on the way. -/
structure Visit (α : Type) where
  tokens : List Token
  owners : List (Method × α)
  ranges : List Range

namespace Visit

variable {α : Type}

/-- The visit as seen from a point that lies before it. -/
def behind (front : List Token) (ranges : List Range) (v : Visit α) : Visit α :=
  ⟨front ++ v.tokens, v.owners, ranges ++ v.ranges⟩

/-- Asks visit after visit until one owns the method.  The methods of those before it are noted. -/
def scan (m : Method) : List (Visit α) → List Method → Option (α × List Range) × List Method
  | [], allowed => (none, allowed)
  | v :: rest, allowed =>
    match v.owners.lookup m with
    | some a => (some (a, v.ranges), allowed)
    | none => scan m rest (addDistinct allowed (v.owners.map Prod.fst))

theorem scan_append (m : Method) (vs ws : List (Visit α)) (allowed : List Method) :
    scan m (vs ++ ws) allowed =
      match scan m vs allowed with
      | (some found, noted) => (some found, noted)
      | (none, noted) => scan m ws noted := by
  induction vs generalizing allowed with
  | nil => rfl
  | cons v vs ih =>
    simp only [List.cons_append, scan]
    cases v.owners.lookup m with
    | some a => rfl
    | none => exact ih _

theorem scan_behind (m : Method) (front : List Token) (ranges : List Range) (vs : List (Visit α))
    (allowed : List Method) :
    scan m (vs.map (behind front ranges)) allowed =
      ((scan m vs allowed).1.map fun found => (found.1, ranges ++ found.2),
        (scan m vs allowed).2) := by
  induction vs generalizing allowed with
  | nil => rfl
  | cons v vs ih =>
    simp only [List.map_cons, scan, behind]
    cases v.owners.lookup m with
    | some a => rfl
    | none => exact ih _

end Visit

/-- The visits at a point that the path has reached with `rest` to go; `deeper` are those below. -/
def Stop.visits {α : Type} (stop : Stop α) (rest : List Char) (pos : Nat)
    (deeper : List (Visit α)) : List (Visit α) :=
  (if rest.isEmpty then [⟨[], stop.ends, []⟩] else deeper) ++
    [⟨[.catchAll], stop.catchAlls, [⟨pos, pos + Utf8.width rest⟩]⟩]

/-- The visits below a point.  `tried` says that the literal branch that fits has been searched. -/
def Tree.visits {α : Type} (rest : List Char) (pos : Nat) (tried : Bool) :
    Tree α → List (Visit α)
  | .leaf => []
  | .param stop below =>
    let piece := rest.takeWhile (· ≠ '/')
    let left := rest.dropWhile (· ≠ '/')
    let pos' := pos + Utf8.width piece
    if piece.isEmpty then []
    else (stop.visits left pos' (visits left pos' false below)).map
      (Visit.behind [.param] [⟨pos, pos'⟩])
  | .literal label stop below siblings =>
    match if tried then none else after? label rest with
    | none => visits rest pos tried siblings
    | some left =>
      let pos' := pos + Utf8.width label
      (stop.visits left pos' (visits left pos' false below)).map
        (Visit.behind (label.map .char) []) ++ visits rest pos true siblings

/-- The visits of a search that begins at a node. -/
def Node.visits {α : Type} (rest : List Char) (pos : Nat) (node : Node α) : List (Visit α) :=
  node.stop.visits rest pos (node.below.visits rest pos false)

/-- A search that began with the findings `f` came out as the scan did: a winner leaves its captures
behind those of `f`, and a search in vain leaves the captures of `f`. -/
structure Follows {α : Type} (f : Findings) (result : Option α × Findings)
    (scanned : Option (α × List Range) × List Method) : Prop where
  found : result.1 = scanned.1.map Prod.fst
  captures : result.2.captures.ranges = f.captures.ranges ++ scanned.1.elim [] Prod.snd
  allowed : result.2.allowed = scanned.2

section Follows

variable {α : Type} {m : Method} {f : Findings}

theorem follows_some {a : α} {g : Findings} {scanned : Option (α × List Range) × List Method}
    (h : Follows f (some a, g) scanned) :
    ∃ ranges, scanned = (some (a, ranges), g.allowed) ∧
      g.captures.ranges = f.captures.ranges ++ ranges := by
  obtain ⟨winner, noted⟩ := scanned
  obtain ⟨found, captures, allowed⟩ := h
  cases winner with
  | none => cases found
  | some winner =>
    obtain ⟨b, ranges⟩ := winner
    cases found
    cases allowed
    exact ⟨ranges, rfl, captures⟩

theorem follows_none {g : Findings} {scanned : Option (α × List Range) × List Method}
    (h : Follows f (none, g) scanned) :
    scanned = (none, g.allowed) ∧ g.captures.ranges = f.captures.ranges := by
  obtain ⟨winner, noted⟩ := scanned
  obtain ⟨found, captures, allowed⟩ := h
  cases winner with
  | none =>
    cases allowed
    exact ⟨rfl, captures.trans (List.append_nil _)⟩
  | some winner => cases found

/-- Asking one list of owners. -/
theorem offer_eq (owners : List (Method × α)) (m : Method) (f : Findings) :
    Stop.offer owners m f =
      match owners.lookup m with
      | some a => (some a, f)
      | none => (none, f.allow (owners.map Prod.fst)) := rfl

theorem visit_follows {stop : Stop α} {rest : List Char} {pos : Nat}
    {deeper : Findings → Option α × Findings} {vs : List (Visit α)}
    (inner : Follows f (deeper f) (Visit.scan m vs f.allowed)) :
    Follows f (Node.visit m stop rest pos f deeper)
      (Visit.scan m (stop.visits rest pos vs) f.allowed) := by
  have first : Follows f (if rest.isEmpty then Stop.offer stop.ends m f else deeper f)
      (Visit.scan m (if rest.isEmpty then [⟨[], stop.ends, []⟩] else vs) f.allowed) := by
    by_cases ended : rest.isEmpty = true
    · rw [if_pos ended, if_pos ended, offer_eq]
      simp only [Visit.scan]
      cases stop.ends.lookup m with
      | some a => exact ⟨rfl, (List.append_nil _).symm, rfl⟩
      | none => exact ⟨rfl, (List.append_nil _).symm, rfl⟩
    · rw [if_neg ended, if_neg ended]
      exact inner
  unfold Node.visit Stop.visits
  rw [Visit.scan_append]
  match asked : (if rest.isEmpty then Stop.offer stop.ends m f else deeper f) with
  | (some a, g) =>
    rw [asked] at first
    obtain ⟨ranges, eq, captures⟩ := follows_some first
    rw [eq]
    exact ⟨rfl, captures, rfl⟩
  | (none, g) =>
    rw [asked] at first
    obtain ⟨eq, captures⟩ := follows_none first
    rw [eq]
    simp only [offer_eq, Visit.scan]
    cases stop.catchAlls.lookup m with
    | some a =>
      refine ⟨rfl, ?_, rfl⟩
      simp [Findings.push, captures]
    | none => exact ⟨rfl, captures.trans (List.append_nil _).symm, rfl⟩

/-- A parameter is captured before what lies behind it is searched.  In vain, its capture is cut off
again. -/
theorem param_follows {range : Range} {asked : Option α × Findings} {vs : List (Visit α)}
    (inner : Follows (f.push range) asked (Visit.scan m vs f.allowed)) :
    Follows f
      (match asked with
        | (some a, g) => (some a, g)
        | (none, g) => (none, g.truncate f.captures.ranges.length))
      (Visit.scan m (vs.map (Visit.behind [.param] [range])) f.allowed) := by
  rw [Visit.scan_behind]
  match asked with
  | (some a, g) =>
    obtain ⟨ranges, eq, captures⟩ := follows_some inner
    rw [eq]
    refine ⟨rfl, ?_, rfl⟩
    simpa [Findings.push] using captures
  | (none, g) =>
    obtain ⟨eq, captures⟩ := follows_none inner
    rw [eq]
    refine ⟨rfl, ?_, rfl⟩
    simp [Findings.truncate, captures, Findings.push]

/-- After a literal branch has been searched in vain, the search goes on with `later`. -/
theorem literal_follows {label : List Char} {asked : Option α × Findings}
    {later : Findings → Option α × Findings} {vs ws : List (Visit α)}
    (inner : Follows f asked (Visit.scan m vs f.allowed))
    (next : ∀ g, Follows g (later g) (Visit.scan m ws g.allowed)) :
    Follows f
      (match asked with
        | (some a, g) => (some a, g)
        | (none, g) => later (g.truncate f.captures.ranges.length))
      (Visit.scan m (vs.map (Visit.behind (label.map .char) []) ++ ws) f.allowed) := by
  rw [Visit.scan_append, Visit.scan_behind]
  match asked with
  | (some a, g) =>
    obtain ⟨ranges, eq, captures⟩ := follows_some inner
    rw [eq]
    exact ⟨rfl, captures, rfl⟩
  | (none, g) =>
    obtain ⟨eq, captures⟩ := follows_none inner
    rw [eq]
    obtain ⟨found, behind, allowed⟩ := next (g.truncate f.captures.ranges.length)
    refine ⟨found, ?_, allowed⟩
    rw [behind]
    simp [Findings.truncate, captures]

end Follows

/-- A search of the branches below a point asks its visits in order. -/
theorem Tree.search_follows {α : Type} {m : Method} (tree : Tree α) (rest : List Char) (pos : Nat)
    (tried : Bool) (f : Findings) :
    Follows f (search m rest pos tried tree f)
      (Visit.scan m (tree.visits rest pos tried) f.allowed) := by
  induction tree generalizing rest pos tried f with
  | leaf => exact ⟨rfl, (List.append_nil _).symm, rfl⟩
  | param stop below ih =>
    simp only [search, visits]
    by_cases blank : (rest.takeWhile (· ≠ '/')).isEmpty = true
    · rw [if_pos blank, if_pos blank]
      exact ⟨rfl, (List.append_nil _).symm, rfl⟩
    · rw [if_neg blank, if_neg blank]
      exact param_follows (visit_follows (ih _ _ false _))
  | literal label stop below siblings ihBelow ihSiblings =>
    simp only [search, visits]
    match if tried then none else after? label rest with
    | none => exact ihSiblings rest pos tried f
    | some left =>
      exact literal_follows (visit_follows (ihBelow left _ false f))
        fun g => ihSiblings rest pos true g

/-- A search from a node asks its visits in order. -/
theorem Node.search_follows {α : Type} (m : Method) (node : Node α) (rest : List Char) (pos : Nat)
    (f : Findings) :
    Follows f (node.search m rest pos f) (Visit.scan m (node.visits rest pos) f.allowed) :=
  visit_follows (Tree.search_follows node.below rest pos false f)

end RequestDispatch.Routing
