import RequestDispatch.Proofs.Routing.Canonicity
import RequestDispatch.Proofs.Routing.RouteList
import RequestDispatch.Proofs.Routing.Visits

/-!
# How many ranges a search captures

A search may capture a parameter on a way that leads nowhere, but every parameter branch of a well-formed
tree leads to some template, and that template has room for all the ranges captured on the way to it.
So where no template has more than `n` places no more than `n` ranges are held at any moment of a search
(`Node.search_within`), and a router into which routes were registered never holds more of them than its
largest number of parameters (`Router.Spacious.lookup_within`).
-/

namespace RequestDispatch.Routing

variable {α β : Type} {n : Nat}

/-- No more than `n` ranges are held, or have been since the buffer was cleared. -/
structure Captures.Within (n : Nat) (c : Captures) : Prop where
  held : c.ranges.length ≤ c.peak
  peak : c.peak ≤ n

namespace Captures.Within

theorem empty : Captures.empty.Within n := ⟨Nat.le_refl 0, Nat.zero_le n⟩

theorem push {c : Captures} (within : c.Within n) (room : c.ranges.length + 1 ≤ n) (r : Range) :
    (c.push r).Within n where
  held := by
    rw [ranges_push, List.length_append]
    exact Nat.le_max_right ..
  peak := Nat.max_le.mpr ⟨within.peak, room⟩

theorem truncate {c : Captures} (within : c.Within n) (count : Nat) : (c.truncate count).Within n where
  held := Nat.le_trans (List.length_take_le' ..) within.held
  peak := within.peak

end Captures.Within

/-- The buffer has kept within `n` ranges, and would on the way to any of the entries. -/
structure Findings.HasRoom (n : Nat) (entries : List (Entry α)) (f : Findings) : Prop where
  within : f.captures.Within n
  room : ∀ e ∈ entries, f.captures.ranges.length + places e.tokens ≤ n

namespace Findings.HasRoom

variable {f g : Findings} {label : List Char} {stop : Stop α} {below siblings : Tree α}

theorem subset {some all : List (Entry α)} (h : f.HasRoom n all) (among : some ⊆ all) :
    f.HasRoom n some :=
  ⟨h.within, fun e mem => h.room e (among mem)⟩

/-- A literal takes no place. -/
theorem literal (h : f.HasRoom n (Tree.literal label stop below siblings).entries) :
    f.HasRoom n (Node.mk stop below).entries where
  within := h.within
  room e mem := by
    have behind := h.room _ (Tree.mem_entries_literal.mpr (.inl ⟨e, mem, rfl⟩))
    rwa [Entry.after, places_chars_append] at behind

theorem later (h : f.HasRoom n (Tree.literal label stop below siblings).entries) :
    f.HasRoom n siblings.entries :=
  h.subset fun _ mem => Tree.mem_entries_literal.mpr (.inr mem)

/-- There is room to capture a parameter before it is known whether its branch leads to a match: some
entry lies behind it. -/
theorem param (h : f.HasRoom n (Tree.param stop below).entries)
    (wf : (Tree.param stop below).WellFormed) (r : Range) :
    (f.push r).HasRoom n (Node.mk stop below).entries := by
  have behind : ∀ e ∈ (Node.mk stop below).entries,
      f.captures.ranges.length + (places e.tokens + 1) ≤ n :=
    fun e mem => h.room _ (Tree.mem_entries_param.mpr ⟨e, mem, rfl⟩)
  obtain ⟨e, mem⟩ := List.exists_mem_of_ne_nil _ (Tree.entries_of_wellFormed_param wf).1
  have one : f.captures.ranges.length + 1 ≤ n := by
    have some := behind e mem
    omega
  refine ⟨h.within.push one r, fun e mem => ?_⟩
  have some := behind e mem
  rw [Findings.push, Captures.ranges_push, List.length_append, List.length_singleton]
  omega

/-- After a search in vain what it captured is cut off, and the room is as it was. -/
theorem again {entries : List (Entry α)} (h : f.HasRoom n entries) (after : g.captures.Within n) :
    (g.truncate f.captures.ranges.length).HasRoom n entries where
  within := after.truncate _
  room e mem :=
    Nat.le_trans (Nat.add_le_add_right (List.length_take_le ..) _) (h.room e mem)

/-- At a point, a catch-all captures what is left.  In vain, the branches below have been left with the
ranges that were there. -/
theorem visit {m : Method} {rest : List Char} {pos : Nat} {deeper : Findings → Option α × Findings}
    (h : f.HasRoom n stop.entries) (inner : (deeper f).2.captures.Within n)
    (restored : ∀ g, deeper f = (none, g) → g.captures.ranges = f.captures.ranges) :
    (Node.visit m stop rest pos f deeper).2.captures.Within n := by
  have first : ∀ a g, (if rest.isEmpty then Stop.offer stop.ends m f else deeper f) = (a, g) →
      g.captures.Within n ∧ (a = none → g.captures.ranges = f.captures.ranges) := by
    intro a g asked
    split at asked
    · rw [offer_eq] at asked
      split at asked
      · cases asked
        exact ⟨h.within, fun _ => rfl⟩
      · cases asked
        exact ⟨h.within, fun _ => rfl⟩
    · rw [asked] at inner
      exact ⟨inner, fun failed => restored g (failed ▸ asked)⟩
  unfold Node.visit
  match asked : (if rest.isEmpty then Stop.offer stop.ends m f else deeper f) with
  | (some a, g) => exact (first _ _ asked).1
  | (none, g) =>
    obtain ⟨within, same⟩ := first _ _ asked
    simp only [offer_eq]
    cases owned : stop.catchAlls.lookup m with
    | none => exact within
    | some a =>
      have entry : ⟨[.catchAll], m, a⟩ ∈ stop.entries :=
        Stop.mem_entries_iff.mpr (.inr ⟨rfl, mem_of_lookup_eq_some owned⟩)
      refine within.push ?_ _
      rw [same rfl]
      exact h.room _ entry

end Findings.HasRoom

/-- By induction on the tree; whether a branch is searched in vain plays no part. -/
theorem Tree.search_within {m : Method} {tree : Tree α} (wf : tree.WellFormed) {rest : List Char}
    {pos : Nat} {tried : Bool} {f : Findings} (h : f.HasRoom n tree.entries) :
    (search m rest pos tried tree f).2.captures.Within n := by
  have visited {stop : Stop α} {below : Tree α} {f : Findings} (left : List Char) (pos : Nat)
      (h : f.HasRoom n (Node.mk stop below).entries)
      (inner : (search m left pos false below f).2.captures.Within n) :
      (Node.visit m stop left pos f fun f => search m left pos false below f).2.captures.Within n :=
    (h.subset (List.subset_append_left ..)).visit inner fun g failed =>
      (follows_none (failed ▸ search_follows below left pos false f)).2
  induction tree generalizing rest pos tried f with
  | leaf => exact h.within
  | param stop below ih =>
    have pushed (r : Range) := h.param wf r
    obtain ⟨-, -, -, -, -, wfBelow⟩ := wf
    simp only [search]
    generalize rest.takeWhile (· ≠ '/') = piece
    generalize rest.dropWhile (· ≠ '/') = left
    split
    · exact h.within
    · have inside := visited left (pos + Utf8.width piece) (pushed ⟨pos, pos + Utf8.width piece⟩)
        (ih wfBelow ((pushed _).subset (List.subset_append_right ..)))
      split
      · rename_i found
        rwa [found] at inside
      · rename_i failed
        rw [failed] at inside
        exact inside.truncate _
  | literal label stop below siblings ihBelow ihSiblings =>
    obtain ⟨-, -, -, -, wfBelow, wfSiblings⟩ := wf
    simp only [search]
    split
    · exact ihSiblings wfSiblings h.later
    · rename_i left _
      have inside := visited left (pos + Utf8.width label) h.literal
        (ihBelow wfBelow (h.literal.subset (List.subset_append_right ..)))
      split
      · rename_i found
        rwa [found] at inside
      · rename_i failed
        rw [failed] at inside
        exact ihSiblings wfSiblings (h.later.again inside)

theorem Node.search_within {m : Method} {node : Node α} (wf : node.WellFormed) {rest : List Char}
    {pos : Nat} {f : Findings} (h : f.HasRoom n node.entries) :
    (node.search m rest pos f).2.captures.Within n :=
  (h.subset (List.subset_append_left ..)).visit
    (Tree.search_within wf.2 (h.subset (List.subset_append_right ..)))
    fun _ failed =>
      (follows_none (failed ▸ Tree.search_follows node.below rest pos false f)).2

namespace Router

/-- The tree is well formed, and no template in it has more places than the router counts. -/
structure Spacious (router : Router α) : Prop where
  wellFormed : router.root.WellFormed
  places : ∀ e ∈ router.root.entries, Routing.places e.tokens ≤ router.maxParams

/-- At no moment of a lookup does the buffer hold more ranges than the router counts, whatever it held
before. -/
theorem Spacious.lookup_within {router : Router α} (spacious : router.Spacious) (m : Method)
    (path : String) (buffer : Captures) :
    (router.lookup m path buffer).2.Within router.maxParams := by
  have room : Findings.HasRoom router.maxParams router.root.entries ⟨buffer.clear, []⟩ :=
    ⟨.empty, fun e mem => (Nat.zero_add _).symm ▸ spacious.places e mem⟩
  have within : (router.root.search m path.toList 0 ⟨buffer.clear, []⟩).2.captures.Within
      router.maxParams := Node.search_within spacious.wellFormed room
  rw [lookup]
  split
  · rename_i found
    rwa [found] at within
  · rename_i failed
    rwa [failed] at within

theorem Spacious.map {router : Router α} (spacious : router.Spacious) (g : α → β) :
    (router.map g).Spacious where
  wellFormed := ⟨Stop.hasOwners_map _ spacious.wellFormed.1, Tree.wellFormed_map _ spacious.wellFormed.2⟩
  places := by
    rw [Router.map, Node.entries_map]
    exact List.forall_mem_map.mpr spacious.places

/-- Some calls lead to the router from an empty one. -/
def Registered (router : Router α) : Prop := ∃ calls, router = empty.addAll calls

theorem addAll_append (router : Router α) (first second : List (Submission α)) :
    router.addAll (first ++ second) = (router.addAll first).addAll second := by
  induction first generalizing router with
  | nil => rfl
  | cons s rest ih =>
    rw [List.cons_append, addAll, addAll]
    split
    · exact ih _
    · exact ih _

theorem empty_registered : (empty : Router α).Registered := ⟨[], rfl⟩

theorem Registered.submit {router next : Router α} {s : Submission α} {route : RouteDescription}
    (registered : router.Registered) (ok : router.submit s = .ok (route, next)) :
    next.Registered := by
  obtain ⟨calls, rfl⟩ := registered
  refine ⟨calls ++ [s], ?_⟩
  rw [addAll_append, addAll, ok]
  rfl

/-- The largest number of parameters is at least that of each accepted call. -/
theorem Registered.spacious {router : Router α} (registered : router.Registered) :
    router.Spacious := by
  obtain ⟨calls, rfl⟩ := registered
  have records := records_accepted calls
  refine ⟨records.holds.wellFormed, fun e mem => ?_⟩
  obtain ⟨s, accepted, rfl⟩ := records.holds.mem_entries_iff.mp mem
  have counted : s.route.paramCount = Routing.places s.tokens := by
    rw [Submission.paramCount_route, length_paramNames]
    rfl
  have listed : s.route ∈ (empty.addAll calls).routes := by
    rw [records.listed]
    exact List.mem_map_of_mem accepted
  rw [(mirrors_accepted calls).maxParams]
  exact counted.symm ▸ List.le_max?_getD_of_mem (List.mem_map_of_mem listed)

end Router
end RequestDispatch.Routing
