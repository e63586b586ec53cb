import RequestDispatch.Proofs.Routing.OutlineOrder
import RequestDispatch.Proofs.Routing.Resolution

/-!
# The order of registration

Calls that are all accepted in one order are all accepted in every order, and the routers they lead to
cannot be told apart (`Router.registration_order_unobservable`).  Their trees are alike, because both
are well formed and hold the same entries.
-/

namespace RequestDispatch.Routing

variable {α β : Type}

/-- The outcomes differ at most in the order of the allowed methods. -/
inductive Lookup.Alike : Lookup α → Lookup α → Prop
  | found (e : Endpoint α) : Alike (.found e) (.found e)
  | methodNotAllowed {a b : List Method} (perm : a.Perm b) :
      Alike (.methodNotAllowed a) (.methodNotAllowed b)
  | notFound : Alike .notFound .notFound

theorem Wins.of_mem_iff {registered others : List (Submission α)} {m : Method} {path : String}
    {s : Submission α} (h : Wins registered m path s)
    (same : ∀ s, s ∈ registered ↔ s ∈ others) : Wins others m path s :=
  ⟨(same s).mp h.mem, h.method, h.matching, fun t mem => h.best t ((same t).mpr mem)⟩

/-- A lookup is determined by which routes are registered. -/
theorem Resolves.alike {registered others : List (Submission α)} {m : Method} {path : String}
    {result other : Lookup α × Captures} (h : Resolves registered m path result)
    (k : Resolves others m path other) (same : ∀ s, s ∈ registered ↔ s ∈ others) :
    result.1.Alike other.1 ∧ result.2.ranges = other.2.ranges := by
  cases h with
  | found s values captures readable wins filled places =>
    have wins := wins.of_mem_iff same
    cases k with
    | found t values' captures' _ wins' filled' places' =>
      cases wins.unique wins'
      cases (readable.captured filled).only values' filled'
      exact ⟨.found _, places.trans places'.symm⟩
    | methodNotAllowed _ _ _ _ _ missing _ =>
      exact absurd wins.matching (missing s wins.mem wins.method)
    | notFound _ missing _ => exact absurd wins.matching (missing s wins.mem)
  | methodNotAllowed allowed captures nonempty distinct offered missing cleared =>
    cases k with
    | found t _ _ _ wins _ _ =>
      exact absurd wins.matching (missing t ((same t).mpr wins.mem) wins.method)
    | methodNotAllowed allowed' captures' nonempty' distinct' offered' missing' cleared' =>
      refine ⟨.methodNotAllowed ?_, cleared.trans cleared'.symm⟩
      refine (List.perm_ext_iff_of_nodup distinct distinct').mpr fun x => ?_
      simp only [offered, offered', same]
    | notFound _ missing' _ =>
      obtain ⟨x, mem⟩ := List.exists_mem_of_ne_nil _ nonempty
      obtain ⟨s, here, _, matching⟩ := (offered x).mp mem
      exact absurd matching (missing' s ((same s).mp here))
  | notFound captures missing cleared =>
    cases k with
    | found t _ _ _ wins _ _ => exact absurd wins.matching (missing t ((same t).mpr wins.mem))
    | methodNotAllowed allowed' _ nonempty' _ offered' _ _ =>
      obtain ⟨x, mem⟩ := List.exists_mem_of_ne_nil _ nonempty'
      obtain ⟨s, here, _, matching⟩ := (offered' x).mp mem
      exact absurd matching (missing s ((same s).mpr here))
    | notFound captures' missing' cleared' => exact ⟨.notFound, cleared.trans cleared'.symm⟩

namespace Router

/-- The two routers cannot be told apart: by what they answer, by what they print, or by their trees. -/
structure Indistinguishable (router other : Router α) : Prop where
  lookups : ∀ (m : Method) (path : String) (buffer buffer' : Captures),
    (router.lookup m path buffer).1.Alike (other.lookup m path buffer').1 ∧
      (router.lookup m path buffer).2.ranges = (other.lookup m path buffer').2.ranges
  /-- The same lines are printed, up to the order of the methods of one line. -/
  renders : ∃ lines lines', LinesAlike lines lines' ∧
    router.render = String.join (lines.map OutlineLine.text) ∧
      other.render = String.join (lines'.map OutlineLine.text)
  roots : router.root.Alike other.root

theorem Holds.indistinguishable {router other : Router α} {registered others : List (Submission α)}
    (h : router.Holds registered) (k : other.Holds others) (perm : registered.Perm others) :
    Indistinguishable router other := by
  have entries : router.root.entries.Perm other.root.entries :=
    h.entries.trans ((perm.map _).trans k.entries.symm)
  have alike := Node.alike_of_perm h.wellFormed k.wellFormed entries
  refine ⟨fun m path buffer buffer' => ?_, ?_, alike⟩
  · exact (h.resolves m path buffer).alike (k.resolves m path buffer') fun s => perm.mem_iff
  · exact ⟨_, _, alike.outline h.wellFormed, rfl, rfl⟩

/-- The entries of the bare tree are the places of the routes. -/
theorem Holds.entries_bare {router : Router α} {registered : List (Submission α)}
    (h : router.Holds registered) :
    router.root.bare.entries.Perm
      ((registered.map Submission.place).map fun place => ⟨place.2, place.1, ()⟩) := by
  rw [Node.bare, Node.entries_map, List.map_map]
  have mapped := h.entries.map (Entry.map fun _ => ())
  rwa [List.map_map] at mapped

theorem Holds.nodup_places {router : Router α} {registered : List (Submission α)}
    (h : router.Holds registered) : (registered.map Submission.place).Nodup := by
  refine List.pairwise_map.mpr (h.distinct.imp fun apart same => apart ?_)
  exact ⟨congrArg Prod.fst same, congrArg Prod.snd same⟩

/-- Which methods and shapes are registered determines the tree, whatever the routes are otherwise and
in whatever order they came. -/
theorem Holds.bare_alike {router : Router α} {other : Router β} {registered : List (Submission α)}
    {others : List (Submission β)} (h : router.Holds registered) (k : other.Holds others)
    (same : ∀ place, place ∈ registered.map Submission.place ↔ place ∈ others.map Submission.place) :
    router.root.bare.Alike other.root.bare := by
  have places : (registered.map Submission.place).Perm (others.map Submission.place) :=
    (List.perm_ext_iff_of_nodup h.nodup_places k.nodup_places).mpr same
  refine Node.alike_of_perm (Node.bare_wellFormed h.wellFormed) (Node.bare_wellFormed k.wellFormed) ?_
  exact h.entries_bare.trans ((places.map _).trans k.entries_bare.symm)

/-- Calls that are all accepted in one order are so in any other, and the routers cannot be told apart.
The tree depends only on the set of methods and shapes: any calls, for whatever routes, that register
the same methods and shapes lead to it. -/
theorem registration_order_unobservable {calls others : List (Submission α)}
    (all : empty.accepted calls = calls) (perm : calls.Perm others) :
    empty.accepted others = others ∧
      Indistinguishable (empty.addAll calls) (empty.addAll others) ∧
        ∀ {β : Type} (elsewhere : List (Submission β)),
          (∀ place, place ∈ calls.map Submission.place ↔
            place ∈ (empty.accepted elsewhere).map Submission.place) →
          (empty.addAll calls).root.bare.Alike (empty.addAll elsewhere).root.bare := by
  have holds := holds_accepted calls
  rw [all] at holds
  have allOthers : empty.accepted others = others := by
    refine empty_holds.accepted_eq_self (fun s mem => holds.readable s (perm.mem_iff.mpr mem)) ?_
    exact holds.distinct.perm perm fun apart same => apart same.symm
  have holdsOthers := holds_accepted others
  rw [allOthers] at holdsOthers
  exact ⟨allOthers, holds.indistinguishable holdsOthers perm,
    fun elsewhere same => holds.bare_alike (holds_accepted elsewhere) same⟩

theorem registration_order_of_users :
    let calls : List (Submission Nat) :=
      [⟨.get, "/users/:id", "show", 0⟩, ⟨.get, "/users/new", "form", 1⟩,
        ⟨.post, "/users/:name", "store", 2⟩]
    empty.accepted calls = calls ∧ calls.Perm calls.reverse ∧
      empty.accepted calls.reverse = calls.reverse ∧
        Indistinguishable (empty.addAll calls) (empty.addAll calls.reverse) := by
  intro calls
  have all : empty.accepted calls = calls := by rfl
  have perm : calls.Perm calls.reverse := (List.reverse_perm calls).symm
  obtain ⟨allReversed, same, _⟩ := registration_order_unobservable all perm
  exact ⟨all, perm, allReversed, same⟩

end Router
end RequestDispatch.Routing
