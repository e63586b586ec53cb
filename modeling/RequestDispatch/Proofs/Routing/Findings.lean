import RequestDispatch.Proofs.Routing.Search
import RequestDispatch.Proofs.Routing.Submissions

/-!
# What a search does to the findings it is handed

One buffer of captures and one list of methods are handed through all branches of a search, those that lead
nowhere included.  Whatever they hold at the start, a search in vain gives the captures back as they were,
a search that finds something adds the ranges of its own branch, and the list only ever grows by methods
other than the one that is searched for (`Node.search_hands_back`).  Nothing is assumed of the tree.
-/

namespace RequestDispatch.Routing

variable {α : Type} {m : Method}

/-! ### The methods that are noted -/

/-- The list has been extended by methods that it lacked, each once and none of them `m`. -/
def NotesOthers (m : Method) (before after : List Method) : Prop :=
  ∃ added, after = before ++ added ∧ added.Nodup ∧ ∀ x ∈ added, x ≠ m ∧ x ∉ before

namespace NotesOthers

theorem refl (listed : List Method) : NotesOthers m listed listed :=
  ⟨[], (List.append_nil _).symm, .nil, nofun⟩

theorem trans {a b c : List Method} (first : NotesOthers m a b) (second : NotesOthers m b c) :
    NotesOthers m a c := by
  obtain ⟨added, rfl, nodup, fresh⟩ := first
  obtain ⟨more, rfl, nodupMore, freshMore⟩ := second
  refine ⟨added ++ more, List.append_assoc .., ?_, ?_⟩
  · refine List.nodup_append.mpr ⟨nodup, nodupMore, ?_⟩
    rintro x here y there rfl
    exact (freshMore x there).2 (List.mem_append_right _ here)
  · intro x mem
    rcases List.mem_append.mp mem with here | there
    · exact fresh x here
    · obtain ⟨other, missing⟩ := freshMore x there
      exact ⟨other, fun listed => missing (List.mem_append_left _ listed)⟩

/-- Owners among whom the method is missing are noted. -/
theorem of_owners {owners : List (Method × α)} (missing : owners.lookup m = none)
    (listed : List Method) : NotesOthers m listed (addDistinct listed (owners.map Prod.fst)) := by
  obtain ⟨added, eq, inside, nodup, fresh⟩ := exists_addDistinct listed (owners.map Prod.fst)
  refine ⟨added, eq, nodup, fun x mem => ⟨?_, fresh x mem⟩⟩
  obtain ⟨owner, here, rfl⟩ := List.mem_map.mp (inside.subset mem)
  exact ne_of_lookup_eq_none missing here

end NotesOthers

/-- By induction on the visits that are asked: each of them that does not end the search notes its
methods. -/
theorem Visit.scan_notes (vs : List (Visit α)) (listed : List Method) :
    NotesOthers m listed (scan m vs listed).2 := by
  induction vs generalizing listed with
  | nil => exact .refl listed
  | cons v vs ih =>
    unfold scan
    cases asked : v.owners.lookup m with
    | some a => exact .refl listed
    | none => exact (NotesOthers.of_owners asked listed).trans (ih _)

/-! ### The ranges that are captured -/

/-- The ranges taken of a path on the branch to an entry from the point where `rest` was left: one for each
parameter and catch-all on the branch, in order, around the text that matches there. -/
structure TakenAlong (tokens : List Token) (path : List Char) (pos : Nat) (rest : List Char)
    (ranges : List Range) : Prop where
  counted : ranges.length = places tokens
  behind : ∀ range ∈ ranges, pos ≤ range.start
  ascending : ranges.Pairwise fun a b => a.stop ≤ b.start
  sliced : ∃ values, MatchesWith tokens rest values ∧
    List.Forall₂ (fun range value => Utf8.slice? range path = some value) ranges values

theorem takenAlong_spans {tokens : List Token} {rest : List Char} {values : List (List Char)}
    (filled : MatchesWith tokens rest values) (front : List Char) :
    TakenAlong tokens (front ++ rest) (Utf8.width front) rest
      (spans tokens values (Utf8.width front)) where
  counted := (slices_of_spans filled front).length_eq.trans (length_eq_places filled.1)
  behind _ mem := (start_of_mem_spans mem).1
  ascending := ascending_spans tokens values _
  sliced := ⟨values, filled, slices_of_spans filled front⟩

/-- A search from any point of any tree, for a path that has been passed up to `pos` between two of its
characters.  In vain it leaves the captures as they were.  If it finds something, that is registered for the
method at the end of some branch from the point on, and the ranges of this branch have been added behind the
captures that were there.  In both cases the methods that were listed still come first, and those behind them
are others than `m`, were missing, and are listed once. -/
theorem Node.search_hands_back (node : Node α) (m : Method) {path rest : List Char} {pos : Nat}
    (reached : Utf8.drop? pos path = some rest) (f : Findings) :
    let result := node.search m rest pos f
    (result.1 = none → result.2.captures.ranges = f.captures.ranges) ∧
      (∀ a, result.1 = some a → ∃ tokens ranges, ⟨tokens, m, a⟩ ∈ node.entries ∧
        result.2.captures.ranges = f.captures.ranges ++ ranges ∧
        TakenAlong tokens path pos rest ranges) ∧
      NotesOthers m f.allowed result.2.allowed := by
  intro result
  have follows : Follows f result _ := search_follows m node rest pos f
  obtain ⟨front, rfl, rfl⟩ := Utf8.drop?_eq_some_iff.mp reached
  generalize result = found at follows
  obtain ⟨winner, g⟩ := found
  refine ⟨?_, ?_, ?_⟩
  · rintro rfl
    exact (follows_none follows).2
  · rintro a rfl
    obtain ⟨ranges, scanned, captures⟩ := follows_some follows
    obtain ⟨_, v, _, split, owner, rfl, _⟩ := Visit.scan_found scanned
    have asked : v ∈ node.visits rest (Utf8.width front) := by
      rw [split]
      simp
    obtain ⟨owned, values, filled, places⟩ := visits_sound asked
    rw [places] at captures
    exact ⟨v.tokens, _, owned _ owner, captures, takenAlong_spans filled front⟩
  · rw [follows.allowed]
    exact Visit.scan_notes _ _

/-- Two ways on which parameters are captured end at other methods; then the catch-all takes the rest of the
path.  A range and a method stand there from before. -/
theorem Node.search_hands_back_midway :
    let calls : List (Submission Nat) :=
      [⟨.put, "/é/:id/show", "put", 0⟩, ⟨.post, "/:a/:b/show", "post", 1⟩, ⟨.get, "/*rest", "rest", 2⟩]
    let root := (Router.empty.addAll calls).root
    let path := "ab/é/7/show".toList
    let rest := "/é/7/show".toList
    let f : Findings := ⟨⟨[⟨0, 2⟩], 1⟩, [.post]⟩
    let result := root.search .get rest 2 f
    Utf8.drop? 2 path = some rest ∧ result.2.captures.ranges = [⟨0, 2⟩, ⟨3, 12⟩] ∧
      result.2.allowed = [.post, .put] ∧ NotesOthers .get [.post] [.post, .put] ∧
      ∃ a tokens, result.1 = some a ∧ ⟨tokens, .get, a⟩ ∈ root.entries ∧
        TakenAlong tokens path 2 rest [⟨3, 12⟩] := by
  intro calls root path rest f result
  have reached : Utf8.drop? 2 path = some rest := by decide
  have captures : result.2.captures.ranges = [⟨0, 2⟩, ⟨3, 12⟩] := by decide +kernel
  have allowed : result.2.allowed = [.post, .put] := by decide +kernel
  have succeeded : result.1.isSome = true := by decide +kernel
  obtain ⟨a, found⟩ := Option.isSome_iff_exists.mp succeeded
  obtain ⟨-, winner, notes⟩ := root.search_hands_back .get reached f
  obtain ⟨tokens, ranges, mem, added, taken⟩ := winner a found
  rw [captures] at added
  obtain rfl : [⟨3, 12⟩] = ranges := (List.cons.inj added).2
  exact ⟨reached, captures, allowed, allowed ▸ notes, a, tokens, found, mem, taken⟩

end RequestDispatch.Routing
