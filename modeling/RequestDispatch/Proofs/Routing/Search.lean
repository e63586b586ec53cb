import RequestDispatch.Proofs.Routing.Candidates

/-!
# What a search finds

A search from a well-formed node finds the preferred one among the entries of the method that match,
together with the places of its values (`Node.search_found`).  A search in vain has met every entry that
matches and noted its method (`Node.search_failed`).
-/

namespace RequestDispatch.Routing

variable {α : Type} {m : Method}

namespace Visit

theorem scan_found {vs : List (Visit α)} {allowed noted : List Method} {a : α}
    {ranges : List Range} (h : scan m vs allowed = (some (a, ranges), noted)) :
    ∃ front v back, vs = front ++ v :: back ∧ (m, a) ∈ v.owners ∧ v.ranges = ranges ∧
      ∀ w ∈ front, ∀ owner ∈ w.owners, owner.1 ≠ m := by
  induction vs generalizing allowed with
  | nil => cases h
  | cons v vs ih =>
    rw [scan] at h
    split at h
    · rename_i found
      cases h
      exact ⟨[], v, vs, rfl, mem_of_lookup_eq_some found, rfl,
        fun _ mem => absurd mem List.not_mem_nil⟩
    · rename_i absent
      obtain ⟨front, w, back, rfl, owned, same, passed⟩ := ih h
      refine ⟨v :: front, w, back, rfl, owned, same, ?_⟩
      intro x mem owner here
      rcases List.mem_cons.mp mem with rfl | mem
      · exact ne_of_lookup_eq_none absent here
      · exact passed x mem owner here

theorem scan_failed {vs : List (Visit α)} {allowed noted : List Method}
    (h : scan m vs allowed = (none, noted)) :
    (∀ v ∈ vs, ∀ owner ∈ v.owners, owner.1 ≠ m) ∧
      (∀ x, x ∈ noted ↔ x ∈ allowed ∨ ∃ v ∈ vs, ∃ owner ∈ v.owners, owner.1 = x) ∧
      (allowed.Nodup → noted.Nodup) := by
  induction vs generalizing allowed with
  | nil =>
    cases h
    exact ⟨fun _ mem => absurd mem List.not_mem_nil, by simp, id⟩
  | cons v vs ih =>
    rw [scan] at h
    split at h
    · cases h
    · rename_i absent
      obtain ⟨passed, noted_iff, nodup⟩ := ih h
      refine ⟨?_, ?_, fun distinct => nodup (nodup_addDistinct _ _ distinct)⟩
      · intro w mem owner here
        rcases List.mem_cons.mp mem with rfl | mem
        · exact ne_of_lookup_eq_none absent here
        · exact passed w mem owner here
      · intro x
        rw [noted_iff, mem_addDistinct]
        simp only [List.mem_map, List.exists_mem_cons_iff, or_assoc]

end Visit

namespace Node

variable {node : Node α} {rest : List Char} {pos : Nat} {f g : Findings}

/-- The winner matches, its values have been captured, and it is preferred to every other entry of the
method that matches. -/
theorem search_found (wf : node.WellFormed) {a : α}
    (h : node.search m rest pos f = (some a, g)) :
    ∃ tokens values, ⟨tokens, m, a⟩ ∈ node.entries ∧ MatchesWith tokens rest values ∧
      g.captures.ranges = f.captures.ranges ++ spans tokens values pos ∧
      ∀ e ∈ node.entries, e.method = m → Matches e.tokens rest →
        e.tokens = tokens ∨ Preferred tokens e.tokens := by
  have follows := search_follows m node rest pos f
  rw [h] at follows
  obtain ⟨ranges, scanned, captures⟩ := follows_some follows
  obtain ⟨front, v, back, split, owner, rfl, passed⟩ := Visit.scan_found scanned
  have ordered : (node.visits rest pos).Pairwise fun v w => Preferred v.tokens w.tokens :=
    pairwise_visits wf
  have here : v ∈ node.visits rest pos := by
    rw [split]
    exact List.mem_append_right _ (List.mem_cons_self ..)
  obtain ⟨owned, values, filled, places⟩ := visits_sound here
  refine ⟨v.tokens, values, owned _ owner, filled, places ▸ captures, ?_⟩
  rintro e mem rfl matching
  have visited : Visited (node.visits rest pos) e := visits_complete wf mem matching
  obtain ⟨w, asked, tokens, owns⟩ := visited
  rw [← tokens]
  rw [split] at asked ordered
  rcases List.mem_append.mp asked with before | later
  · exact absurd rfl (passed w before _ owns)
  · rcases List.mem_cons.mp later with rfl | later
    · exact .inl rfl
    · have fromWinner := (List.pairwise_append.mp ordered).2.1
      exact .inr (List.rel_of_pairwise_cons fromWinner later)

/-- A search in vain leaves the captures alone and notes the methods of everything that matches. -/
theorem search_failed (wf : node.WellFormed) (h : node.search m rest pos f = (none, g)) :
    g.captures.ranges = f.captures.ranges ∧
      (∀ e ∈ node.entries, Matches e.tokens rest → e.method ≠ m) ∧
      (∀ x, x ∈ g.allowed ↔
        x ∈ f.allowed ∨ ∃ e ∈ node.entries, Matches e.tokens rest ∧ e.method = x) ∧
      (f.allowed.Nodup → g.allowed.Nodup) := by
  have follows := search_follows m node rest pos f
  rw [h] at follows
  obtain ⟨scanned, captures⟩ := follows_none follows
  obtain ⟨passed, noted, nodup⟩ := Visit.scan_failed scanned
  have visited : ∀ e ∈ node.entries, Matches e.tokens rest → Visited (node.visits rest pos) e :=
    fun _ => visits_complete wf
  refine ⟨captures, ?_, fun x => (noted x).trans (or_congr_right ?_), nodup⟩
  · intro e mem matching
    obtain ⟨v, asked, _, owns⟩ := visited e mem matching
    exact passed v asked _ owns
  · constructor
    · rintro ⟨v, asked, owner, here, rfl⟩
      obtain ⟨owned, values, filled, _⟩ := visits_sound asked
      exact ⟨_, owned owner here, ⟨values, filled⟩, rfl⟩
    · rintro ⟨e, mem, matching, rfl⟩
      obtain ⟨v, asked, _, owns⟩ := visited e mem matching
      exact ⟨v, asked, _, owns, rfl⟩

end Node
end RequestDispatch.Routing
