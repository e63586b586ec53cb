import RequestDispatch.Proofs.Routing.Branches
import RequestDispatch.Proofs.Routing.Filling
import RequestDispatch.Proofs.Routing.Visits

/-!
# A search asks the entries that match, the preferred ones first

The visits of a path are the entries of the tree whose templates match it, with the ranges of the
only values that fill them (`Node.visits_sound`, `Node.visits_complete`), in descending order of
preference (`Node.pairwise_visits`).
-/

namespace RequestDispatch.Routing

variable {α : Type}

/-- The visit stands for entries that match, and has captured what their places take. -/
structure Visit.Matching (entries : List (Entry α)) (rest : List Char) (pos : Nat)
    (v : Visit α) : Prop where
  owned : ∀ owner ∈ v.owners, ⟨v.tokens, owner.1, owner.2⟩ ∈ entries
  filled : ∃ values, MatchesWith v.tokens rest values ∧ v.ranges = spans v.tokens values pos

/-- One of the visits stands for the entry. -/
def Visited (vs : List (Visit α)) (e : Entry α) : Prop :=
  ∃ v ∈ vs, v.tokens = e.tokens ∧ (e.method, e.value) ∈ v.owners

theorem preferred_append (front s t : List Token) :
    Preferred (front ++ s) (front ++ t) ↔ Preferred s t := by
  induction front with
  | nil => exact Iff.rfl
  | cons token front ih => simpa [Preferred] using ih

theorem preferred_char_param (c : Char) (s t : List Token) :
    Preferred (.char c :: s) (.param :: t) := by
  rw [Preferred, if_neg Token.noConfusion]
  exact Nat.one_lt_two

theorem Visit.pairwise_behind {front : List Token} {ranges : List Range} {vs : List (Visit α)}
    (ordered : vs.Pairwise fun v w => Preferred v.tokens w.tokens) :
    (vs.map (Visit.behind front ranges)).Pairwise fun v w => Preferred v.tokens w.tokens := by
  rw [List.pairwise_map]
  exact ordered.imp fun h => (preferred_append front _ _).mpr h

theorem GoesOn.preferred_catchAll {tokens : List Token} (h : GoesOn tokens) :
    Preferred tokens [.catchAll] := by
  obtain ⟨token, rest, rfl, other⟩ := h
  rw [Preferred, if_neg other]
  cases token with
  | catchAll => exact absurd rfl other
  | char c => simp [Token.rank]
  | param => simp [Token.rank]

/-- Where nothing is left of a path, nothing below a point matches. -/
theorem GoesOn.not_matchesWith_nil {tokens : List Token} (h : GoesOn tokens)
    (values : List (List Char)) : ¬ MatchesWith tokens [] values := by
  obtain ⟨token, rest, rfl, other⟩ := h
  intro filled
  cases token with
  | catchAll => exact other rfl
  | char c =>
    obtain ⟨left, eq, _⟩ := matchesWith_char_iff.mp filled
    cases eq
  | param =>
    obtain ⟨value, more, left, _, eq, nonempty, _⟩ := matchesWith_param_iff.mp filled
    exact nonempty (List.append_eq_nil_iff.mp eq.symm).1

namespace Stop

variable {stop : Stop α} {below : Tree α} {rest : List Char} {pos : Nat} {deeper : List (Visit α)}

theorem mem_visits {v : Visit α} (mem : v ∈ stop.visits rest pos deeper) :
    (rest = [] ∧ v = ⟨[], stop.ends, []⟩) ∨ v ∈ deeper ∨
      v = ⟨[.catchAll], stop.catchAlls, [⟨pos, pos + Utf8.width rest⟩]⟩ := by
  unfold visits at mem
  rcases List.mem_append.mp mem with mem | mem
  · by_cases ended : rest.isEmpty = true
    · rw [if_pos ended, List.mem_singleton] at mem
      exact .inl ⟨List.isEmpty_iff.mp ended, mem⟩
    · rw [if_neg ended] at mem
      exact .inr (.inl mem)
  · exact .inr (.inr (List.mem_singleton.mp mem))

theorem visits_sound (below : Tree α) (inner : ∀ v ∈ deeper, v.Matching below.entries rest pos)
    {v : Visit α} (mem : v ∈ stop.visits rest pos deeper) :
    v.Matching (Node.mk stop below).entries rest pos := by
  rcases mem_visits mem with ⟨rfl, rfl⟩ | mem | rfl
  · refine ⟨fun owner here => ?_, [], matchesWith_nil_iff.mpr ⟨rfl, rfl⟩, rfl⟩
    exact Node.mem_entries_iff.mpr (.inl (mem_entries_iff.mpr (.inl ⟨rfl, here⟩)))
  · obtain ⟨owned, filled⟩ := inner v mem
    exact ⟨fun owner here => Node.mem_entries_iff.mpr (.inr (owned owner here)), filled⟩
  · refine ⟨fun owner here => ?_, [rest], matchesWith_catchAll_iff.mpr rfl, rfl⟩
    exact Node.mem_entries_iff.mpr (.inl (mem_entries_iff.mpr (.inr ⟨rfl, here⟩)))

theorem visits_complete (wf : below.WellFormed)
    (inner : ∀ e ∈ below.entries, ∀ values, MatchesWith e.tokens rest values → Visited deeper e)
    {e : Entry α} (mem : e ∈ (Node.mk stop below).entries) {values : List (List Char)}
    (filled : MatchesWith e.tokens rest values) : Visited (stop.visits rest pos deeper) e := by
  unfold visits
  rcases Node.mem_entries_iff.mp mem with mem | mem
  · rcases mem_entries_iff.mp mem with ⟨tokens, here⟩ | ⟨tokens, here⟩
    · rw [tokens] at filled
      have ended := (matchesWith_nil_iff.mp filled).1
      subst ended
      exact ⟨_, List.mem_append_left _ (List.mem_singleton.mpr rfl), tokens.symm, here⟩
    · exact ⟨_, List.mem_append_right _ (List.mem_singleton.mpr rfl), tokens.symm, here⟩
  · by_cases ended : rest.isEmpty = true
    · rw [List.isEmpty_iff.mp ended] at filled
      exact absurd filled ((Tree.goesOn_of_mem_entries wf mem).not_matchesWith_nil values)
    · obtain ⟨v, here, owns⟩ := inner e mem values filled
      rw [if_neg ended]
      exact ⟨v, List.mem_append_left _ here, owns⟩

theorem pairwise_visits (ordered : deeper.Pairwise fun v w => Preferred v.tokens w.tokens)
    (goesOn : ∀ v ∈ deeper, GoesOn v.tokens) :
    (stop.visits rest pos deeper).Pairwise fun v w => Preferred v.tokens w.tokens := by
  unfold visits
  rw [List.pairwise_append]
  refine ⟨?_, List.pairwise_singleton _ _, ?_⟩
  · split
    · exact List.pairwise_singleton _ _
    · exact ordered
  · intro v here w last
    rw [List.mem_singleton] at last
    subst last
    split at here
    · rw [List.mem_singleton] at here
      subst here
      rfl
    · exact (goesOn v here).preferred_catchAll

end Stop

namespace Tree

variable {rest : List Char} {pos : Nat} {tried : Bool} {tree : Tree α}

theorem visits_sound {v : Visit α} (mem : v ∈ tree.visits rest pos tried) :
    v.Matching tree.entries rest pos := by
  induction tree generalizing rest pos tried v with
  | leaf => cases mem
  | param stop below ih =>
    simp only [visits] at mem
    split at mem
    · cases mem
    · rename_i filled
      obtain ⟨inner, here, rfl⟩ := List.mem_map.mp mem
      obtain ⟨owned, values, matching, ranges⟩ := Stop.visits_sound below
        (fun w hw => ih hw) here
      refine ⟨fun owner asked => ?_, rest.takeWhile (· ≠ '/') :: values, ?_, ?_⟩
      · exact mem_entries_param.mpr ⟨_, owned owner asked, rfl⟩
      · refine matchesWith_param_iff.mpr ⟨_, _, _, rfl, List.takeWhile_append_dropWhile.symm, ?_, ?_,
          matching⟩
        · intro empty
          exact filled (List.isEmpty_iff.mpr empty)
        · intro slash
          simpa using List.all_eq_true.mp List.all_takeWhile '/' slash
      · simp only [Visit.behind, ranges]
        rfl
  | literal label stop below siblings ihBelow ihSiblings =>
    have later {tried : Bool} {v : Visit α} (here : v ∈ siblings.visits rest pos tried) :
        v.Matching (literal label stop below siblings).entries rest pos := by
      obtain ⟨owned, filled⟩ := ihSiblings here
      exact ⟨fun owner asked => mem_entries_literal.mpr (.inr (owned owner asked)), filled⟩
    simp only [visits] at mem
    split at mem
    · exact later mem
    · rename_i left fits
      have fits : after? label rest = some left := by
        split at fits
        · cases fits
        · exact fits
      have eq := (after?_eq_some_iff label rest left).mp fits
      subst eq
      rcases List.mem_append.mp mem with mem | mem
      · obtain ⟨inner, here, rfl⟩ := List.mem_map.mp mem
        obtain ⟨owned, values, matching, ranges⟩ := Stop.visits_sound below
          (fun w hw => ihBelow hw) here
        refine ⟨fun owner asked => ?_, values, ?_, ?_⟩
        · exact mem_entries_literal.mpr (.inl ⟨_, owned owner asked, rfl⟩)
        · exact matchesWith_chars_iff.mpr ⟨left, rfl, matching⟩
        · simp only [Visit.behind, ranges, spans_chars_append, List.nil_append]
      · exact later mem

/-- Once the literal branch that fits has been searched, only the parameter is left. -/
theorem head_of_mem_visits_tried {v : Visit α} (mem : v ∈ tree.visits rest pos true) :
    v.tokens.head? = some .param := by
  induction tree with
  | leaf => cases mem
  | param stop below =>
    simp only [visits] at mem
    split at mem
    · cases mem
    · obtain ⟨inner, _, rfl⟩ := List.mem_map.mp mem
      rfl
  | literal label stop below siblings _ ih => exact ih mem

theorem goesOn_of_mem_visits (wf : tree.WellFormed) {v : Visit α}
    (mem : v ∈ tree.visits rest pos tried) : GoesOn v.tokens := by
  induction tree generalizing tried with
  | leaf => cases mem
  | param stop below =>
    simp only [visits] at mem
    split at mem
    · cases mem
    · obtain ⟨inner, _, rfl⟩ := List.mem_map.mp mem
      exact ⟨.param, inner.tokens, rfl, Token.noConfusion⟩
  | literal label stop below siblings _ ih =>
    obtain ⟨filled, _, _, _, wfSiblings⟩ := wellFormed_literal_iff.mp wf
    simp only [visits] at mem
    split at mem
    · exact ih wfSiblings mem
    · rcases List.mem_append.mp mem with mem | mem
      · obtain ⟨inner, _, rfl⟩ := List.mem_map.mp mem
        obtain ⟨c, label, rfl⟩ := List.exists_cons_of_ne_nil filled
        exact ⟨.char c, label.map .char ++ inner.tokens, rfl, Token.noConfusion⟩
      · exact ih wfSiblings mem

/-- An entry that matches where the label fits, but lies beside that branch, begins with a parameter:
another character cannot match, and the same one is the label's. -/
theorem head_of_sibling_matches {label left : List Char} {stop : Stop α} {below siblings : Tree α}
    (wf : (literal label stop below siblings).WellFormed) {e : Entry α} (mem : e ∈ siblings.entries)
    {values : List (List Char)} (matching : MatchesWith e.tokens (label ++ left) values) :
    e.tokens.head? = some .param := by
  obtain ⟨filled, apart, _, _, wfSiblings⟩ := wellFormed_literal_iff.mp wf
  obtain ⟨c, label, rfl⟩ := List.exists_cons_of_ne_nil filled
  obtain ⟨token, tail, tokens, other⟩ := goesOn_of_mem_entries wfSiblings mem
  have differs := apart e mem
  rw [tokens] at matching differs ⊢
  cases token with
  | catchAll => exact absurd rfl other
  | param => rfl
  | char d =>
    obtain ⟨_, same, _⟩ := matchesWith_char_iff.mp matching
    cases same
    exact absurd rfl differs

theorem visits_complete (wf : tree.WellFormed) {e : Entry α} (mem : e ∈ tree.entries)
    {values : List (List Char)} (matching : MatchesWith e.tokens rest values)
    (within : tried = false ∨ e.tokens.head? = some .param) :
    Visited (tree.visits rest pos tried) e := by
  induction tree generalizing rest pos tried e values with
  | leaf => cases mem
  | param stop below ih =>
    obtain ⟨_, follows, wfNode⟩ := wellFormed_param_iff.mp wf
    obtain ⟨inner, here, rfl⟩ := mem_entries_param.mp mem
    obtain ⟨value, more, left, rfl, rfl, filled, whole, later⟩ := matchesWith_param_iff.mp matching
    obtain ⟨piece, remains⟩ := cut_at_slash whole (slash_after_param (follows inner here) later)
    simp only [visits, piece, remains]
    rw [if_neg (fun empty => filled (List.isEmpty_iff.mp empty))]
    have deeper : ∀ e ∈ below.entries, ∀ values, MatchesWith e.tokens left values →
        Visited (below.visits left (pos + Utf8.width value) false) e :=
      fun e he _ hv => ih wfNode.2 he hv (.inl rfl)
    obtain ⟨v, asked, tokens, owner⟩ := Stop.visits_complete wfNode.2 deeper here later
    exact ⟨v.behind _ _, List.mem_map_of_mem asked, congrArg _ tokens, owner⟩
  | literal label stop below siblings ihBelow ihSiblings =>
    obtain ⟨filled, _, _, wfNode, wfSiblings⟩ := wellFormed_literal_iff.mp wf
    simp only [visits]
    rcases mem_entries_literal.mp mem with ⟨inner, here, rfl⟩ | beside
    · obtain ⟨left, rfl, later⟩ := matchesWith_chars_iff.mp matching
      have untried : tried = false := by
        rcases within with untried | viaParam
        · exact untried
        · obtain ⟨c, label, rfl⟩ := List.exists_cons_of_ne_nil filled
          cases viaParam
      subst untried
      rw [if_neg Bool.false_ne_true, (after?_eq_some_iff label _ left).mpr rfl]
      have deeper : ∀ e ∈ below.entries, ∀ values, MatchesWith e.tokens left values →
          Visited (below.visits left (pos + Utf8.width label) false) e :=
        fun e he _ hv => ihBelow wfNode.2 he hv (.inl rfl)
      obtain ⟨v, asked, tokens, owner⟩ := Stop.visits_complete wfNode.2 deeper here later
      exact ⟨v.behind _ _, List.mem_append_left _ (List.mem_map_of_mem asked), congrArg _ tokens,
        owner⟩
    · cases fits : if tried then none else after? label rest with
      | none => exact ihSiblings wfSiblings beside matching within
      | some left =>
        have begins : rest = label ++ left := by
          split at fits
          · cases fits
          · exact (after?_eq_some_iff _ _ _).mp fits
        subst begins
        have viaParam := head_of_sibling_matches wf beside matching
        obtain ⟨v, asked, owns⟩ := ihSiblings wfSiblings beside matching (.inr viaParam)
        exact ⟨v, List.mem_append_right _ asked, owns⟩

theorem pairwise_visits (wf : tree.WellFormed) :
    (tree.visits rest pos tried).Pairwise fun v w => Preferred v.tokens w.tokens := by
  induction tree generalizing rest pos tried with
  | leaf => exact .nil
  | param stop below ih =>
    obtain ⟨_, _, wfNode⟩ := wellFormed_param_iff.mp wf
    simp only [visits]
    split
    · exact .nil
    · exact Visit.pairwise_behind (Stop.pairwise_visits (ih wfNode.2) fun _ =>
        goesOn_of_mem_visits wfNode.2)
  | literal label stop below siblings ihBelow ihSiblings =>
    obtain ⟨filled, _, _, wfNode, wfSiblings⟩ := wellFormed_literal_iff.mp wf
    simp only [visits]
    split
    · exact ihSiblings wfSiblings
    · rw [List.pairwise_append]
      refine ⟨Visit.pairwise_behind (Stop.pairwise_visits (ihBelow wfNode.2) fun _ =>
        goesOn_of_mem_visits wfNode.2), ihSiblings wfSiblings, ?_⟩
      intro v here w later
      obtain ⟨inner, _, rfl⟩ := List.mem_map.mp here
      obtain ⟨c, label, rfl⟩ := List.exists_cons_of_ne_nil filled
      obtain ⟨tail, tokens⟩ := List.head?_eq_some_iff.mp (head_of_mem_visits_tried later)
      rw [tokens]
      exact preferred_char_param c _ tail

end Tree

namespace Node

variable {node : Node α} {rest : List Char} {pos : Nat}

theorem visits_sound {v : Visit α} (mem : v ∈ node.visits rest pos) :
    v.Matching node.entries rest pos :=
  Stop.visits_sound node.below (fun _ here => Tree.visits_sound here) mem

theorem visits_complete (wf : node.WellFormed) {e : Entry α} (mem : e ∈ node.entries)
    (matching : Matches e.tokens rest) : Visited (node.visits rest pos) e := by
  obtain ⟨values, filled⟩ := matching
  have deeper : ∀ e ∈ node.below.entries, ∀ values, MatchesWith e.tokens rest values →
      Visited (node.below.visits rest pos false) e :=
    fun e he _ hv => Tree.visits_complete wf.2 he hv (.inl rfl)
  exact Stop.visits_complete wf.2 deeper mem filled

theorem pairwise_visits (wf : node.WellFormed) :
    (node.visits rest pos).Pairwise fun v w => Preferred v.tokens w.tokens :=
  Stop.pairwise_visits (Tree.pairwise_visits wf.2) fun _ => Tree.goesOn_of_mem_visits wf.2

end Node
end RequestDispatch.Routing
