import RequestDispatch.Proofs.Routing.Insertion
import RequestDispatch.Proofs.Routing.Records

/-!
# Refused calls

Insertion changes a tree on its way: labels are cut and branches opened before it is known whether the
place at the end is free.  `Tree.insertStepwise` takes these steps one after another and takes none of
them back.  None has to be taken back: where a label has been cut or a branch opened nothing that
follows can be refused (`Tree.place_split`, `Tree.place_empty`), so a refusal finds the tree as it was
(`Tree.insertStepwise_eq`).  Hence a call is refused for its template or by the one owner of its place,
and leaves the router unchanged (`Router.registration_atomic`).
-/

namespace RequestDispatch.Routing

variable {α σ τ : Type}

/-- A change made step by step: who refused it, if anybody did, and what it left behind. -/
structure Attempt (α σ : Type) where
  refusal : Option α
  left : σ

namespace Attempt

def map (f : σ → τ) (x : Attempt α σ) : Attempt α τ := ⟨x.refusal, f x.left⟩

/-- What was made aside is put in place once it is complete; after a refusal it is dropped. -/
def attach (before : τ) (f : σ → τ) (x : Attempt α σ) : Attempt α τ :=
  match x.refusal with
  | none => ⟨none, f x.left⟩
  | some owner => ⟨some owner, before⟩

/-- A change made at once: a refusal leaves all as it was. -/
def atOnce (before : σ) : Except α σ → Attempt α σ
  | .ok after => ⟨none, after⟩
  | .error owner => ⟨some owner, before⟩

theorem map_atOnce (f : σ → τ) (before : σ) (answer : Except α σ) :
    (atOnce before answer).map f = atOnce (f before) (answer.map f) := by
  cases answer <;> rfl

end Attempt

namespace Node

/-- The point under a label, cut where anything is left of the label. -/
def cut (back : List Char) (node : Node α) : Node α :=
  if back.isEmpty then node else split back node

/-- Registers at this point or leaves it to what `deeper` makes of the branches below.  Registering is
one step: the owner is looked up first.  A point without catch-alls has no branch for them. -/
def placeStepwise (m : Method) (a : α) (node : Node α) (tokens : List Token)
    (deeper : Attempt α (Tree α)) : Attempt α (Node α) :=
  match tokens with
  | [] => (Attempt.atOnce node.stop.ends (Stop.register node.stop.ends m a)).map fun ends =>
      ⟨{ node.stop with ends := ends }, node.below⟩
  | .catchAll :: _ =>
    (Attempt.atOnce node.stop.catchAlls (Stop.register node.stop.catchAlls m a)).map fun catchAlls =>
      ⟨{ node.stop with catchAlls := catchAlls }, node.below⟩
  | _ => deeper.map fun below => ⟨node.stop, below⟩

end Node

/-- What the tokens share with a label is spent at the end of it. -/
theorem length_drop_lt_of_cut {label common back front : List Char} {c : Char} {tokens : List Token}
    (cut : commonPart label (leadingChars tokens) = (c :: common, back, front)) :
    (tokens.drop (c :: common).length).length < tokens.length := by
  have shared : tokens = (c :: common).map .char ++ tokens.drop (c :: common).length :=
    (Tree.cut_label cut).2.1
  have lengths := congrArg List.length shared
  simp only [List.length_append, List.length_map, List.length_cons] at lengths ⊢
  omega

/-- Insertion with every change made as soon as the way leads there: a parameter branch is opened empty
and a label is cut before the rest of the tokens is looked at; a literal branch is filled first and
attached then. -/
def Tree.insertStepwise (m : Method) (a : α) (tree : Tree α) (tokens : List Token) :
    Attempt α (Tree α) :=
  match tree, tokens with
  | .leaf, .param :: rest =>
    (Node.placeStepwise m a .empty rest (insertStepwise m a .leaf rest)).map fun node =>
      .param node.stop node.below
  | .leaf, .char c :: rest =>
    let further := rest.drop (leadingChars rest).length
    (Node.placeStepwise m a .empty further (insertStepwise m a .leaf further)).attach .leaf
      fun node => .literal (c :: leadingChars rest) node.stop node.below .leaf
  | .leaf, _ => ⟨none, .leaf⟩
  | .param stop below, .param :: rest =>
    (Node.placeStepwise m a ⟨stop, below⟩ rest (insertStepwise m a below rest)).map fun node =>
      .param node.stop node.below
  | .param stop below, tokens =>
    (insertStepwise m a .leaf tokens).attach (.param stop below)
      fun fresh => fresh.before (.param stop below)
  | .literal label stop below siblings, tokens =>
    match _parted : commonPart label (leadingChars tokens) with
    | ([], _, _) => (insertStepwise m a siblings tokens).map fun siblings =>
        .literal label stop below siblings
    | (c :: common, back, _) =>
      let node := Node.cut back ⟨stop, below⟩
      let further := tokens.drop (c :: common).length
      (Node.placeStepwise m a node further (insertStepwise m a node.below further)).map fun node =>
        .literal (c :: common) node.stop node.below siblings
termination_by (tokens.length, sizeOf tree)
decreasing_by
  · exact Prod.Lex.left _ _ (Nat.lt_succ_self _)
  · exact Prod.Lex.left _ _ (by simp only [List.length_drop, List.length_cons]; omega)
  · exact Prod.Lex.left _ _ (Nat.lt_succ_self _)
  · exact Prod.Lex.right _ (by cases stop; simp; omega)
  · exact Prod.Lex.right _ (by decreasing_tactic)
  · exact Prod.Lex.left _ _ (length_drop_lt_of_cut _parted)

variable {m : Method} {a : α}

/-- If the branches are changed as at once, so is the point above them. -/
theorem Node.placeStepwise_eq {node : Node α} {tokens : List Token} {attempt : Attempt α (Tree α)}
    (deeper : List Token → Except α (Tree α))
    (inner : GoesOn tokens → attempt = .atOnce node.below (deeper tokens)) :
    placeStepwise m a node tokens attempt = .atOnce node (place m a node tokens deeper) := by
  cases tokens with
  | nil => simp only [placeStepwise, place, Attempt.map_atOnce]
  | cons token rest =>
    cases token with
    | catchAll => simp only [placeStepwise, place, Attempt.map_atOnce]
    | char c =>
      simp only [placeStepwise, place, inner (goesOn_char c rest), Attempt.map_atOnce]
    | param =>
      simp only [placeStepwise, place, inner (goesOn_param rest), Attempt.map_atOnce]

namespace Tree

/-- A chain stands under the characters that come first. -/
theorem chain_eq_under (label : List Char) (tokens : List Token) :
    chain m a label tokens =
      .under (label ++ leadingChars tokens)
        (chain m a [] (tokens.drop (leadingChars tokens).length)) := by
  induction tokens generalizing label with
  | nil => simp [leadingChars, chain, Node.under]
  | cons token rest ih =>
    cases token with
    | char c =>
      rw [chain, ih, leadingChars, List.append_assoc]
      rfl
    | param => simp [leadingChars, chain, Node.under]
    | catchAll => simp [leadingChars, chain, Node.under]

/-- Nothing is refused at a fresh point. -/
theorem place_empty (tokens : List Token) :
    Node.place m a .empty tokens (insert m a leaf) = .ok (chain m a [] tokens) := by
  by_cases goesOn : GoesOn tokens
  · have stop : (chain m a [] tokens).stop = .empty := stop_chain (.inr goesOn)
    generalize grown : chain m a [] tokens = fresh at stop
    obtain ⟨c, rest, rfl⟩ | ⟨rest, rfl⟩ := goesOn.char_or_param
    · simp only [Node.place, insert, grown, Node.empty, ← stop]
      rfl
    · simp only [Node.place, insert, grown, Node.empty, ← stop]
      rfl
  · cases tokens with
    | nil => rfl
    | cons token rest =>
      cases token with
      | catchAll => rfl
      | char c => exact absurd (goesOn_char c rest) goesOn
      | param => exact absurd (goesOn_param rest) goesOn

/-- A label that has nothing in common with the tokens is passed by. -/
theorem insert_past {label : List Char} {tokens : List Token}
    (apart : (commonPart label (leadingChars tokens)).1 = []) (stop : Stop α) (below siblings : Tree α) :
    insert m a (literal label stop below siblings) tokens =
      (insert m a siblings tokens).map fun siblings => literal label stop below siblings := by
  rw [insert]
  generalize commonPart label (leadingChars tokens) = parts at apart
  obtain ⟨common, back, front⟩ := parts
  cases apart
  rfl

/-- Tokens that do not begin as a lone label does grow beside it. -/
theorem insert_beside {label : List Char} {stop : Stop α} {below : Tree α} {tokens : List Token}
    (filled : label ≠ []) (leaves : tokens.head? ≠ firstToken label) :
    insert m a (literal label stop below leaf) tokens =
      .ok (literal label stop below (chain m a [] tokens).below) := by
  obtain ⟨c, label, rfl⟩ := List.exists_cons_of_ne_nil filled
  have apart : (commonPart (c :: label) (leadingChars tokens)).1 = [] := by
    cases tokens with
    | nil => rfl
    | cons token rest =>
      cases token with
      | char d =>
        have other : c ≠ d := by
          rintro rfl
          exact leaves rfl
        simp only [leadingChars, commonPart, other, if_false]
      | _ => rfl
  rw [insert_past apart]
  rfl

/-- Nothing is refused where a label has been cut: the point of the cut is bare, and the tokens do not go
on as the end of the label does. -/
theorem place_split {back : List Char} (node : Node α) {tokens : List Token} (filled : back ≠ [])
    (leaves : tokens.head? ≠ firstToken back) :
    ∃ next, Node.place m a (.split back node) tokens (insert m a (Node.split back node).below) =
        .ok next ∧
      (Node.place m a (.split back node) tokens fun deeper =>
        .ok (literal back node.stop node.below (chain m a [] deeper).below)) = .ok next := by
  have beside : insert m a (literal back node.stop node.below leaf) tokens = _ :=
    insert_beside filled leaves
  cases tokens with
  | nil => exact ⟨_, rfl, rfl⟩
  | cons token rest =>
    cases token with
    | catchAll => exact ⟨_, rfl, rfl⟩
    | _ => exact ⟨_, congrArg (Except.map _) beside, rfl⟩

/-- Where the tokens begin as a label does, they are placed at the point under the label, which is cut if they
leave it before its end. -/
theorem insert_cut {label common back front : List Char} {c : Char} {tokens : List Token}
    (parted : commonPart label (leadingChars tokens) = (c :: common, back, front)) (stop : Stop α)
    (below siblings : Tree α) :
    insert m a (literal label stop below siblings) tokens =
      (Node.place m a (.cut back ⟨stop, below⟩) (tokens.drop (c :: common).length)
        (insert m a (Node.cut back ⟨stop, below⟩).below)).map fun node =>
          literal (c :: common) node.stop node.below siblings := by
  rw [insert, parted]
  cases back with
  | nil => rfl
  | cons d back =>
    have leaves := (cut_label parted).2.2 (List.cons_ne_nil d back)
    obtain ⟨next, grown, same⟩ := place_split (m := m) (a := a) ⟨stop, below⟩
      (List.cons_ne_nil d back) leaves
    have bare : Node.cut (d :: back) ⟨stop, below⟩ = .split (d :: back) ⟨stop, below⟩ := rfl
    rw [bare, grown]
    dsimp only
    rw [same]

/-- Step by step insertion comes to what it comes to at once: a refusal finds the tree unchanged.  By
induction along the steps; wherever one of them has changed the tree, the rest of the way is free. -/
theorem insertStepwise_eq {tree : Tree α} {tokens : List Token} (goesOn : GoesOn tokens) :
    insertStepwise m a tree tokens = .atOnce tree (insert m a tree tokens) := by
  fun_induction insertStepwise m a tree tokens with
  | case1 rest ih =>
    rw [Node.placeStepwise_eq (insert m a leaf) ih, place_empty]
    rfl
  | case2 c rest further ih =>
    have whole := chain_eq_under (m := m) (a := a) [] (.char c :: rest)
    rw [Node.placeStepwise_eq (insert m a leaf) ih, place_empty, insert, whole]
    rfl
  | case3 tokens notParam notChar =>
    obtain ⟨c, rest, rfl⟩ | ⟨rest, rfl⟩ := goesOn.char_or_param
    · exact (notChar c rest rfl).elim
    · exact (notParam rest rfl).elim
  | case4 stop below rest ih =>
    rw [Node.placeStepwise_eq (insert m a below) ih, Attempt.map_atOnce]
    rfl
  | case5 stop below tokens notParam ih =>
    rw [ih goesOn]
    obtain ⟨c, rest, rfl⟩ | ⟨rest, rfl⟩ := goesOn.char_or_param
    · rfl
    · exact (notParam rest rfl).elim
  | case6 label stop below siblings tokens back front parted ih =>
    rw [ih goesOn, Attempt.map_atOnce, insert, parted]
  | case7 label stop below siblings tokens c common back front parted node further ih =>
    have whole : insert m a (literal label stop below siblings) tokens =
        (Node.place m a node further (insert m a node.below)).map fun node =>
          literal (c :: common) node.stop node.below siblings := insert_cut parted stop below siblings
    rw [Node.placeStepwise_eq (insert m a node.below) ih, Attempt.map_atOnce, whole]
    obtain ⟨rfl, _, leaves⟩ := cut_label parted
    cases back with
    | nil =>
      rw [List.append_nil]
      rfl
    | cons d back =>
      obtain ⟨next, grown, _⟩ := place_split (m := m) (a := a) ⟨stop, below⟩
        (List.cons_ne_nil d back) (leaves (List.cons_ne_nil d back))
      have bare : node = .split (d :: back) ⟨stop, below⟩ := rfl
      rw [bare, grown]
      rfl

end Tree

namespace Node

def insertStepwise (m : Method) (a : α) (node : Node α) (tokens : List Token) : Attempt α (Node α) :=
  placeStepwise m a node tokens (Tree.insertStepwise m a node.below tokens)

theorem insertStepwise_eq (m : Method) (a : α) (node : Node α) (tokens : List Token) :
    insertStepwise m a node tokens = .atOnce node (insert m a node tokens) :=
  placeStepwise_eq _ Tree.insertStepwise_eq

end Node

/-- The templates stand for the same tokens: they differ in names at most. -/
def Template.SameShape (template other : String) : Prop :=
  ∃ tokens, Reads false template.toList tokens ∧ Reads false other.toList tokens

theorem Submission.Readable.sameShape_iff {s t : Submission α} (hs : s.Readable) (ht : t.Readable) :
    Template.SameShape s.template t.template ↔ s.tokens = t.tokens := by
  constructor
  · rintro ⟨tokens, readsS, readsT⟩
    exact (hs.reads.unique readsS).trans (readsT.unique ht.reads)
  · exact fun same => ⟨s.tokens, hs.reads, same ▸ ht.reads⟩

namespace Router

/-- One call as it changes a router step by step: its answer, and the router it leaves behind. -/
def submitStepwise (router : Router α) (s : Submission α) :
    Except RouteError RouteDescription × Router α :=
  match Template.parse s.template with
  | .error error => (.error error, router)
  | .ok segments =>
    let route : RouteDescription := ⟨s.method, s.template, paramNames segments, s.handlerName⟩
    let grown := router.root.insertStepwise s.method ⟨route, s.action⟩ (shape segments)
    match grown.refusal with
    | some owner =>
      (.error (.duplicateRoute s.method s.template owner.route.template),
        { router with root := grown.left })
    | none =>
      (.ok route, ⟨grown.left, router.routes ++ [s.route],
        max router.maxParams route.paramNames.length⟩)

/-- Step by step a call does what `add` does at once. -/
theorem submitStepwise_eq (router : Router α) (s : Submission α) :
    router.submitStepwise s =
      match router.submit s with
      | .ok (route, next) => (.ok route, next)
      | .error error => (.error error, router) := by
  unfold submitStepwise submit add
  cases Template.parse s.template with
  | error error => rfl
  | ok segments =>
    simp only [Node.insertStepwise_eq, bind, Except.bind]
    generalize Node.insert _ _ _ _ = answer
    cases answer <;> rfl

namespace Holds

variable {router : Router α} {registered : List (Submission α)} {s : Submission α}

/-- A readable call is refused by the owner of its place and by nobody else. -/
theorem submit_duplicate_iff (h : router.Holds registered) (readable : s.Readable)
    {existing : String} :
    router.submit s = .error (.duplicateRoute s.method s.template existing) ↔
      ∃ owner ∈ registered, owner.SamePlace s ∧ owner.template = existing := by
  constructor
  · intro refused
    rcases h.submit_refused refused with unreadable | ⟨-, owner, mem, same, named⟩
    · rw [readable] at unreadable
      cases unreadable
    · cases named
      exact ⟨owner, mem, same, rfl⟩
  · rintro ⟨owner, mem, same, rfl⟩
    cases answer : router.submit s with
    | ok result => exact absurd same ((h.submit_ok answer).2.1 owner mem)
    | error error =>
      rcases h.submit_refused answer with unreadable | ⟨-, other, here, alike, rfl⟩
      · rw [readable] at unreadable
        cases unreadable
      · have one : other.SamePlace owner := ⟨alike.1.trans same.1.symm, alike.2.trans same.2.symm⟩
        rw [h.eq_of_samePlace here mem one]

/-- A readable call for a free place is answered with what is then known of the route. -/
theorem submit_free (h : router.Holds registered) (readable : s.Readable)
    (free : ∀ owner ∈ registered, ¬ owner.SamePlace s) :
    ∃ next, router.submit s = .ok (s.endpoint.route, next) := by
  obtain ⟨route, next, ok⟩ := h.accepts_iff.mpr ⟨readable, free⟩
  have answered := ok.symm.trans (submit_readable readable)
  split at answered
  · cases answered
  · cases answered
    exact ⟨_, ok⟩

end Holds

/-- After any calls, a further call fails with the fault of its template if that cannot be read, and
otherwise exactly if an accepted route of its method has the same shape, whose own template is then
named; else it succeeds.  Carried out step by step it does what `add` does, and if it fails the router
is the same as before. -/
theorem registration_atomic (calls : List (Submission α)) (s : Submission α) :
    let router := empty.addAll calls
    let registered := empty.accepted calls
    let run := router.submitStepwise s
    router.add s.method s.template s.handlerName s.action = run.1.map (fun route => (route, run.2)) ∧
      (∀ error, Template.parse s.template = .error error → run.1 = .error error) ∧
      (∀ segments, Template.parse s.template = .ok segments →
        (∀ existing, run.1 = .error (.duplicateRoute s.method s.template existing) ↔
          ∃ owner ∈ registered, owner.method = s.method ∧
            Template.SameShape owner.template s.template ∧ owner.template = existing) ∧
        ((∀ owner ∈ registered, owner.method = s.method →
            ¬ Template.SameShape owner.template s.template) →
          run.1 = .ok ⟨s.method, s.template, paramNames segments, s.handlerName⟩ ∧
            run.2.Records (registered ++ [s]))) ∧
      ∀ error, run.1 = .error error → run.2 = router := by
  intro router registered run
  have records : router.Records registered := records_accepted calls
  have run_eq : run = _ := submitStepwise_eq router s
  have answer (error : RouteError) : run.1 = .error error ↔ router.submit s = .error error := by
    rw [run_eq]
    rcases router.submit s with _ | _ <;> simp
  refine ⟨?_, fun error unreadable => ?_, fun segments read => ?_, fun error refused => ?_⟩
  · change router.submit s = _
    rw [run_eq]
    rcases router.submit s with _ | _ <;> rfl
  · rw [answer, submit, add, unreadable]
    rfl
  · obtain ⟨readable, rfl⟩ := Submission.readable_of_parse read
    have samePlace {owner : Submission α} (mem : owner ∈ registered) :
        owner.SamePlace s ↔ owner.method = s.method ∧ Template.SameShape owner.template s.template :=
      and_congr_right fun _ => ((records.holds.readable owner mem).sameShape_iff readable).symm
    refine ⟨fun existing => ?_, fun free => ?_⟩
    · rw [answer, records.holds.submit_duplicate_iff readable]
      refine exists_congr fun owner => and_congr_right fun mem => ?_
      rw [samePlace mem, and_assoc]
    · obtain ⟨next, ok⟩ := records.holds.submit_free readable fun owner mem same =>
        free owner mem same.1 ((samePlace mem).mp same).2
      rw [run_eq, ok]
      exact ⟨rfl, (records.submit_ok ok).2⟩
  · rw [run_eq, (answer error).mp refused]

end Router

end RequestDispatch.Routing
