import RequestDispatch.Proofs.Serving.Monitors
import RequestDispatch.Proofs.Text.Ulids

/-!
# Identified requests

The middleware that identifies requests adopts the identifier that a request brings, or else keeps the
generated one, and sets it as a header of the response before anything further inside runs.  Where nothing
further inside touches the two, exactly the identifier that was handed on is left in the response, and a
request that brings back what is left is identified alike (`Handling.Passage.echoes`).
-/

namespace RequestDispatch

/-! ### What a request brings -/

theorem Headers.get?_eq_head? (headers : Headers) (name : HeaderName) :
    headers.get? name = (headers.values name).head? := by
  rw [get?, values, List.head?_map, List.head?_filter]

/-- The first value of the header is visible ASCII and denotes the identifier once its blank margin is
dropped. -/
def Request.Brings (r : Request) (id : Ulid) : Prop :=
  ∃ value rest, r.headers.values .requestId = value :: rest ∧
    (∀ c ∈ value.text.toList, isVisibleChar c = true) ∧ Ulid.Denotes (Text.trim value.text).toList id

theorem Middleware.incomingId_eq_some_iff {r : Request} {id : Ulid} :
    incomingId r = some id ↔ r.Brings id := by
  have readable {s : String} : (Ulid.parse s).toOption = some id ↔ Ulid.Denotes s.toList id := by
    rw [← Ulid.parse_eq_ok_iff]
    cases Ulid.parse s <;> simp [Except.toOption]
  unfold incomingId Request.Brings
  rw [Headers.get?_eq_head?]
  cases r.headers.values .requestId with
  | nil => simp
  | cons value rest =>
    rw [List.head?_cons, Option.bind_some, HeaderValue.visibleText?]
    split
    · rename_i visible
      rw [Option.bind_some, readable]
      refine ⟨fun denotes => ⟨value, rest, rfl, List.all_eq_true.mp visible, denotes⟩, ?_⟩
      rintro ⟨_, _, same, -, denotes⟩
      cases same
      exact denotes
    · rename_i hidden
      refine ⟨nofun, ?_⟩
      rintro ⟨_, _, same, visible, -⟩
      cases same
      exact absurd (List.all_eq_true.mpr visible) hidden

/-- A request brings at most one identifier. -/
theorem Request.Brings.unique {r : Request} {id id' : Ulid} (brings : r.Brings id)
    (brings' : r.Brings id') : id = id' :=
  Option.some.inj ((Middleware.incomingId_eq_some_iff.mpr brings).symm.trans
    (Middleware.incomingId_eq_some_iff.mpr brings'))

/-- A written identifier is brought as it is. -/
theorem Request.brings_text {r : Request} {id : Ulid} {rest : List HeaderValue}
    (first : r.headers.values .requestId = ⟨id.text⟩ :: rest) : r.Brings id :=
  ⟨_, rest, first, List.all_eq_true.mp id.all_visible_text, by
    rw [id.trim_text]
    exact id.text_denotes⟩

/-- The identifier is the one that the request brings, or else the generated one. -/
def Request.Adopts (r : Request) (generated id : Ulid) : Prop :=
  r.Brings id ∨ (∀ brought, ¬ r.Brings brought) ∧ id = generated

theorem Request.Adopts.of_brings {r : Request} {generated id id' : Ulid} (adopts : r.Adopts generated id)
    (brings : r.Brings id') : id = id' := by
  rcases adopts with brings' | ⟨none, -⟩
  · exact brings'.unique brings
  · exact absurd brings (none id')

/-- Only the values of its header decide what a request brings. -/
theorem Request.Adopts.congr {r r' : Request} {generated id : Ulid} (adopts : r.Adopts generated id)
    (same : r.headers.values .requestId = r'.headers.values .requestId) : r'.Adopts generated id := by
  unfold Adopts Brings at adopts ⊢
  rwa [same] at adopts

/-! ### The middleware -/

namespace Context

/-- The identifier adopted on this context. -/
def adopted (c : Context) : Ulid := (Middleware.incomingId c.request).getD c.requestId

/-- The context that is handed on once the request is identified. -/
def identified (c : Context) : Context :=
  { c with
    requestId := c.adopted
    response := c.response.setHeader .requestId ⟨c.adopted.text⟩ }

theorem adopts (c : Context) : c.request.Adopts c.requestId c.adopted := by
  unfold adopted
  cases brought : Middleware.incomingId c.request with
  | some id => exact .inl (Middleware.incomingId_eq_some_iff.mp brought)
  | none =>
    refine .inr ⟨fun id brings => ?_, rfl⟩
    rw [Middleware.incomingId_eq_some_iff.mpr brings] at brought
    cases brought

/-- The response carries exactly one identifier, and it is this. -/
def Carries (c : Context) (id : Ulid) : Prop :=
  c.response.headers.values .requestId = [⟨id.text⟩]

/-- The identifier and its response header are as before. -/
def Retains (c c' : Context) : Prop :=
  c'.requestId = c.requestId ∧
    c'.response.headers.values .requestId = c.response.headers.values .requestId

instance (c c' : Context) : Decidable (c.Retains c') := inferInstanceAs (Decidable (_ ∧ _))

theorem Retains.refl (c : Context) : c.Retains c := ⟨rfl, rfl⟩

theorem Retains.trans {a b c : Context} (first : a.Retains b) (second : b.Retains c) : a.Retains c :=
  ⟨second.1.trans first.1, second.2.trans first.2⟩

theorem identified_carries (c : Context) : c.identified.Carries c.adopted := Headers.values_insert ..

theorem Retains.carries {c c' : Context} {id : Ulid} (kept : c.Retains c') (carries : c.Carries id) :
    c'.Carries id :=
  kept.2.trans carries

end Context

namespace Middleware

/-- A written identifier is always a header value, so the middleware never fails by itself. -/
theorem requestId_eq : requestId = .wrap "request_id" fun c =>
    .next c.identified fun result c => .done result.toOutcome c := by
  refine congrArg (wrap "request_id") (funext fun c => ?_)
  dsimp only
  rw [Ulid.headerValue_text]
  rfl

/-- What comes next runs on the identified context, and the middleware keeps the context that it leaves. -/
theorem requestId_around (nested : Nested) (next : Stage) (c : Context) (e : Engine) :
    (requestId.around nested next c e).2.1 = (next c.identified e).2.1 := by
  rw [requestId_eq]
  simp only [around, Program.run, Program.execute]
  rcases next c.identified e with ⟨outcome, c', e'⟩
  cases outcome <;> rfl

theorem requestId_entry (nested : Nested) (c : Context) (e : Engine) :
    requestId.entry nested c e = some (c.identified, e) := by
  rw [requestId_eq]
  rfl

end Middleware

theorem Chain.run_requestId (inner : Chain) (nested : Nested) (c : Context) (e : Engine) :
    ((inner.inside [.requestId]).run nested c e).2.1 = (inner.run nested c.identified e).2.1 := by
  have next : (inner.inside [.requestId]).run nested =
      Middleware.requestId.around nested (inner.run nested) := by
    unfold run inside
    rw [List.singleton_append, List.foldr_cons]
  rw [next, Middleware.requestId_around]

/-- Monitors outside the middleware keep the context that it leaves. -/
theorem Chain.run_identified (inner : Chain) (nested : Nested) (counters : Nat) (ms : List Monitor)
    (c : Context) (e : Engine) :
    ((inner.inside (ms.map (Monitor.layer counters) ++ [.requestId])).run nested c e).2.1 =
      ((inner.inside [.requestId]).run nested c (Monitor.enterAll ms c e)).2.1 := by
  have split : inner.inside (ms.map (Monitor.layer counters) ++ [.requestId]) =
      (inner.inside [.requestId]).inside (ms.map (Monitor.layer counters)) := by
    simp only [inside, List.append_assoc]
  rw [split]
  exact (run_watched nested counters ms (inner.inside [.requestId]) c e).2

/-! ### Requests on their way through the middleware -/

/-- The way of a request through the middleware that identifies it: what stands outside and what inside,
and the context and the engine on which the middleware is reached. -/
structure Handling.Passage (h : Handling) where
  outer : List Middleware
  inner : Chain
  met : Context
  engine : Engine
  bound : h.bound.1 = inner.inside (outer ++ [.requestId])
  reached : (Chain.mk outer inner.handler).entry h.nested h.bound.2 h.opening = some (met, engine)

namespace Handling.Passage

variable {h : Handling}

/-- The context that what stands inside leaves, when it runs on the identified one. -/
def below (p : h.Passage) : Context := (p.inner.run h.nested p.met.identified p.engine).2.1

/-- The context that the middleware leaves. -/
def left (p : h.Passage) : Context := ((p.inner.inside [.requestId]).run h.nested p.met p.engine).2.1

theorem left_eq (p : h.Passage) : p.left = p.below :=
  p.inner.run_requestId h.nested p.met p.engine

/-- What stands outside the middleware touches neither the identifier nor its headers, before and after,
and the error handler does not either, unless it is the standard one. -/
structure Undisturbed (p : h.Passage) : Prop where
  asked : p.met.request.headers.values .requestId = h.request.headers.values .requestId
  unnamed : p.met.requestId = h.id
  outside : p.left.Retains h.chainRun.2.1
  errors : h.service.errorHandler = .standard ∨ h.chainRun.2.1.Retains h.run.2.1

end Handling.Passage

/-- The standard error handler sets another header only. -/
theorem ErrorHandler.retains_answered (f : Failure) (c : Context) : c.Retains (answered f c) := by
  unfold answered
  split
  · exact .refl c
  · rename_i uncommitted
    refine ⟨rfl, ?_⟩
    rw [Context.send_response (Bool.eq_false_iff.mpr uncommitted)]
    exact Headers.values_insert_of_ne _ _ (by decide)

namespace Handling

variable {h : Handling}

/-- Answering a failure in the standard way keeps the identifier and its header. -/
theorem retains_of_standard (standard : h.service.errorHandler = .standard) :
    h.chainRun.2.1.Retains h.run.2.1 := by
  unfold chainRun run
  rw [Service.respond]
  rcases h.bound.1.run h.nested h.bound.2 h.opening with ⟨outcome, c, e⟩
  cases outcome with
  | error f =>
    dsimp only
    rw [standard, ErrorHandler.standard_run]
    exact ErrorHandler.retains_answered f c
  | _ => exact .refl c

/-- The request is answered, with any status, and the answer carries exactly one identifier, this one. -/
def Shows (h : Handling) (id : Ulid) : Prop :=
  ∃ answer, h.reply = .answer answer ∧ answer.headers.values .requestId = [⟨id.text⟩]

/-- A request that does not panic is answered with the headers that chain and error handler left. -/
theorem shows_of_carries {id : Ulid} (calm : h.run.1.isPanic = false) (carries : h.run.2.1.Carries id) :
    h.Shows id := by
  unfold Shows reply
  generalize h.run = run at calm carries ⊢
  obtain ⟨outcome, c, e⟩ := run
  cases outcome with
  | panic p => exact absurd calm nofun
  | _ => exact ⟨_, rfl, carries⟩

/-- The context on which a chain starts holds the request and the generated identifier. -/
theorem bound_fresh (h : Handling) : h.bound.2.request = h.request ∧ h.bound.2.requestId = h.id := by
  unfold bound
  obtain ⟨request, -, -, id, -⟩ := h.service.binding_context h.request h.id
  exact ⟨request, id⟩

namespace Passage

variable {p : h.Passage}

/-- The middleware leaves the identifier that it handed on in the response, and no other. -/
theorem left_carries (kept : p.met.identified.Retains p.below) : p.left.Carries p.met.adopted := by
  rw [left_eq]
  exact kept.carries p.met.identified_carries

/-- So does the answer. -/
theorem Undisturbed.shows (undisturbed : p.Undisturbed) (kept : p.met.identified.Retains p.below)
    (calm : h.run.1.isPanic = false) : h.Shows p.met.adopted := by
  have errors : h.chainRun.2.1.Retains h.run.2.1 :=
    undisturbed.errors.elim retains_of_standard fun kept => kept
  exact shows_of_carries calm ((undisturbed.outside.trans errors).carries (left_carries kept))

theorem Undisturbed.adopts (undisturbed : p.Undisturbed) : h.request.Adopts h.id p.met.adopted := by
  rw [← undisturbed.unnamed]
  exact p.met.adopts.congr undisturbed.asked

/-- The chain inside runs on the identified context. -/
theorem entry (p : h.Passage) :
    (Chain.mk (p.outer ++ [.requestId]) p.inner.handler).entry h.nested h.bound.2 h.opening =
      some (p.met.identified, p.engine) := by
  have reached := p.reached
  unfold Chain.entry at reached ⊢
  rw [List.foldlM_append, reached, Option.bind_eq_bind, Option.bind_some, List.foldlM_cons,
    Middleware.requestId_entry]
  rfl

/-- The way of a request to which monitors and then the middleware are the outermost. -/
def behind (counters : Nat) (ms : List Monitor) (inner : Chain) {met : Context}
    (bound : h.bound = (inner.inside (ms.map (Monitor.layer counters) ++ [.requestId]), met)) :
    h.Passage where
  outer := ms.map (Monitor.layer counters)
  inner := inner
  met := met
  engine := Monitor.enterAll ms met h.opening
  bound := congrArg Prod.fst bound
  reached := by
    rw [bound]
    exact Chain.entry_watched ..

/-- Monitors do not touch identifiers. -/
theorem behind_undisturbed {counters : Nat} {ms : List Monitor} {inner : Chain} {met : Context}
    (bound : h.bound = (inner.inside (ms.map (Monitor.layer counters) ++ [.requestId]), met))
    (standard : h.service.errorHandler = .standard) : (behind counters ms inner bound).Undisturbed := by
  obtain ⟨request, id⟩ := h.bound_fresh
  rw [bound] at request id
  have same : h.chainRun.2.1 = (behind counters ms inner bound).left := by
    unfold chainRun left behind
    rw [bound]
    dsimp only
    exact inner.run_identified h.nested counters ms met h.opening
  refine ⟨congrArg (fun r => r.headers.values .requestId) request, id, ?_, .inl standard⟩
  rw [same]
  exact .refl _

/-- A request passes through the middleware, and what stands inside leaves the identifier and its response
header as they are handed on.  Then the middleware leaves exactly one identifier in the response, however
the rest ends: the one handed on, written with 26 digits in upper case.  It is the one that the request
brings, or else the one generated.  So it is in the answer, with any status, if what stands outside does
not touch the identifier either.  A request on which the middleware meets the text that it left is
identified alike, and the text is left again. -/
theorem echoes (p : h.Passage) (kept : p.met.identified.Retains p.below) :
    let id := p.met.identified.requestId
    (Chain.mk (p.outer ++ [.requestId]) p.inner.handler).entry h.nested h.bound.2 h.opening =
        some (p.met.identified, p.engine) ∧
      p.left.Carries id ∧
      (id.text.toList.length = 26 ∧ (∀ c ∈ id.text.toList, c ∈ Ulid.alphabet) ∧
        Ulid.Denotes id.text.toList id) ∧
      p.met.request.Adopts p.met.requestId id ∧
      (p.Undisturbed → h.request.Adopts h.id id ∧ (h.run.1.isPanic = false → h.Shows id)) ∧
      ∀ {again : Handling} (q : again.Passage), q.met.identified.Retains q.below →
        (q.met.request.headers.values .requestId).head? = some ⟨id.text⟩ →
        q.met.identified.requestId = id ∧ q.left.Carries id ∧
          (q.Undisturbed → again.run.1.isPanic = false → again.Shows id) := by
  intro id
  refine ⟨p.entry, left_carries kept, ⟨id.length_text, id.mem_alphabet_of_text, id.text_denotes⟩,
    p.met.adopts, fun undisturbed => ⟨undisturbed.adopts, undisturbed.shows kept⟩,
    fun q kept' first => ?_⟩
  obtain ⟨rest, values⟩ := List.head?_eq_some_iff.mp first
  have same : q.met.adopted = id := q.met.adopts.of_brings (Request.brings_text values)
  rw [← same]
  exact ⟨rfl, left_carries kept', fun undisturbed => undisturbed.shows kept'⟩

/-- A request for an unknown path brings an identifier in lower case between blanks.  What its answer carries
is brought back by a request with a method that its path does not have. -/
theorem echoes_fallbacks :
    let ms : List Monitor := [.recover, .logger, .metrics]
    let d := Dispatcher.scripted [] []
    let s := (d.inside (ms.map (Monitor.layer 0) ++ [.requestId])).build
    let ask (m : Method) (path id : String) : Request := ⟨m, ⟨path, none⟩, [(.requestId, ⟨id⟩)], []⟩
    let text := "01ARZ3NDEKTSV4RRFFQ69G5FAV"
    let h : Handling :=
      ⟨s, ask .get "/missing" " 01arz3ndektsv4rrffq69g5fav ", Engine.create (.empty 1) Ulid.ofNat, 0⟩
    let again : Handling := ⟨s, ask .post "/inner" text, h.closing, 0⟩
    (h.reply.shows (· == .notFound) ∧ again.reply.shows (· == .methodNotAllowed)) ∧
      ∃ id : Ulid, id.text = text ∧ h.Shows id ∧ again.Shows id := by
  intro ms d s ask text h again
  let p : h.Passage := behind 0 ms _ (bound_inside (d := d) rfl)
  let q : again.Passage := behind 0 ms _ (bound_inside (d := d) rfl)
  have written : p.met.identified.requestId.text = text := by decide +kernel
  have fallbacks : h.reply.shows (· == .notFound) ∧ again.reply.shows (· == .methodNotAllowed) := by
    decide +kernel
  have brought : (q.met.request.headers.values .requestId).head? =
      some ⟨p.met.identified.requestId.text⟩ := by decide +kernel
  obtain ⟨-, -, -, -, answered, echoed⟩ := echoes p (by decide +kernel)
  obtain ⟨-, shown⟩ := answered (behind_undisturbed _ rfl)
  obtain ⟨-, -, shown'⟩ := echoed q (by decide +kernel) brought
  exact ⟨fallbacks, _, written, shown (by decide +kernel),
    shown' (behind_undisturbed _ rfl) (by decide +kernel)⟩

end Passage

end Handling

end RequestDispatch
