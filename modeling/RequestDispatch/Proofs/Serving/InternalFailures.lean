import RequestDispatch.Proofs.Serving.Handlings
import RequestDispatch.Proofs.Serving.Recovery

/-!
# Internal failures look alike

Inside built-in middleware that recovers from panics, outside debug mode, the reply to a request whose
handler fails internally is determined by the context that the handler left
(`Handling.internal_failures_alike`): it does not tell an error from a panic, nor one text from another.
-/

namespace RequestDispatch

variable {nested : Nested}

/-- The middleware that the library provides. -/
inductive Middleware.BuiltIn : Middleware → Prop where
  | recover : BuiltIn .recover
  | requestId : BuiltIn .requestId
  | requestLogger : BuiltIn .requestLogger
  | metrics (counters : Nat) : BuiltIn (.metrics counters)

theorem Middleware.BuiltIn.obeys {m : Middleware} (builtIn : m.BuiltIn) : m.Obeys .steady := by
  cases builtIn with
  | recover => exact recover_obeys
  | requestId => exact requestId_obeys
  | requestLogger => exact requestLogger_obeys fun _ => trivial
  | metrics counters => exact metrics_obeys (fun _ => trivial) counters

/-! ### Where a chain reaches its handler -/

/-- The context and the engine on which a program first calls what comes next, if it does. -/
def Program.entry (nested : Nested) : Program → Engine → Option (Context × Engine)
  | .done .., _ => none
  | .emit effect rest, e => rest.entry nested (e.perform effect)
  | .next c _, e => some (c, e)
  | .attempt c _, e => some (c, e)
  | .serve live request _ resume, e =>
    match nested.serve live request e with
    | (.panicked _, _) => none
    | (reply, e) => (resume reply).entry nested e
  | .update live change resume, e =>
    let r := nested.update live change e
    (resume r.1).entry nested r.2
termination_by structural program => program

/-- The context and the engine on which a run that succeeds ends. -/
def succeeded : Outcome × Context × Engine → Option (Context × Engine)
  | (.ok, c, e) => some (c, e)
  | _ => none

/-- The context and the engine on which a middleware first lets a request through, if it does. -/
def Middleware.entry (nested : Nested) (m : Middleware) (c : Context) (e : Engine) :
    Option (Context × Engine) :=
  match m with
  | .wrap _ run => (run c).entry nested e
  | .before _ run => succeeded ((run c).run nested .finish e)
  | .exchange _ run =>
    if c.response.committed then some (c, e)
    else succeeded ((Exchange.toProgram run c).run nested .finish e)

/-- The context and the engine on which the handler of a chain is first called, if it is. -/
def Chain.entry (nested : Nested) (chain : Chain) (c : Context) (e : Engine) :
    Option (Context × Engine) :=
  chain.layers.foldlM (fun at' m => m.entry nested at'.1 at'.2) (c, e)

/-- How the handler of a chain ends when it is first called. -/
def Chain.handlerRun? (nested : Nested) (chain : Chain) (c : Context) (e : Engine) :
    Option (Outcome × Context × Engine) :=
  (chain.entry nested c e).map fun entered =>
    (chain.handler.program entered.1).run nested .finish entered.2

/-! ### Failures that are not shown -/

/-- A panic, or an error none of whose causes carries a status. -/
def Outcome.Internal : Outcome → Prop
  | .ok => False
  | .error f => ∀ cause ∈ f.causes, cause.http? = none
  | .panic _ => True

instance : DecidablePred Outcome.Internal
  | .ok => isFalse id
  | .error f => inferInstanceAs (Decidable (∀ cause ∈ f.causes, cause.http? = none))
  | .panic _ => isTrue trivial

/-- A panic, or an error that is shown as status 500 and its reason phrase outside debug mode. -/
def Outcome.Veiled : Outcome → Prop
  | .ok => False
  | .error f => ErrorHandler.verdict f false = (.internalServerError, Status.internalServerError.reason)
  | .panic _ => True

theorem Outcome.Internal.veiled {outcome : Outcome} (internal : outcome.Internal) :
    outcome.Veiled := by
  cases outcome with
  | ok => exact internal.elim
  | error f =>
    have none : f.http? = none := List.findSome?_eq_none_iff.mpr internal
    simp only [Veiled, ErrorHandler.verdict, none, Bool.false_eq_true, if_false]
  | panic p => trivial

/-- The run ends on this context with a failure that is not shown; with an error, if panics are
recovered. -/
structure Veils (recovered : Prop) (c : Context) (run : Outcome × Context × Engine) : Prop where
  outcome : run.1.Veiled
  context : run.2.1 = c
  error : recovered → ∃ f, run.1 = .error f

theorem Veils.mono {recovered recovered' : Prop} {c : Context} {run : Outcome × Context × Engine}
    (veils : Veils recovered c run) (weaker : recovered' → recovered) : Veils recovered' c run :=
  ⟨veils.outcome, veils.context, veils.error ∘ weaker⟩

/-- The program does no more than reporting before and after it calls what comes next, and ends as that
does; or it gives up before. -/
inductive Program.HandsOn : Program → Prop where
  | done (outcome : Outcome) (c : Context) : HandsOn (.done outcome c)
  | emit (effect : Effect) {rest : Program} (handsOn : HandsOn rest) : HandsOn (.emit effect rest)
  | next (c : Context) {resume : HandlerResult → Context → Program}
    (through : ∀ result c, ∃ effects, resume result c = .emits effects (.done result.toOutcome c)) :
    HandsOn (.next c resume)

theorem Program.HandsOn.execute {program : Program} (handsOn : program.HandsOn) {next : Stage}
    {c : Context} {e e₀ : Engine} (entered : program.entry nested e₀ = some (c, e)) :
    ∃ after, program.execute nested next e₀ = ((next c e).1, (next c e).2.1, after) := by
  induction handsOn generalizing e₀ with
  | done outcome c => cases entered
  | emit effect _ ih => exact ih entered
  | @next c resume through =>
    cases entered
    rw [Program.execute]
    rcases next c e with ⟨outcome, c', e'⟩
    cases outcome with
    | ok =>
      obtain ⟨effects, eq⟩ := through .ok c'
      dsimp only
      rw [eq, execute_emits]
      exact ⟨_, rfl⟩
    | error f =>
      obtain ⟨effects, eq⟩ := through (.error f) c'
      dsimp only
      rw [eq, execute_emits]
      exact ⟨_, rfl⟩
    | panic p => exact ⟨e', rfl⟩

namespace Middleware

variable {m : Middleware} {next : Stage} {c c₀ c₁ : Context} {e₀ e₁ : Engine} {recovered : Prop}

/-- Built-in middleware wraps what comes next, and all but `recover` hands on how that ends. -/
theorem BuiltIn.handsOn (builtIn : m.BuiltIn) :
    m = .recover ∨ ∃ name run, m = .wrap name run ∧ ∀ c, (run c).HandsOn := by
  cases builtIn with
  | recover => exact .inl rfl
  | requestId =>
    refine .inr ⟨_, _, rfl, fun c => ?_⟩
    dsimp only
    split
    · exact .done _ _
    · exact .next _ fun result c => ⟨[], rfl⟩
  | requestLogger => exact .inr ⟨_, _, rfl, fun c => .emit _ (.next _ fun result c => ⟨[_, _], rfl⟩)⟩
  | metrics counters => exact .inr ⟨_, _, rfl, fun c => .next _ fun result c => ⟨[_], rfl⟩⟩

/-- Built-in middleware hands a failure on with the context as it is; `recover` makes it an error. -/
theorem BuiltIn.around_veils (builtIn : m.BuiltIn) (entered : m.entry nested c₀ e₀ = some (c₁, e₁))
    (inside : Veils recovered c (next c₁ e₁)) :
    Veils (m = .recover ∨ recovered) c (m.around nested next c₀ e₀) := by
  obtain ⟨outcome, context, error⟩ := inside
  rcases builtIn.handsOn with rfl | ⟨name, run, rfl, handsOn⟩
  · cases entered
    obtain ⟨after, eq⟩ := recover_around nested next c₀ e₀
    rw [eq]
    generalize (next c₀ e₀).1 = ended at outcome
    cases ended with
    | ok => exact outcome.elim
    | error f => exact ⟨outcome, context, fun _ => ⟨f, rfl⟩⟩
    | panic p => exact ⟨ErrorHandler.verdict_recovered false, context, fun _ => ⟨_, rfl⟩⟩
  · obtain ⟨after, eq⟩ : ∃ after, (run c₀).execute nested next e₀ =
        ((next c₁ e₁).1, (next c₁ e₁).2.1, after) := (handsOn c₀).execute entered
    rw [around, Program.run, eq]
    refine ⟨outcome, context, fun recovers => error ?_⟩
    rcases recovers with same | recovers
    · cases same
      cases handsOn c₀
    · exact recovers

end Middleware

/-- By induction on the layers, from the handler outward. -/
theorem Chain.run_veils {chain : Chain} (builtIn : ∀ m ∈ chain.layers, m.BuiltIn) {c₀ c : Context}
    {e₀ after : Engine} {outcome : Outcome}
    (ends : chain.handlerRun? nested c₀ e₀ = some (outcome, c, after)) (veiled : outcome.Veiled) :
    Veils (.recover ∈ chain.layers) c (chain.run nested c₀ e₀) := by
  obtain ⟨layers, handler⟩ := chain
  induction layers generalizing c₀ e₀ with
  | nil =>
    have run : (handler.program c₀).run nested .finish e₀ = (outcome, c, after) := Option.some.inj ends
    rw [Chain.run, List.foldr_nil, run]
    exact ⟨veiled, rfl, nofun⟩
  | cons m layers ih =>
    obtain ⟨here, others⟩ := List.forall_mem_cons.mp builtIn
    obtain ⟨⟨c₁, e₁⟩, entered, further⟩ : ∃ entered, m.entry nested c₀ e₀ = some entered ∧
        Chain.handlerRun? nested ⟨layers, handler⟩ entered.1 entered.2 = some (outcome, c, after) := by
      obtain ⟨reached, entered, ran⟩ := Option.map_eq_some_iff.mp ends
      rw [entry, List.foldlM_cons] at entered
      obtain ⟨first, entered, further⟩ := Option.bind_eq_some_iff.mp entered
      exact ⟨first, entered, Option.map_eq_some_iff.mpr ⟨reached, further, ran⟩⟩
    have whole := here.around_veils entered (ih others further)
    exact whole.mono fun mem => (List.mem_cons.mp mem).imp_left Eq.symm

namespace Handling

/-- A handler inside built-in middleware that recovers from panics fails internally and leaves `c`; the
failure is answered by the standard error handler, outside debug mode, which the handler does not change. -/
structure FailsInternally (h : Handling) (c : Context) : Prop where
  debug : h.service.debug = false
  standard : h.service.errorHandler = .standard
  builtIn : ∀ m ∈ h.bound.1.layers, m.BuiltIn
  recovers : .recover ∈ h.bound.1.layers
  handler : h.bound.1.handler.Obeys .steady
  fails : ∃ outcome after, outcome.Internal ∧
    h.bound.1.handlerRun? h.nested h.bound.2 h.opening = some (outcome, c, after)

/-- A steady chain ends in the mode of the service and leaves a sound response. -/
theorem chainRun_steady {h : Handling} (steady : h.bound.1.Obeys .steady) :
    h.chainRun.2.1.debug = h.service.debug ∧ h.chainRun.2.1.response.Sound := by
  have led : Conduct.steady.leads h.bound.2 h.chainRun.2.1 := by
    unfold chainRun
    exact (steady.run h.nested h.bound.2 h.opening).1
  obtain ⟨mode, sound⟩ := led
  unfold bound at mode sound
  obtain ⟨_, _, _, _, debug, _, _⟩ := h.service.binding_context h.request h.id
  exact ⟨mode.trans debug, sound (h.service.binding_sound h.request h.id)⟩

/-- The answer is that to a recovered panic. -/
theorem FailsInternally.reply_eq {h : Handling} {c : Context} (fails : h.FailsInternally c) :
    h.reply = .answer (ErrorHandler.answered .recovered c).response.take.1 := by
  obtain ⟨outcome, after, internal, ends⟩ := fails.fails
  have veils : Veils (.recover ∈ h.bound.1.layers) c h.chainRun := by
    unfold chainRun
    exact Chain.run_veils fails.builtIn ends internal.veiled
  obtain ⟨quiet, -⟩ := chainRun_steady ⟨fun m mem => (fails.builtIn m mem).obeys, fails.handler⟩
  have reply := reply_of_standard fails.standard
  generalize h.chainRun = ended at veils quiet reply
  obtain ⟨veiled, context, error⟩ := veils
  obtain ⟨f, error⟩ := error fails.recovers
  rw [fails.debug, context] at quiet
  rw [error] at veiled
  have shown : ErrorHandler.verdict f c.debug = ErrorHandler.verdict .recovered c.debug := by
    rw [quiet, ErrorHandler.verdict_recovered]
    exact veiled
  rw [reply, error, context, standardReply, ErrorHandler.answered, shown, ErrorHandler.answered]

/-- Outside debug mode, inside built-in middleware that recovers from panics, two requests whose handlers
leave the same context and fail internally get the same answer, be it by an error or by a panic and
whatever their texts. -/
theorem internal_failures_alike {s₁ s₂ : Service} {depth₁ depth₂ : Nat} {request₁ request₂ : Request}
    {e₁ e₂ : Engine} {h₁ h₂ : Handling} {c : Context}
    (admitted₁ : s₁.handling? depth₁ request₁ e₁ = some h₁)
    (admitted₂ : s₂.handling? depth₂ request₂ e₂ = some h₂) (fails₁ : h₁.FailsInternally c)
    (fails₂ : h₂.FailsInternally c) :
    ∃ answer, (s₁.serve (.upTo depth₁) request₁ e₁).1 = .answer answer ∧
      (s₂.serve (.upTo depth₂) request₂ e₂).1 = .answer answer := by
  rw [Service.serve_of_handling admitted₁, Service.serve_of_handling admitted₂]
  dsimp only
  exact ⟨_, fails₁.reply_eq, fails₂.reply_eq⟩

theorem scripted_chain (outer : List Middleware) (a b : List Script.Action) (c : Context) :
    let chain := (((Dispatcher.scripted a b).inside outer).build.find c).1
    chain.layers = outer ∧ chain.handler.Obeys .steady := by
  have obeys : ((Dispatcher.scripted a b).build.find c).1.Obeys .steady :=
    (Dispatcher.scripted_obeys a b).find c
  obtain ⟨inner, handler, found, owned, _⟩ := Dispatcher.find_build (Dispatcher.scripted_holds a b) c
  have none : inner = [] := by
    refine List.eq_nil_iff_forall_not_mem.mpr fun m mem => ?_
    obtain ⟨stack, listed, _⟩ := owned m mem
    cases listed
  subst none
  rw [Dispatcher.find_inside, found]
  rw [found] at obeys
  exact ⟨List.append_nil outer, obeys.handler⟩

/-- A script that fails internally inside built-in middleware. -/
theorem FailsInternally.of_script {h : Handling} {outer : List Middleware} {a b : List Script.Action}
    (service : h.service = ((Dispatcher.scripted a b).inside outer).build)
    (builtIn : ∀ m ∈ outer, m.BuiltIn) (recovers : .recover ∈ outer) {outcome : Outcome} {c : Context}
    (internal : outcome.Internal)
    (ends : (h.bound.1.handlerRun? h.nested h.bound.2 h.opening).map (fun run => (run.1, run.2.1)) =
      some (outcome, c)) : h.FailsInternally c := by
  obtain ⟨⟨outcome, c, after⟩, ran, same⟩ := Option.map_eq_some_iff.mp ends
  cases same
  have chain : h.bound.1.layers = outer ∧ h.bound.1.handler.Obeys .steady := by
    unfold bound
    rw [service, Service.binding]
    exact scripted_chain outer a b _
  exact {
    debug := by rw [service]; rfl
    standard := by rw [service]; rfl
    builtIn := chain.1 ▸ builtIn
    recovers := chain.1 ▸ recovers
    handler := chain.2
    fails := ⟨outcome, after, internal, ran⟩ }

/-- A wrapped error and a panic after the same header was set. -/
theorem internal_failures_alike_scripts :
    let outer : List Middleware := [.metrics 0, .recover, .requestId]
    let service (last : Script.Action) : Service :=
      ((Dispatcher.scripted [.respond (.header "x-a" "1"), last] []).inside outer).build
    let error := service (.fail ⟨[.text "while saving"], .text "disk full"⟩)
    let panic := service (.panic "index out of range")
    let request : Request := ⟨.get, ⟨"/inner", none⟩, [], []⟩
    let e := Engine.create (.empty 1) Ulid.ofNat
    ∃ h₁ h₂ c, error.handling? 0 request e = some h₁ ∧ panic.handling? 0 request e = some h₂ ∧
      h₁.FailsInternally c ∧ h₂.FailsInternally c ∧
      ∃ answer, (error.serve (.upTo 0) request e).1 = .answer answer ∧
        (panic.serve (.upTo 0) request e).1 = .answer answer := by
  intro outer service error panic request e
  let h₁ : Handling := ⟨error, request, e, 0⟩
  let h₂ : Handling := ⟨panic, request, e, 0⟩
  let c : Context := { Context.fresh.reset request false (Ulid.ofNat 0) with
    route := some ⟨.get, "/inner", [], "inner"⟩
    response := { Response.fresh with
      headers := [(.requestId, ⟨"00000000000000000000000000"⟩), (⟨"x-a"⟩, ⟨"1"⟩)] } }
  let wrapped : Outcome := .error ⟨[.text "while saving"], .text "disk full"⟩
  let panicked : Outcome := .panic (.text "index out of range")
  have builtIn : ∀ m ∈ outer, m.BuiltIn := by
    simp only [outer, List.forall_mem_cons]
    exact ⟨.metrics 0, .recover, .requestId, nofun⟩
  have recovers : .recover ∈ outer := .tail _ (.head _)
  have internal₁ : wrapped.Internal := by decide
  have internal₂ : panicked.Internal := by decide
  have fails₁ : h₁.FailsInternally c := .of_script rfl builtIn recovers internal₁ (by decide +kernel)
  have fails₂ : h₂.FailsInternally c := .of_script rfl builtIn recovers internal₂ (by decide +kernel)
  exact ⟨h₁, h₂, c, rfl, rfl, fails₁, fails₂, internal_failures_alike rfl rfl fails₁ fails₂⟩

end Handling

end RequestDispatch
