import RequestDispatch.Proofs.Serving.Trails

/-!
# What handlers may do to their context

A handler or a middleware has operations on its context: it can fill the response, change the request,
leave values and replace the identifier, but what routing found and the mode of the service stay as they
are (`Context.Evolves`).  It is also free to bind its context to another request (`Context.reset`), which
does away with all of that; nothing that the library provides does so.

What is asked of programs is a `Conduct`: to keep to the operations (`Conduct.proper`), to leave a response
that is sound (`Conduct.sound`), in the mode of the service (`Conduct.steady`), or to make no other reports
than some (`Conduct.reporting`).  All but the first leave them free to rebind their context.  Chains are
obedient if what they are made of is (`Chain.Obeys.run`).
-/

namespace RequestDispatch

variable {nested : Nested}

/-- Reports other than that a request is counted or completed. -/
def Effect.Plain : Effect → Prop
  | .count .. => False
  | .log (.requestCompleted ..) => False
  | _ => True

namespace Response

/-- A response that is not committed has neither a status of its own nor a body. -/
def Sound (r : Response) : Prop := r.committed = false → r.status = .ok ∧ r.body = []

theorem fresh_sound : fresh.Sound := fun _ => ⟨rfl, rfl⟩

theorem sound_of_committed {r : Response} (committed : r.committed = true) : r.Sound := by
  intro not
  rw [committed] at not
  cases not

theorem commitStatus_committed (r : Response) (status : Status) :
    (r.commitStatus status).committed = true := by
  rw [commitStatus]
  split
  · assumption
  · rfl

theorem write_committed (r : Response) (bytes : Bytes) : (r.write bytes).committed = true := by
  rw [write]
  split
  · assumption
  · exact r.commitStatus_committed .ok

theorem commitStatus_sound (r : Response) (status : Status) : (r.commitStatus status).Sound :=
  sound_of_committed (r.commitStatus_committed status)

theorem write_sound (r : Response) (bytes : Bytes) : (r.write bytes).Sound :=
  sound_of_committed (r.write_committed bytes)

theorem Sound.setHeader {r : Response} (sound : r.Sound) (name : HeaderName) (value : HeaderValue) :
    (r.setHeader name value).Sound :=
  sound

theorem Sound.addHeader {r : Response} (sound : r.Sound) (name : HeaderName) (value : HeaderValue) :
    (r.addHeader name value).Sound :=
  sound

end Response

/-- What a handler can make of its context without binding it to another request: `Context.reset` is not
among the operations that this is about. -/
structure Context.Evolves (c c' : Context) : Prop where
  method : c'.method = c.method
  path : c'.path = c.path
  captures : c'.captures = c.captures
  route : c'.route = c.route
  allowed : c'.allowed = c.allowed
  debug : c'.debug = c.debug
  response : c.response.Sound → c'.response.Sound

namespace Context

theorem Evolves.refl (c : Context) : c.Evolves c := ⟨rfl, rfl, rfl, rfl, rfl, rfl, id⟩

theorem Evolves.trans {c c' c'' : Context} (first : c.Evolves c') (second : c'.Evolves c'') :
    c.Evolves c'' where
  method := second.method.trans first.method
  path := second.path.trans first.path
  captures := second.captures.trans first.captures
  route := second.route.trans first.route
  allowed := second.allowed.trans first.allowed
  debug := second.debug.trans first.debug
  response := second.response ∘ first.response

theorem evolves_response (c : Context) {r : Response} (sound : c.response.Sound → r.Sound) :
    c.Evolves { c with response := r } :=
  ⟨rfl, rfl, rfl, rfl, rfl, rfl, sound⟩

/-- Request, extensions and identifier are the handlers' own. -/
theorem evolves_own (c : Context) (request : Request) (extensions : Extensions) (id : Ulid) :
    c.Evolves { c with request := request, extensions := extensions, requestId := id } :=
  ⟨rfl, rfl, rfl, rfl, rfl, rfl, fun sound => sound⟩

theorem evolves_send (c : Context) (status : Status) (type : HeaderValue) (body : Bytes) :
    c.Evolves (c.send status type body) :=
  c.evolves_response fun _ => Response.write_sound _ body

theorem evolves_sendStatus (c : Context) (status : Status) : c.Evolves (c.sendStatus status).1 :=
  c.evolves_response fun _ => c.response.commitStatus_sound status

end Context

/-- What is allowed to a program: the reports that it makes, and what it may lead a context to.  Plain
reports and the operations on a context always are. -/
structure Conduct where
  reports : Effect → Prop
  leads : Context → Context → Prop
  plain : ∀ effect, effect.Plain → reports effect
  operations : ∀ {c c' : Context}, c.Evolves c' → leads c c'
  trans : ∀ {c c' c'' : Context}, leads c c' → leads c' c'' → leads c c''

namespace Conduct

theorem refl (conduct : Conduct) (c : Context) : conduct.leads c c := conduct.operations (.refl c)

/-- An operation on a context that was led somewhere. -/
theorem further (conduct : Conduct) {start c c' : Context} (led : conduct.leads start c)
    (evolved : c.Evolves c') : conduct.leads start c' :=
  conduct.trans led (conduct.operations evolved)

/-- No context is bound to another request; any report is allowed. -/
def proper : Conduct where
  reports _ := True
  leads := Context.Evolves
  plain _ _ := trivial
  operations evolved := evolved
  trans := Context.Evolves.trans

/-- A context may be bound to another request, as long as its response stays sound. -/
def sound : Conduct where
  reports _ := True
  leads c c' := c.response.Sound → c'.response.Sound
  plain _ _ := trivial
  operations evolved := evolved.response
  trans first second := second ∘ first

/-- A context may be bound to another request in the same mode, as long as its response stays sound. -/
def steady : Conduct where
  reports _ := True
  leads c c' := c'.debug = c.debug ∧ (c.response.Sound → c'.response.Sound)
  plain _ _ := trivial
  operations evolved := ⟨evolved.debug, evolved.response⟩
  trans first second := ⟨second.1.trans first.1, second.2 ∘ first.2⟩

/-- Only reports are restricted; what becomes of a context is not. -/
def reporting (reports : Effect → Prop) (plain : ∀ effect, effect.Plain → reports effect) : Conduct where
  reports := reports
  leads _ _ := True
  plain := plain
  operations _ := trivial
  trans _ _ := trivial

end Conduct

variable {conduct : Conduct}

/-- Every context that the program passes on is one that `start` may be led to, as long as what it gets
back is, and it makes no report that is not allowed. -/
inductive Program.Obeys (conduct : Conduct) (start : Context) : Program → Prop where
  | done (outcome : Outcome) {c : Context} (led : conduct.leads start c) :
    Obeys conduct start (.done outcome c)
  | emit {effect : Effect} {rest : Program} (allowed : conduct.reports effect)
    (obeys : Obeys conduct start rest) : Obeys conduct start (.emit effect rest)
  | next {c : Context} {resume : HandlerResult → Context → Program} (led : conduct.leads start c)
    (obeys : ∀ result c, conduct.leads start c → Obeys conduct start (resume result c)) :
    Obeys conduct start (.next c resume)
  | attempt {c : Context} {resume : Outcome → Context → Program} (led : conduct.leads start c)
    (obeys : ∀ outcome c, conduct.leads start c → Obeys conduct start (resume outcome c)) :
    Obeys conduct start (.attempt c resume)
  | serve (live : String) (request : Except RequestError Request) {c : Context}
    {resume : Reply → Program} (led : conduct.leads start c)
    (obeys : ∀ reply, Obeys conduct start (resume reply)) :
    Obeys conduct start (.serve live request c resume)
  | update (live : String) (change : List Registration) {resume : UpdateReply → Program}
    (obeys : ∀ reply, Obeys conduct start (resume reply)) :
    Obeys conduct start (.update live change resume)

def Middleware.Obeys (conduct : Conduct) : Middleware → Prop
  | .wrap _ run => ∀ c, (run c).Obeys conduct c
  | .before _ run => ∀ c, (run c).Obeys conduct c
  | .exchange _ run => ∀ c, (Exchange.toProgram run c).Obeys conduct c

def Handler.Obeys (conduct : Conduct) (h : Handler) : Prop := ∀ c, (h.program c).Obeys conduct c

structure Chain.Obeys (conduct : Conduct) (chain : Chain) : Prop where
  layers : ∀ m ∈ chain.layers, m.Obeys conduct
  handler : chain.handler.Obeys conduct

/-- All that the service can run for a request is obedient. -/
structure Service.Obeys (conduct : Conduct) (s : Service) : Prop where
  find : ∀ c, (s.find c).1.Obeys conduct
  errorHandler : ∀ f c, (s.errorHandler f c).Obeys conduct c

/-- Nothing that the service runs binds its context to another request; it may report anything. -/
abbrev Service.Proper (s : Service) : Prop := s.Obeys .proper

/-- A report is one of `reports`; other steps are not restricted. -/
def Step.Within (reports : Effect → Prop) : Step → Prop
  | .report effect => reports effect
  | _ => True

/-- From every engine the run leads `start` where it may be led, and makes no report that is not
allowed. -/
def EngineRun.Obeys (conduct : Conduct) (start : Context) (run : EngineRun) (trail : Trail) : Prop :=
  ∀ e, conduct.leads start (run e).2.1 ∧ ∀ s ∈ trail e, s.Within conduct.reports

namespace EngineRun

variable {start c : Context} {run : EngineRun} {trail : Trail}

theorem obeys_still (outcome : Outcome) (led : conduct.leads start c) :
    Obeys conduct start (fun e => (outcome, c, e)) .still :=
  fun _ => ⟨led, List.forall_mem_nil _⟩

theorem Obeys.from (obeys : run.Obeys conduct c trail) (led : conduct.leads start c) :
    run.Obeys conduct start trail :=
  fun e => ⟨conduct.trans led (obeys e).1, (obeys e).2⟩

theorem Obeys.andThen {rest : Outcome → Context → EngineRun} {further : Outcome → Context → Trail}
    (first : run.Obeys conduct start trail)
    (second : ∀ outcome c, conduct.leads start c →
      (rest outcome c).Obeys conduct start (further outcome c)) :
    (run.andThen rest).Obeys conduct start (trail.andThen run further) := by
  intro e
  obtain ⟨led, allowed⟩ := first e
  obtain ⟨led', allowed'⟩ := second (run e).1 (run e).2.1 led (run e).2.2
  exact ⟨led', List.forall_mem_append.mpr ⟨allowed, allowed'⟩⟩

end EngineRun

/-- Started on any context, the stage is obedient. -/
def Stage.Obeys (conduct : Conduct) (stage : Stage) (trail : Context → Trail) : Prop :=
  ∀ c, EngineRun.Obeys conduct c (stage c) (trail c)

theorem Stage.finish_obeys : Stage.Obeys conduct .finish fun _ => .still :=
  fun c => EngineRun.obeys_still .ok (conduct.refl c)

namespace Program.Obeys

variable {start : Context} {program : Program} {next : Stage} {inner : Context → Trail}

theorem emits {effects : List Effect} {rest : Program}
    (allowed : ∀ effect ∈ effects, conduct.reports effect) (obeys : rest.Obeys conduct start) :
    (Program.emits effects rest).Obeys conduct start := by
  induction effects with
  | nil => exact obeys
  | cons effect effects ih =>
    obtain ⟨here, others⟩ := List.forall_mem_cons.mp allowed
    exact .emit here (ih others)

/-- By induction on the program; what comes next starts where the program has led its context. -/
theorem execute (obeys : program.Obeys conduct start) (rest : next.Obeys conduct inner) :
    EngineRun.Obeys conduct start (program.execute nested next) (program.trail nested next inner) := by
  induction obeys with
  | done outcome led => exact EngineRun.obeys_still outcome led
  | emit allowed _ ih =>
    exact fun e => ⟨(ih _).1, List.forall_mem_cons.mpr ⟨allowed, (ih _).2⟩⟩
  | @next c resume led _ ih =>
    rw [execute_next, trail]
    refine ((rest c).from led).andThen fun outcome c led => ?_
    cases outcome with
    | ok => exact ih .ok c led
    | error f => exact ih (.error f) c led
    | panic p => exact EngineRun.obeys_still (.panic p) led
  | @attempt c resume led _ ih => exact ((rest c).from led).andThen ih
  | @serve live request c resume led _ ih =>
    intro e
    simp only [Program.execute, trail]
    rcases nested.serve live request e with ⟨reply, e'⟩
    cases reply with
    | panicked p => exact ⟨led, List.forall_mem_cons.mpr ⟨trivial, List.forall_mem_nil _⟩⟩
    | _ => exact ⟨(ih _ e').1, List.forall_mem_cons.mpr ⟨trivial, (ih _ e').2⟩⟩
  | update live change _ ih =>
    exact fun e => ⟨(ih _ _).1, List.forall_mem_cons.mpr ⟨trivial, (ih _ _).2⟩⟩

theorem run (obeys : program.Obeys conduct start) (rest : next.Obeys conduct inner) :
    EngineRun.Obeys conduct start (program.run nested next) (program.runTrail nested next inner) := by
  intro e
  have whole : EngineRun.Obeys conduct start (program.execute nested next)
      (program.trail nested next inner) := obeys.execute rest
  obtain ⟨led, allowed⟩ := whole e
  exact ⟨led, List.forall_mem_append.mpr ⟨allowed, List.forall_mem_singleton.mpr trivial⟩⟩

theorem guard (obeys : program.Obeys conduct start) (rest : next.Obeys conduct inner) :
    EngineRun.Obeys conduct start (program.guard nested next) (program.guardTrail nested inner) := by
  rw [guard_eq]
  refine (obeys.run Stage.finish_obeys).andThen fun outcome c led => ?_
  cases outcome with
  | ok => exact (rest c).from led
  | error f => exact EngineRun.obeys_still (.error f) led
  | panic p => exact EngineRun.obeys_still (.panic p) led

end Program.Obeys

theorem Middleware.Obeys.around {m : Middleware} (obeys : m.Obeys conduct) {next : Stage}
    {inner : Context → Trail} (rest : next.Obeys conduct inner) :
    Stage.Obeys conduct (m.around nested next) (m.trail nested next inner) := by
  intro c
  cases m with
  | wrap name run => exact (obeys c).run rest
  | before name run => exact (obeys c).guard rest
  | exchange name run =>
    rw [around_exchange, trail]
    split
    · exact rest c
    · exact (obeys c).guard rest

theorem Chain.Obeys.run {chain : Chain} (obeys : chain.Obeys conduct) (nested : Nested) :
    Stage.Obeys conduct (chain.run nested) (chain.trail nested) := by
  obtain ⟨layers, handler⟩ := chain
  obtain ⟨all, own⟩ := obeys
  induction layers with
  | nil => exact fun c => (own c).run Stage.finish_obeys
  | cons m layers ih =>
    obtain ⟨here, others⟩ := List.forall_mem_cons.mp all
    exact here.around (ih others own)

theorem Service.Obeys.respond {s : Service} (obeys : s.Obeys conduct) {chain : Chain}
    (inside : chain.Obeys conduct) (nested : Nested) :
    Stage.Obeys conduct (s.respond nested chain) (s.trail nested chain) := by
  intro c
  rw [respond_eq]
  refine (inside.run nested c).andThen fun outcome c led => ?_
  cases outcome with
  | ok => exact EngineRun.obeys_still .ok led
  | error f => exact ((obeys.errorHandler f c).run Stage.finish_obeys).from led
  | panic p => exact EngineRun.obeys_still (.panic p) led

theorem Service.Obeys.binding {s : Service} (obeys : s.Obeys conduct) (request : Request)
    (id : Ulid) : (s.binding request id).1.Obeys conduct := by
  rw [Service.binding]
  exact obeys.find _

/-- What a chain that is bound to a request makes of the context on which it starts. -/
theorem Service.Obeys.bound {s : Service} (obeys : s.Obeys conduct) (nested : Nested)
    (request : Request) (id : Ulid) (e : Engine) :
    let bound := s.binding request id
    conduct.leads bound.2 (bound.1.run nested bound.2 e).2.1 :=
  ((obeys.binding request id).run nested _ e).1

/-- A chain starts on an empty response. -/
theorem Service.binding_sound (s : Service) (request : Request) (id : Ulid) :
    (s.binding request id).2.response.Sound := by
  obtain ⟨_, _, _, _, _, _, empty⟩ := s.binding_context request id
  rw [empty]
  exact Response.fresh_sound

end RequestDispatch
