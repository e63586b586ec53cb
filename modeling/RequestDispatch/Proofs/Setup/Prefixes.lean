import RequestDispatch.Proofs.Routing.TemplateGrammar
import RequestDispatch.Proofs.Setup.Composition
import RequestDispatch.Proofs.Setup.Tables

/-!
# Prefixes

Joining paths is concatenation of their non-empty pieces, so it is associative, leaves what was joined as
it is, and its results are in canonical form (`Routing.join_assoc`, `Routing.join_empty_join`,
`Routing.canonical_join`).  A route is registered under the pieces of all prefixes around it and of its own
path (`Registration.named`), however the prefixes are divided among groups, and no registration is refused
for the form of its path (`Dispatcher.prefixes_join`).
-/

namespace RequestDispatch

namespace Routing

/-! ### Joined paths -/

theorem apart_append {piece rest : List Char} (whole : '/' ∉ piece) (apart : ¬ ['/', '/'] <:+: rest) :
    ¬ ['/', '/'] <:+: piece ++ rest := by
  induction piece with
  | nil => exact apart
  | cons c piece ih =>
    rw [List.mem_cons, not_or] at whole
    rw [List.cons_append, List.infix_cons_iff, not_or]
    refine ⟨?_, ih whole.2⟩
    rintro ⟨more, same⟩
    exact whole.1 (List.cons.inj same).1

/-- A path that is written from pieces is in canonical form. -/
theorem canonical_ofSegments {items : List (List Char)} (h : ∀ piece ∈ items, IsPiece piece) :
    Canonical (ofSegments items) := by
  have apart : ¬ ['/', '/'] <:+: items.flatMap ('/' :: ·) := by
    induction items with
    | nil => simp
    | cons piece more ih =>
      obtain ⟨⟨filled, whole⟩, others⟩ := List.forall_mem_cons.mp h
      rw [List.flatMap_cons, List.cons_append, List.infix_cons_iff, not_or]
      refine ⟨?_, apart_append whole (ih others)⟩
      rintro ⟨text, same⟩
      cases piece with
      | nil => exact filled rfl
      | cons c piece => exact whole ((List.cons.inj (List.cons.inj same).2).1 ▸ List.mem_cons_self)
  rcases List.eq_nil_or_concat' items with rfl | ⟨front, piece, rfl⟩
  · exact ⟨rfl, by decide, fun _ => rfl⟩
  · have written : ofSegments (front ++ [piece]) = (front ++ [piece]).flatMap ('/' :: ·) := by
      cases front <;> rfl
    obtain ⟨filled, whole⟩ := h piece (by simp)
    rw [written]
    refine ⟨?_, apart, fun slash => ?_⟩
    · cases front <;> rfl
    · rw [List.flatMap_append, List.flatMap_singleton, List.append_cons,
        List.getLast?_append_of_ne_nil _ filled] at slash
      exact absurd (List.mem_of_getLast? slash) whole

theorem canonical_join (base path : String) : Canonical (join base path).toList := by
  rw [join, String.toList_ofList]
  exact canonical_ofSegments fun piece mem =>
    (List.mem_append.mp mem).elim isPiece_of_mem_segments isPiece_of_mem_segments

/-- The path with these pieces. -/
def pathOf (items : List (List Char)) : String := String.ofList (ofSegments items)

theorem join_eq_pathOf (base path : String) :
    join base path = pathOf (segments base.toList ++ segments path.toList) := rfl

theorem join_assoc (a b c : String) : join (join a b) c = join a (join b c) := by
  rw [join_eq_pathOf, segments_join, join_eq_pathOf a, segments_join, List.append_assoc]

/-- What was joined stays as it is. -/
theorem join_empty_join (base path : String) : join "" (join base path) = join base path := by
  rw [join_eq_pathOf "", segments_join]
  rfl

end Routing

open Routing

/-- A route is mounted where it was joined first; joining it again changes nothing. -/
theorem Setup.add_eq_mount (site : Site) (m : Method) (path : String) (handler : Handler) :
    Setup.add site m path handler = Setup.mount site.scope m (join site.path path) handler := by
  rw [Setup.add, join_empty_join]

namespace Registration

/-! ### The routes that a history asks for -/

/-- A route that is asked for: the pieces of all prefixes and of its path, for some methods. -/
structure Request where
  pieces : List (List Char)
  methods : List Method
  handler : Handler

/-- What is registered for a request and a method. -/
def Request.submission (r : Request) (m : Method) : Submission Handler :=
  ⟨m, pathOf r.pieces, r.handler.name, r.handler⟩

/-- The pieces of some paths, one path after the other. -/
def piecesOf (paths : List String) : List (List Char) := paths.flatMap fun path => segments path.toList

theorem piecesOf_append (paths more : List String) :
    piecesOf (paths ++ more) = piecesOf paths ++ piecesOf more :=
  List.flatMap_append

mutual

/-- The routes that a step inside groups asks for; `around` are the prefixes of the groups. -/
def requests (around : List String) : Registration → List Request
  | .route methods path handler => [⟨piecesOf (around ++ [path]), methods, handler⟩]
  | .group path _ body => requestsAll (around ++ [path]) body
  | _ => []

def requestsAll (around : List String) : List Registration → List Request
  | [] => []
  | step :: rest => requests around step ++ requestsAll around rest

end

/-- Takes up the routes of one request after the other. -/
def takeUpAll (requests : List Request) (routes : List (Submission Handler)) :
    List (Submission Handler) :=
  requests.foldl (fun routes r => takeUp r.submission (Setup.orGet r.methods) routes) routes

/-- The accepted routes of a history, each under the pieces of all prefixes around it and of its path. -/
def named (history : List Registration) : List (Submission Handler) :=
  takeUpAll (requestsAll [] history) []

mutual

theorem enroll_requests {base : String} {around : List String}
    (inside : segments base.toList = piecesOf around) (final : List Middleware)
    (now : Option (List Middleware)) (routes : List (Submission Chain)) : ∀ step : Registration,
    (enroll base final now step routes).map (Submission.map Chain.handler) =
      takeUpAll (requests around step) (routes.map (Submission.map Chain.handler))
  | .route methods path handler => by
    have template : join "" (join base path) = pathOf (piecesOf (around ++ [path])) := by
      rw [join_empty_join, join_eq_pathOf, inside, piecesOf_append, piecesOf, piecesOf,
        List.flatMap_singleton]
    rw [enroll, takeUp_map, template]
    rfl
  | .group path _ body => by
    have further : segments (join base path).toList = piecesOf (around ++ [path]) := by
      rw [segments_join, inside, piecesOf_append, piecesOf, piecesOf, List.flatMap_singleton]
    exact enrollAll_requests further _ _ routes body
  | .use _ => rfl
  | .debug _ => rfl
  | .notFound _ => rfl
  | .methodNotAllowed _ => rfl
  | .errorHandler _ => rfl
  | .hook _ => rfl
  | .refuse _ => rfl
termination_by structural step => step

theorem enrollAll_requests {base : String} {around : List String}
    (inside : segments base.toList = piecesOf around) (final : List Middleware)
    (now : Option (List Middleware)) (routes : List (Submission Chain)) :
    ∀ steps : List Registration,
    (enrollAll base final now steps routes).map (Submission.map Chain.handler) =
      takeUpAll (requestsAll around steps) (routes.map (Submission.map Chain.handler))
  | [] => rfl
  | step :: rest => by
    rw [enrollAll, enrollAll_requests inside _ _ _ rest, enroll_requests inside _ _ _ step,
      requestsAll, takeUpAll, takeUpAll, takeUpAll, List.foldl_append]
termination_by structural steps => steps

end

theorem enrolled_handlers (history : List Registration) :
    (enrolled history).map (Submission.map Chain.handler) = named history :=
  enrollAll_requests rfl _ _ _ history

/-! ### Prefixes divided among groups -/

/-- Steps inside groups with these prefixes, the first outermost. -/
def nest (prefixes : List String) (body : List Registration) : List Registration :=
  prefixes.foldr (fun path inner => [.group path false inner]) body

/-- Histories that differ in how the prefixes are divided among groups, here or there. -/
inductive Regrouped : List Registration → List Registration → Prop
  | divided {ps qs : List String} (same : piecesOf ps = piecesOf qs) (body : List Registration) :
    Regrouped (nest ps body) (nest qs body)
  | same (steps : List Registration) : Regrouped steps steps
  | inside {a b : List Registration} (path : String) (strict : Bool) (inner : Regrouped a b) :
    Regrouped [.group path strict a] [.group path strict b]
  | beside {a b c d : List Registration} (first : Regrouped a b) (second : Regrouped c d) :
    Regrouped (a ++ c) (b ++ d)
  | trans {a b c : List Registration} (first : Regrouped a b) (second : Regrouped b c) : Regrouped a c

mutual

/-- What is asked for depends on the prefixes by their pieces only. -/
theorem requests_congr {ps qs : List String} (same : piecesOf ps = piecesOf qs) :
    ∀ step : Registration, requests ps step = requests qs step
  | .route methods path handler => by
    rw [requests, requests, piecesOf_append, same, ← piecesOf_append]
  | .group path _ body => by
    rw [requests, requests]
    exact requestsAll_congr (by rw [piecesOf_append, same, ← piecesOf_append]) body
  | .use _ => rfl
  | .debug _ => rfl
  | .notFound _ => rfl
  | .methodNotAllowed _ => rfl
  | .errorHandler _ => rfl
  | .hook _ => rfl
  | .refuse _ => rfl
termination_by structural step => step

theorem requestsAll_congr {ps qs : List String} (same : piecesOf ps = piecesOf qs) :
    ∀ steps : List Registration, requestsAll ps steps = requestsAll qs steps
  | [] => rfl
  | step :: rest => by
    rw [requestsAll, requestsAll, requests_congr same step, requestsAll_congr same rest]
termination_by structural steps => steps

end

theorem requestsAll_nest (around prefixes : List String) (body : List Registration) :
    requestsAll around (nest prefixes body) = requestsAll (around ++ prefixes) body := by
  induction prefixes generalizing around with
  | nil => rw [List.append_nil]; rfl
  | cons path rest ih =>
    have opened : requestsAll around (nest (path :: rest) body) =
        requestsAll (around ++ [path]) (nest rest body) ++ [] := rfl
    rw [opened, List.append_nil, ih, List.append_assoc, List.singleton_append]

theorem requestsAll_append (around : List String) (steps rest : List Registration) :
    requestsAll around (steps ++ rest) = requestsAll around steps ++ requestsAll around rest := by
  induction steps with
  | nil => rfl
  | cons step steps ih => rw [List.cons_append, requestsAll, ih, requestsAll, List.append_assoc]

theorem Regrouped.requestsAll_eq {a b : List Registration} (h : Regrouped a b) (around : List String) :
    requestsAll around a = requestsAll around b := by
  induction h generalizing around with
  | divided same body =>
    rw [requestsAll_nest, requestsAll_nest]
    exact requestsAll_congr (by rw [piecesOf_append, same, ← piecesOf_append]) body
  | same steps => rfl
  | inside path strict inner ih => exact congrArg (· ++ []) (ih (around ++ [path]))
  | beside first second ihFirst ihSecond =>
    rw [requestsAll_append, requestsAll_append, ihFirst, ihSecond]
  | trans first second ihFirst ihSecond => exact (ihFirst around).trans (ihSecond around)

theorem Regrouped.named_eq {a b : List Registration} (h : Regrouped a b) : named a = named b :=
  congrArg (takeUpAll · []) (h.requestsAll_eq [])

end Registration

/-! ### No refusal for the form of a path -/

/-- The error says that a path is not in canonical form. -/
def RouteError.OfForm (error : RouteError) : Prop :=
  ∃ path fault, TemplateFault.OfForm fault ∧ error = fault.toError path

def SetupError.OfForm (error : SetupError) : Prop :=
  ∃ cause, RouteError.OfForm cause ∧ error = .route cause

theorem not_ofForm_toError {fault : TemplateFault} (h : ¬ fault.OfForm) (path : String) :
    ¬ (fault.toError path).OfForm := by
  rintro ⟨other, found, form, same⟩
  have faults : fault = found := by
    cases form <;> cases fault <;> simp_all [TemplateFault.toError]
  exact h (faults ▸ form)

/-- A template in canonical form is refused for its form nowhere. -/
theorem not_ofForm_of_submit {α : Type} {router : Router α} {s : Submission α} {error : RouteError}
    (canonical : Canonical s.template.toList) (refused : router.submit s = .error error) :
    ¬ error.OfForm := by
  by_cases readable : s.Readable
  · rw [Router.submit_readable readable] at refused
    split at refused
    · cases refused
      rintro ⟨other, found, form, same⟩
      cases form <;> cases same
    · cases refused
  · rw [Router.submit, Router.add] at refused
    cases parsed : Template.parse s.template with
    | ok segments => exact absurd (Submission.readable_of_parse parsed).1 readable
    | error fault =>
      rw [parsed] at refused
      cases refused
      rw [Template.parse] at parsed
      cases found : Template.parseChars s.template.toList with
      | ok segments =>
        rw [found] at parsed
        cases parsed
      | error fault =>
        rw [found] at parsed
        cases parsed
        exact not_ofForm_toError (Template.not_ofForm_of_canonical canonical found) _

/-- What a setup comes back with: an answer as said, or a failure that is not for the form of a path. -/
inductive Setup.Ends {α : Type} (answers : α → Prop) : Except SetupError α → Prop
  | ok {a : α} (h : answers a) : Ends answers (.ok a)
  | error {error : SetupError} (h : ¬ error.OfForm) : Ends answers (.error error)

/-- Whatever the state, the setup does not fail for the form of a path, and its answers are as said. -/
def Setup.Formed {α : Type} (answers : α → Prop) (step : Setup α) : Prop :=
  ∀ s, Ends answers (step.run s).1

namespace Setup

variable {α β : Type} {answers : α → Prop}

theorem pure_formed {a : α} (h : answers a) : (pure a : Setup α).Formed answers := fun _ => .ok h

theorem throw_formed {error : SetupError} (h : ¬ error.OfForm) :
    (throw error : Setup α).Formed answers := fun _ => .error h

theorem change_formed (f : Dispatcher → Dispatcher) : (change f).Formed fun _ => True :=
  fun _ => .ok trivial

theorem report_formed (event : Event) : (report event).Formed fun _ => True := fun _ => .ok trivial

theorem dispatcher_formed : dispatcher.Formed fun _ => True := fun _ => .ok trivial

theorem Formed.bind {later : β → Prop} {step : Setup α} {next : α → Setup β}
    (first : step.Formed answers) (second : ∀ a, answers a → (next a).Formed later) :
    (step >>= next).Formed later := by
  intro s
  have before := first s
  rw [run_bind]
  generalize step.run s = run at before ⊢
  obtain ⟨result, s'⟩ := run
  cases before with
  | ok h => exact second _ h s'
  | error h => exact .error h

theorem mount_formed (scope : Option Nat) (m : Method) {template : String} (handler : Handler)
    (canonical : Canonical template.toList) :
    (mount scope m template handler).Formed fun _ => True := by
  refine dispatcher_formed.bind fun d _ => ?_
  split
  · rename_i error refused
    refine throw_formed ?_
    rintro ⟨cause, form, same⟩
    cases same
    exact not_ofForm_of_submit (s := request scope template handler m) canonical refused form
  · exact (change_formed _).bind fun _ _ => report_formed _

theorem add_formed (site : Site) (m : Method) (path : String) (handler : Handler) :
    (add site m path handler).Formed fun _ => True := by
  rw [add_eq_mount]
  exact mount_formed site.scope m handler (canonical_join site.path path)

theorem route_formed (site : Site) (methods : List Method) (path : String) (handler : Handler) :
    (route site methods path handler).Formed fun _ => True := by
  have each (methods : List Method) :
      (methods.forM fun m => add site m path handler).Formed fun _ => True := by
    induction methods with
    | nil => exact pure_formed trivial
    | cons m rest ih => exact (add_formed site m path handler).bind fun _ _ => ih
  unfold route
  split
  · exact add_formed site .get path handler
  · exact each _

theorem use_formed (site : Site) (m : Middleware) : (use site m).Formed fun _ => True := by
  unfold use
  split
  · exact dispatcher_formed.bind fun d _ => (report_formed _).bind fun _ _ => change_formed _
  · exact (report_formed _).bind fun _ _ => change_formed _

theorem openGroup_formed (site : Site) (path : String) :
    (openGroup site path).Formed fun _ => True :=
  dispatcher_formed.bind fun _ _ => (change_formed _).bind fun _ _ =>
    (report_formed _).bind fun _ _ => pure_formed trivial

end Setup

namespace SetupAnswer

mutual

/-- The failures that an answer tells of, those inside groups too. -/
def failures : SetupAnswer → List SetupError
  | .failed error => [error]
  | .group _ answers => failuresAll answers
  | _ => []

def failuresAll : List SetupAnswer → List SetupError
  | [] => []
  | answer :: rest => failures answer ++ failuresAll rest

end

/-- No failure is for the form of a path. -/
def Formed (answer : SetupAnswer) : Prop := ∀ error ∈ answer.failures, ¬ error.OfForm

def FormedAll (answers : List SetupAnswer) : Prop := ∀ error ∈ failuresAll answers, ¬ error.OfForm

theorem failuresAll_eq (answers : List SetupAnswer) : failuresAll answers = answers.flatMap failures := by
  induction answers with
  | nil => rfl
  | cons answer rest ih => exact congrArg (answer.failures ++ ·) ih

theorem Formed.error {answer : SetupAnswer} (formed : answer.Formed) {error : SetupError}
    (failed : answer.error? = some error) : ¬ error.OfForm := by
  cases answer with
  | failed cause =>
    cases failed
    exact formed _ List.mem_cons_self
  | done => cases failed
  | debug on => cases failed
  | group path answers => cases failed

theorem FormedAll.lastError {answers : List SetupAnswer} (formed : FormedAll answers)
    {error : SetupError} (last : lastError? answers = some error) : ¬ error.OfForm := by
  obtain ⟨answer, mem, failed⟩ := List.mem_filterMap.mp (List.mem_of_getLast? last)
  have own : answer.Formed := fun cause inside =>
    formed cause (failuresAll_eq answers ▸ List.mem_flatMap.mpr ⟨answer, mem, inside⟩)
  exact own.error failed

theorem failed_formed {error : SetupError} (h : ¬ error.OfForm) : (failed error).Formed :=
  fun _ mem => List.mem_singleton.mp mem ▸ h

end SetupAnswer

theorem SetupError.refused_not_ofForm (reason : String) : ¬ (SetupError.refused reason).OfForm := by
  rintro ⟨cause, -, same⟩
  cases same

namespace Registration

open Setup

theorem answer_formed {step : Setup SetupAnswer} (formed : step.Formed SetupAnswer.Formed) :
    (answer step).Formed SetupAnswer.Formed := by
  intro s
  have ends : Ends SetupAnswer.Formed (StateT.run (ExceptT.run step) s).1 := formed s
  unfold answer
  simp only [tryCatch, tryCatchThe, MonadExceptOf.tryCatch, ExceptT.tryCatch, ExceptT.run_mk]
  change Ends _ (StateT.run (ExceptT.run step >>= _) s).1
  rw [StateT.run_bind]
  generalize StateT.run (ExceptT.run step) s = run at ends ⊢
  obtain ⟨result, s'⟩ := run
  cases ends with
  | ok h => exact .ok h
  | error h => exact .ok (SetupAnswer.failed_formed h)

mutual

theorem perform_formed (site : Site) : ∀ r : Registration, (perform site r).Formed SetupAnswer.Formed
  | .route methods path handler =>
    answer_formed ((route_formed site methods path handler).bind fun _ _ => pure_formed nofun)
  | .use middleware => (use_formed site middleware).bind fun _ _ => pure_formed nofun
  | .group path strict body => by
    refine (openGroup_formed site path).bind fun inner _ =>
      (performAll_formed inner body).bind fun answers formed => ?_
    split
    · rename_i error last
      exact pure_formed (SetupAnswer.failed_formed (formed.lastError last))
    · exact pure_formed formed
  | .debug on => (change_formed _).bind fun _ _ => pure_formed nofun
  | .notFound handler => (change_formed _).bind fun _ _ => pure_formed nofun
  | .methodNotAllowed handler => (change_formed _).bind fun _ _ => pure_formed nofun
  | .errorHandler run => (change_formed _).bind fun _ _ => pure_formed nofun
  | .hook run => (change_formed _).bind fun _ _ => pure_formed nofun
  | .refuse reason => pure_formed (SetupAnswer.failed_formed (SetupError.refused_not_ofForm reason))
termination_by structural r => r

theorem performAll_formed (site : Site) :
    ∀ rs : List Registration, (performAll site rs).Formed SetupAnswer.FormedAll
  | [] => pure_formed nofun
  | r :: rest =>
    (perform_formed site r).bind fun _ first => (performAll_formed site rest).bind fun _ later =>
      pure_formed fun error mem => (List.mem_append.mp mem).elim (first error) (later error)
termination_by structural rs => rs

end

theorem change_formed : ∀ rs : List Registration, (change rs).Formed fun _ => True
  | [] => pure_formed trivial
  | r :: rest => by
    refine (perform_formed .outside r).bind fun answer formed => ?_
    split
    · rename_i error failed
      exact throw_formed (formed.error failed)
    · exact change_formed rest

end Registration

/-! ### Registrations and their prefixes -/

theorem Dispatcher.after_named (config : DispatchSettings) (history : List Registration) :
    ((after config history).router.map fun mount => mount.chain.handler).Records
      (Registration.named history) := by
  obtain ⟨registered, records, same⟩ := after_records config history
  have handlers := records.map fun mount => mount.chain.handler
  have routes : registered.map (Submission.map fun mount => mount.chain.handler) =
      Registration.named history := by
    rw [← Registration.enrolled_handlers, ← same, List.map_map]
    rfl
  rwa [routes] at handlers

/-- Joining is associative, its results are in canonical form, and they stay as they are when they are
joined again.  So what any history registers are the accepted ones of its routes, each under the pieces of
all prefixes and of its path; dividing the prefixes among groups in another way changes nothing; and
nothing that is registered is refused for the form of its path. -/
theorem Dispatcher.prefixes_join :
    (∀ a b c, join (join a b) c = join a (join b c)) ∧
      (∀ a b, Canonical (join a b).toList) ∧
      (∀ a b, join "" (join a b) = join a b) ∧
      (∀ site m path handler,
        Setup.add site m path handler = Setup.mount site.scope m (join site.path path) handler) ∧
      (∀ config history, ((after config history).router.map fun mount => mount.chain.handler).Records
        (Registration.named history)) ∧
      (∀ config history other, Registration.Regrouped history other →
        Registration.named history = Registration.named other ∧
          (after config history).router.routes = (after config other).router.routes) ∧
      (∀ site methods path handler, (Setup.route site methods path handler).Formed fun _ => True) ∧
      (∀ site history, (Registration.performAll site history).Formed SetupAnswer.FormedAll) ∧
      ∀ history, (Registration.change history).Formed fun _ => True := by
  refine ⟨join_assoc, canonical_join, join_empty_join, Setup.add_eq_mount, after_named, ?_,
    Setup.route_formed, Registration.performAll_formed, Registration.change_formed⟩
  intro config history other regrouped
  refine ⟨regrouped.named_eq, ?_⟩
  have routes := (after_named config history).listed
  rw [regrouped.named_eq, ← (after_named config other).listed] at routes
  exact routes

/-- Slashes that are repeated, missing or at an end make no difference, and neither does an empty
prefix. -/
example :
    Registration.piecesOf ["/api/", "", "//v1"] = Registration.piecesOf ["api/v1"] ∧
      pathOf (Registration.piecesOf ["/api/", "", "//v1", "users/"]) = "/api/v1/users" := by
  decide

end RequestDispatch
