import RequestDispatch.Proofs.Serving.InternalFailures
import RequestDispatch.Proofs.Text.Reading

/-!
# What the client reads of a failure

With the standard error handler the client gets what the chain wrote, as long as the chain succeeds or has
committed its response.  Otherwise it gets one JSON object with the message of the outermost `HttpError`,
under the status of that error and among the headers set so far (`Service.answers_failures`).  No byte can
stand before it: a response that is not committed is empty, whatever handlers did to it.
-/

namespace RequestDispatch

/-- Status and message under which a failure is shown: those of the `HttpError` around which there is no
other; without one, status 500 and a text that depends on the mode. -/
inductive Failure.ShownAs (f : Failure) (debug : Bool) : Status → String → Prop where
  | http {outer inner : List Cause} {error : HttpError} (causes : f.causes = outer ++ .http error :: inner)
    (outermost : ∀ other, .http other ∉ outer) : ShownAs f debug error.code error.message
  | revealed (plain : ∀ error, .http error ∉ f.causes) (mode : debug = true) :
    ShownAs f debug .internalServerError f.fullText
  | veiled (plain : ∀ error, .http error ∉ f.causes) (mode : debug = false) :
    ShownAs f debug .internalServerError "Internal Server Error"

theorem Cause.http?_eq_none_iff {cause : Cause} : cause.http? = none ↔ ∀ error, cause ≠ .http error := by
  cases cause <;> simp [http?]

theorem Cause.http?_eq_some_iff {cause : Cause} {error : HttpError} :
    cause.http? = some error ↔ cause = .http error := by
  cases cause <;> simp [http?]

namespace Failure

variable {f : Failure} {debug : Bool}

theorem http?_eq_none_iff : f.http? = none ↔ ∀ error, .http error ∉ f.causes := by
  rw [http?, List.findSome?_eq_none_iff]
  constructor
  · exact fun none error mem => Cause.http?_eq_none_iff.mp (none _ mem) error rfl
  · exact fun plain cause mem =>
      Cause.http?_eq_none_iff.mpr fun error same => plain error (same ▸ mem)

theorem http?_eq_some_iff {error : HttpError} :
    f.http? = some error ↔ ∃ outer inner, f.causes = outer ++ .http error :: inner ∧
      ∀ other, .http other ∉ outer := by
  rw [http?, List.findSome?_eq_some_iff]
  constructor
  · rintro ⟨outer, cause, inner, causes, found, before⟩
    obtain rfl := Cause.http?_eq_some_iff.mp found
    exact ⟨outer, inner, causes, fun other mem =>
      Cause.http?_eq_none_iff.mp (before _ mem) other rfl⟩
  · rintro ⟨outer, inner, causes, outermost⟩
    exact ⟨outer, .http error, inner, causes, rfl, fun cause mem =>
      Cause.http?_eq_none_iff.mpr fun other same => outermost other (same ▸ mem)⟩

/-- The error handler shows every failure, and in one way only. -/
theorem shownAs_iff {status : Status} {message : String} :
    f.ShownAs debug status message ↔ ErrorHandler.verdict f debug = (status, message) := by
  rw [ErrorHandler.verdict]
  constructor
  · intro shown
    cases shown with
    | http causes outermost => rw [http?_eq_some_iff.mpr ⟨_, _, causes, outermost⟩]
    | revealed plain mode => rw [http?_eq_none_iff.mpr plain, mode, if_pos rfl]
    | veiled plain mode => rw [http?_eq_none_iff.mpr plain, mode, if_neg Bool.false_ne_true]; rfl
  · intro verdict
    cases found : f.http? with
    | some error =>
      rw [found] at verdict
      obtain ⟨outer, inner, causes, outermost⟩ := http?_eq_some_iff.mp found
      cases verdict
      exact .http causes outermost
    | none =>
      have plain := http?_eq_none_iff.mp found
      rw [found] at verdict
      cases mode : debug with
      | true =>
        rw [mode, if_pos rfl] at verdict
        cases verdict
        exact .revealed plain rfl
      | false =>
        rw [mode, if_neg Bool.false_ne_true] at verdict
        cases verdict
        exact .veiled plain rfl

end Failure

/-- The field of the object with one field that a body consists of. -/
def Answer.field? (answer : Answer) : Option (String × String) :=
  (Utf8.decode? answer.body).bind fun text => Json.readField? text.toList

theorem ErrorHandler.field?_body (status : Status) (headers : Headers) (message : String) :
    (Answer.mk status headers (body message)).field? = some ("error", message) := by
  rw [Answer.field?, body, Utf8.decode?_encode, Option.bind_some, String.toList_ofList,
    Json.readField?_object]

namespace Service

/-- The answer to a request whose chain ended without a panic and left the context `c`. -/
theorem answers_failures {s : Service} (standard : s.errorHandler = .standard)
    (steady : s.Obeys .steady) {depth : Nat} {request : Request} {e after : Engine} {h : Handling}
    (admitted : s.handling? depth request e = some h) {result : HandlerResult} {c : Context}
    (ended : h.chainRun = (result.toOutcome, c, after)) :
    let written := c.response
    let kept : Answer := ⟨written.status, written.headers, written.body⟩
    ∃ answer, (s.serve (.upTo depth) request e).1 = .answer answer ∧
      match result with
      | .ok => answer = kept
      | .error f =>
        if written.committed then answer = kept
        else ∃ message, f.ShownAs s.debug answer.status message ∧
          answer.body = ErrorHandler.body message ∧ answer.field? = some ("error", message) ∧
          answer.headers.values .contentType = [Context.jsonType] ∧
          ∀ name ≠ .contentType, answer.headers.values name = written.headers.values name := by
  obtain ⟨rfl, -, -, -⟩ := service_of_handling admitted
  have reply : h.reply = standardReply result.toOutcome c := by
    rw [Handling.reply_of_standard standard, ended]
  have chain : h.bound.1.Obeys .steady := by
    unfold Handling.bound
    exact steady.binding h.request h.id
  obtain ⟨mode, sound⟩ := Handling.chainRun_steady chain
  rw [ended] at mode sound
  dsimp only at mode sound
  intro written kept
  rw [serve_of_handling admitted, reply]
  cases result with
  | ok => exact ⟨_, rfl, rfl⟩
  | error f =>
    refine ⟨_, rfl, ?_⟩
    dsimp only [written, kept]
    split
    · rename_i committed
      rw [ErrorHandler.answered, if_pos committed]
      rfl
    · rename_i uncommitted
      rw [ErrorHandler.answered_take sound (Bool.eq_false_iff.mpr uncommitted), mode]
      exact ⟨_, Failure.shownAs_iff.mpr rfl, rfl, ErrorHandler.field?_body _ _ _,
        Headers.values_insert _ _ _, fun name other => Headers.values_insert_of_ne _ _ other⟩

/-- An error with a status between two layers without, after a header and a content type were set. -/
theorem answers_failures_script :
    let f : Failure := ⟨[.text "saving", .http ⟨.notFound, "no \"file\"\n"⟩], .text "disk full"⟩
    let s := (Dispatcher.scripted [.respond (.header "x-a" "1"),
      .respond (.header "content-type" "text/html"), .fail f] []).build
    let request : Request := ⟨.get, ⟨"/inner", none⟩, [], []⟩
    let e := Engine.create (.empty 1) Ulid.ofNat
    s.errorHandler = .standard ∧ s.Obeys .steady ∧ ∃ h c after, s.handling? 0 request e = some h ∧
      h.chainRun = ((HandlerResult.error f).toOutcome, c, after) ∧
      ∃ answer, (s.serve (.upTo 0) request e).1 = .answer answer ∧ answer.status = .notFound ∧
        answer.field? = some ("error", "no \"file\"\n") ∧
        answer.headers.values .contentType = [Context.jsonType] ∧
        answer.headers.values ⟨"x-a"⟩ = [⟨"1"⟩] := by
  intro f s request e
  have steady : s.Obeys .steady := Dispatcher.scripted_obeys _ _
  have fails : ∃ h, s.handling? 0 request e = some h ∧
      h.chainRun.1 = (HandlerResult.error f).toOutcome ∧
      h.chainRun.2.1.response.committed = false ∧
      h.chainRun.2.1.response.headers.values ⟨"x-a"⟩ = [⟨"1"⟩] :=
    ⟨⟨s, request, e, 0⟩, rfl, by decide +kernel⟩
  obtain ⟨h, admitted, error, uncommitted, headers⟩ := fails
  rcases ended : h.chainRun with ⟨outcome, c, after⟩
  rw [ended] at error uncommitted headers
  dsimp only at error uncommitted headers
  subst error
  refine ⟨rfl, steady, h, c, after, admitted, ended, ?_⟩
  obtain ⟨answer, served, told⟩ := answers_failures rfl steady admitted ended
  dsimp only at told
  rw [if_neg (by rw [uncommitted]; exact Bool.false_ne_true)] at told
  obtain ⟨message, shown, -, field, type, others⟩ := told
  have verdict : (Status.notFound, "no \"file\"\n") = (answer.status, message) :=
    Failure.shownAs_iff.mp shown
  obtain ⟨status, rfl⟩ := Prod.mk.inj verdict
  exact ⟨answer, served, status.symm, field, type, (others ⟨"x-a"⟩ (by decide)).trans headers⟩

end Service

end RequestDispatch
