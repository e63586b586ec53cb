import RequestDispatch.Proofs.Serving.BuiltinConduct
import RequestDispatch.Proofs.Serving.Handlings
import RequestDispatch.Proofs.Setup.Composition

/-!
# Answers of the standard error handler

Where failures are left to the standard error handler, the reply to a request depends only on how the
chain ended and on the context it left (`Service.reply_of_standard`).  A response that is not committed
gets the status and the message of the verdict and keeps its headers but for the content type.
-/

namespace RequestDispatch

variable {nested : Nested} {next : Stage}

/-- The JSON text that tells the client of a failure. -/
def ErrorHandler.body (message : String) : Bytes :=
  Utf8.encode (Json.object [("error", .str message)]).chars

theorem Context.send_response {c : Context} (uncommitted : c.response.committed = false)
    (status : Status) (type : HeaderValue) (bytes : Bytes) :
    (c.send status type bytes).response =
      ⟨status, c.response.headers.insert .contentType type, c.response.body ++ bytes, true⟩ := by
  simp only [send, Response.setHeader, Response.commitStatus, Response.write, uncommitted,
    Bool.false_eq_true, if_false, if_true]

namespace ErrorHandler

/-- The context that the standard error handler leaves. -/
def answered (f : Failure) (c : Context) : Context :=
  if c.response.committed then c
  else c.send (verdict f c.debug).1 Context.jsonType (body (verdict f c.debug).2)

/-- The standard error handler reports the failure, answers it and always succeeds. -/
theorem standard_eq (f : Failure) (c : Context) :
    standard f c = .log (report f (verdict f c.debug).1 c) (.ok (answered f c)) := by
  cases committed : c.response.committed with
  | true => simp only [standard, answered, committed, if_true]
  | false =>
    simp only [standard, answered, committed, Bool.false_eq_true, if_false, Program.sent,
      Context.sendJson, Response.conflict, Program.emits, List.foldr_nil, body]

theorem standard_run (nested : Nested) (next : Stage) (f : Failure) (c : Context) (e : Engine) :
    (standard f c).run nested next e =
      (.ok, answered f c, e.log (report f (verdict f c.debug).1 c)) := by
  rw [standard_eq]
  rfl

theorem verdict_status (f : Failure) (debug : Bool) : (verdict f debug).1 = f.status := by
  rw [verdict, Failure.status]
  cases f.http? <;> rfl

/-- The client sees the status that the context predicts for the failure. -/
theorem answered_status (f : Failure) (c : Context) :
    (answered f c).response.status = c.finalStatus (.error f) := by
  cases committed : c.response.committed with
  | true => simp only [answered, Context.finalStatus, committed, if_true]
  | false =>
    simp only [answered, Context.finalStatus, committed, Bool.false_eq_true, if_false]
    rw [Context.send_response committed, verdict_status]

/-- The answer to a failure before anything was committed. -/
theorem answered_take {f : Failure} {c : Context} (sound : c.response.Sound)
    (uncommitted : c.response.committed = false) :
    (answered f c).response.take.1 =
      ⟨(verdict f c.debug).1, c.response.headers.insert .contentType Context.jsonType,
        body (verdict f c.debug).2⟩ := by
  obtain ⟨status, empty⟩ := sound uncommitted
  simp only [answered, uncommitted, Bool.false_eq_true, if_false]
  rw [Context.send_response uncommitted, empty, List.nil_append, Response.take]

end ErrorHandler

/-- The reply to a chain that ended like this, where the standard error handler answers failures. -/
def standardReply : Outcome → Context → Reply
  | .ok, c => .answer c.response.take.1
  | .error f, c => .answer (ErrorHandler.answered f c).response.take.1
  | .panic p, _ => .panicked p

/-- Unless a panic passes, the client gets the status that the context predicts. -/
theorem standardReply_status (result : HandlerResult) (c : Context) :
    ∃ answer, standardReply result.toOutcome c = .answer answer ∧
      answer.status = c.finalStatus result := by
  cases result with
  | ok => exact ⟨_, rfl, rfl⟩
  | error f => exact ⟨_, rfl, ErrorHandler.answered_status f c⟩

namespace Service

theorem respond_of_standard {s : Service} (standard : s.errorHandler = .standard) (nested : Nested)
    (chain : Chain) (c : Context) (e : Engine) :
    let ended := s.respond nested chain c e
    let run := chain.run nested c e
    replyOf ended.1 ended.2.1 = standardReply run.1 run.2.1 := by
  dsimp only
  rw [respond]
  rcases chain.run nested c e with ⟨outcome, c', e'⟩
  cases outcome with
  | ok => rfl
  | error f =>
    dsimp only
    rw [standard, ErrorHandler.standard_run]
    rfl
  | panic p => rfl

/-- The reply to a request that the hook let in. -/
theorem reply_of_standard {s : Service} (standard : s.errorHandler = .standard) (nested : Nested)
    {request : Request} {e : Engine} {chain : Chain} {c : Context}
    (bound : s.binding request (e.ids e.issued) = (chain, c)) :
    let run := chain.run nested c (e.beginning (dispatchEvent c))
    (s.handle nested request e).1 = standardReply run.1 run.2.1 := by
  intro run
  have reply := s.respond_of_standard standard nested chain c (e.beginning (dispatchEvent c))
  rw [handle_eq, bound]
  dsimp only at reply ⊢
  rw [← reply]
  generalize s.respond nested chain c _ = ended
  obtain ⟨outcome, c, after⟩ := ended
  cases outcome <;> rfl

end Service

theorem Handling.reply_of_standard {h : Handling} (standard : h.service.errorHandler = .standard) :
    h.reply = standardReply h.chainRun.1 h.chainRun.2.1 := by
  unfold reply run chainRun
  exact h.service.respond_of_standard standard h.nested h.bound.1 h.bound.2 h.opening

namespace Dispatcher

/-- The dispatcher with further global middleware around that it has. -/
def inside (outer : List Middleware) (d : Dispatcher) : Dispatcher :=
  { d with middleware := outer ++ d.middleware }

/-- Further global middleware wraps every chain and changes nothing else. -/
theorem find_inside (outer : List Middleware) (d : Dispatcher) (c : Context) :
    (d.inside outer).build.find c = ((d.build.find c).1.inside outer, (d.build.find c).2) := by
  unfold Service.find build inside
  dsimp only
  rw [Routing.Router.lookup_map, Routing.Router.lookup_map]
  rcases d.router.lookup c.method c.path c.captures with ⟨found, captures⟩
  cases found with
  | found endpoint =>
    simp only [Routing.Lookup.map, compose, layers, Chain.inside, List.append_assoc]
    rfl
  | _ => rfl

theorem binding_inside (outer : List Middleware) (d : Dispatcher) (request : Request) (id : Ulid) :
    (d.inside outer).build.binding request id =
      ((d.build.binding request id).1.inside outer, (d.build.binding request id).2) :=
  d.find_inside outer _

end Dispatcher

/-- A request to a dispatcher with further middleware is bound to the same handler on the same context. -/
theorem Handling.bound_inside {h : Handling} {d : Dispatcher} {outer : List Middleware}
    (service : h.service = (d.inside outer).build) :
    h.bound = ((d.build.binding h.request h.id).1.inside outer, (d.build.binding h.request h.id).2) := by
  unfold bound
  rw [service, Dispatcher.binding_inside]

end RequestDispatch
