import RequestDispatch.Failure
import RequestDispatch.Serving.Context

/-!
# Replies and observations

What serving a request or changing a live service comes back with, and what handlers and middleware
note while they run.
-/

namespace RequestDispatch

/-- What comes of a request. -/
inductive Reply where
  | answer (answer : Answer)
  /-- A panic that nothing caught. -/
  | panicked (payload : Payload)
  /-- No service has the name asked for. -/
  | unknown
  /-- The request cannot be read. -/
  | unreadable (error : RequestError)
  /-- Requests are nested too deeply. -/
  | tooDeep
  deriving DecidableEq, Repr

/-- Why a change of a setup stops. -/
inductive SetupError where
  | route (error : RouteError)
  /-- The change itself gives up, for the reason it names. -/
  | refused (reason : String)
  deriving DecidableEq, Repr

def SetupError.message : SetupError → String
  | .route error => error.message
  | .refused reason => reason

/-- What comes of changing a live service. -/
inductive UpdateReply where
  | applied (routes version : Nat)
  | failed (error : SetupError) (version : Nat)
  | unknown
  deriving DecidableEq, Repr

/-- One note of a handler, a middleware, a hook or an error handler. -/
inductive Observation where
  | text (text : String)
  /-- The value that a new one replaced. -/
  | replaced (previous : Option Extension)
  | removed (number : Option UInt32) (text : Option String)
  | param (value : Option String)
  | position (value : Option String)
  | context (context : Context)
  | requestId (id : Ulid)
  | nested (reply : Reply)
  | updated (reply : UpdateReply)
  | taken (answer : Answer)
  | response (response : Response)
  | request (method : Method) (path : String)
  | hook (method : Method) (path : String)
  | caught (failure : Failure)
  | handled (failure : Failure)
  | handlerFailed (failure : Failure)
  deriving DecidableEq, Repr

end RequestDispatch
