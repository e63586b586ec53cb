import RequestDispatch.Http.Status
import RequestDispatch.Ulid

/-!
# Failures of handlers and middleware

A failure is a root cause under any number of context layers.  Its message is the outermost layer,
its full text names all layers from the outside in, and the first layer from the outside that is an
`HttpError` decides the status with which the failure is answered.
-/

namespace RequestDispatch

/-- A failure that carries the status of its answer. -/
structure HttpError where
  code : Status
  message : String
  deriving DecidableEq, Repr

namespace HttpError

/-- The message is the reason phrase of the code. -/
def ofStatus (code : Status) : HttpError := ⟨code, code.reason⟩

/-- Another code under the same message. -/
def withCode (e : HttpError) (code : Status) : HttpError := { e with code := code }

end HttpError

inductive Cause where
  | text (message : String)
  | http (error : HttpError)
  | redirectCode (status : Status)
  | method
  | headerName
  | headerValue
  | requestId (error : Ulid.ReadError)
  deriving DecidableEq, Repr

namespace Cause

def message : Cause → String
  | .text message => message
  | .http error => error.message
  | .redirectCode status => s!"invalid redirect status code {status.code}"
  | .method => "invalid HTTP method"
  | .headerName => "invalid HTTP header name"
  | .headerValue => "failed to parse header value"
  | .requestId error => error.message

def http? : Cause → Option HttpError
  | .http error => some error
  | _ => none

end Cause

/-- A root cause and the layers around it, outermost first. -/
structure Failure where
  layers : List Cause
  root : Cause
  deriving DecidableEq, Repr

namespace Failure

def of (root : Cause) : Failure := ⟨[], root⟩

/-- The same failure under one more layer. -/
def context (f : Failure) (layer : Cause) : Failure := { f with layers := layer :: f.layers }

/-- All causes, outermost first. -/
def causes (f : Failure) : List Cause := f.layers ++ [f.root]

def message (f : Failure) : String := (f.layers.headD f.root).message

def fullText (f : Failure) : String := ": ".intercalate (f.causes.map Cause.message)

def http? (f : Failure) : Option HttpError := f.causes.findSome? Cause.http?

/-- The status with which the failure is answered. -/
def status (f : Failure) : Status := (f.http?.map HttpError.code).getD .internalServerError

end Failure

/-- What a panic carries: a message, or a value that is no text. -/
inductive Payload where
  | text (message : String)
  | other
  deriving DecidableEq, Repr

def Payload.message : Payload → String
  | .text message => message
  | .other => "unknown panic payload"

end RequestDispatch
