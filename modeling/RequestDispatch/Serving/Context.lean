import RequestDispatch.Routing.Router
import RequestDispatch.Serving.Response
import RequestDispatch.Ulid

/-!
# The context of a request

Everything that middleware and handlers see of one request.  Contexts are reused: `clear` forgets all
that belongs to a request, and `reset` binds a cleared context to a new one.
-/

namespace RequestDispatch

open Routing (Captures RouteDescription)

/-- Values that middleware leaves for later middleware and the handler, one of each kind. -/
structure Extensions where
  number : Option UInt32
  text : Option String
  deriving DecidableEq, Repr

/-- A value of one of the two kinds. -/
inductive Extension where
  | number (value : UInt32)
  | text (value : String)
  deriving DecidableEq, Repr

namespace Extensions

def empty : Extensions := ⟨none, none⟩

/-- Stores a value and returns the one of its kind that was there. -/
def set (e : Extensions) : Extension → Option Extension × Extensions
  | .number n => (e.number.map .number, { e with number := some n })
  | .text s => (e.text.map .text, { e with text := some s })

end Extensions

structure Context where
  request : Request
  response : Response
  /-- Method and normalized path by which the request is routed. -/
  method : Method
  path : String
  captures : Captures
  route : Option RouteDescription
  /-- Methods that the path offers instead of the requested one. -/
  allowed : List Method
  extensions : Extensions
  requestId : Ulid
  debug : Bool
  deriving DecidableEq, Repr

namespace Context

/-- The context that no request has used. -/
def fresh : Context where
  request := .blank
  response := .fresh
  method := .get
  path := ""
  captures := .empty
  route := none
  allowed := []
  extensions := .empty
  requestId := .nil
  debug := false

/-- Forgets everything that belongs to a request. -/
def clear (c : Context) : Context :=
  { c with
    request := .blank
    response := c.response.reset
    method := .get
    path := ""
    captures := c.captures.clear
    route := none
    allowed := []
    extensions := .empty
    requestId := .nil
    debug := false }

/-- Binds the context to a new request under the given identifier. -/
def reset (c : Context) (request : Request) (debug : Bool) (id : Ulid) : Context :=
  { c.clear with
    method := request.method
    path := Routing.normalize request.target.path
    request := request
    requestId := id
    debug := debug }

/-- The value of the parameter at a position of the template. -/
def paramAt (c : Context) (index : Nat) : Option String :=
  (c.captures.ranges[index]?).bind fun r => (Utf8.slice? r c.path.toList).map String.ofList

def paramNames (c : Context) : List String :=
  (c.route.map RouteDescription.paramNames).getD []

/-- The position of the last occurrence of a name. -/
def lastIndexOf? (name : String) (names : List String) : Option Nat :=
  (names.reverse.idxOf? name).map fun i => names.length - 1 - i

/-- The value of a named parameter; the last one counts where a template repeats a name. -/
def param (c : Context) (name : String) : Option String :=
  (lastIndexOf? name c.paramNames).bind c.paramAt

/-- Names and values of all parameters in template order. -/
def params (c : Context) : List (String × String) :=
  (c.paramNames.zip c.captures.ranges).filterMap fun (name, r) =>
    (Utf8.slice? r c.path.toList).map fun value => (name, String.ofList value)

def captureCount (c : Context) : Nat := c.captures.ranges.length

def jsonType : HeaderValue := ⟨"application/json; charset=utf-8"⟩

def textType : HeaderValue := ⟨"text/plain; charset=utf-8"⟩

/-- Sends a body of a content type with a status. -/
def send (c : Context) (status : Status) (type : HeaderValue) (body : Bytes) : Context :=
  { c with
    response := ((c.response.setHeader .contentType type).commitStatus status).write body }

end Context

end RequestDispatch
