import RequestDispatch.Http.Header
import RequestDispatch.Http.Status
import RequestDispatch.Http.Target

/-!
# Requests and answers

Whole messages: a request as a transport hands it over, and the answer that goes back to it.
-/

namespace RequestDispatch

structure Request where
  method : Method
  target : Target
  headers : Headers
  body : Bytes
  deriving DecidableEq, Repr

/-- The request of a context that serves nobody. -/
def Request.blank : Request := ⟨.get, .root, [], []⟩

structure Answer where
  status : Status
  headers : Headers
  body : Bytes
  deriving DecidableEq, Repr

/-- The part of a request that cannot be read. -/
inductive RequestError where
  | method
  | target
  | header
  deriving DecidableEq, Repr

/-- The first faulty part decides: method, then target, then the header fields in order. -/
def Request.build (method target : String) (headers : List (String × String)) (body : Bytes) :
    Except RequestError Request :=
  match Method.ofString? method with
  | none => .error .method
  | some method =>
    match Target.parse? target with
    | none => .error .target
    | some target =>
      match headers.mapM (fun (name, value) =>
          (HeaderName.ofString? name).bind fun name =>
            (HeaderValue.ofString? value).map fun value => (name, value)) with
      | none => .error .header
      | some headers => .ok ⟨method, target, headers, body⟩

end RequestDispatch
