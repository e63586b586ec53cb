import RequestDispatch.Http.Message

/-!
# The buffered response

A response is committed by its first status or its first write.  From then on the status is fixed and
later attempts to set it are ignored; headers may change until the response is taken.
-/

namespace RequestDispatch

structure Response where
  status : Status
  headers : Headers
  body : Bytes
  committed : Bool
  deriving DecidableEq, Repr

namespace Response

def fresh : Response := ⟨.ok, [], [], false⟩

/-- Number of body bytes written so far. -/
def size (r : Response) : Nat := r.body.length

/-- Sets the status and commits, unless the response is committed already. -/
def commitStatus (r : Response) (status : Status) : Response :=
  if r.committed then r else { r with status := status, committed := true }

/-- Appends to the body; a response that is not committed is committed with status 200 first. -/
def write (r : Response) (bytes : Bytes) : Response :=
  let r := if r.committed then r else r.commitStatus .ok
  { r with body := r.body ++ bytes }

def setHeader (r : Response) (name : HeaderName) (value : HeaderValue) : Response :=
  { r with headers := r.headers.insert name value }

def addHeader (r : Response) (name : HeaderName) (value : HeaderValue) : Response :=
  { r with headers := r.headers.append name value }

/-- The answer written so far; the response itself starts anew. -/
def take (r : Response) : Answer × Response :=
  (⟨r.status, r.headers, r.body⟩, fresh)

/-- Forgets everything written so far. -/
def reset (_ : Response) : Response := fresh

end Response

end RequestDispatch
