import RequestDispatch.Serving.Answering

/-!
# Scripted actions

Handlers and middleware can be written as lists of actions instead of functions.  An action fills the
response, fails, panics, stores or notes something, or calls a live service; the first failure ends the
list it stands in.  A call of a live service that does not exist is passed over.
-/

namespace RequestDispatch.Script

/-- Actions on the response alone. -/
inductive ResponseAction where
  | commitStatus (status : Status)
  | write (bytes : Bytes)
  | header (name value : String)
  | append (name value : String)
  | take
  | reset
  | noteResponse
  | note (text : String)
  deriving DecidableEq, Repr

namespace ResponseAction

/-- Sets a header field through `put`, after checking first the name and then the value. -/
def putHeader (put : HeaderName → HeaderValue → Response) (name value : String) :
    Except Failure Response :=
  match HeaderName.ofString? name with
  | none => .error (.of .headerName)
  | some name =>
    match HeaderValue.ofString? value with
    | none => .error (.of .headerValue)
    | some value => .ok (put name value)

/-- The response after an action, with the reports it caused; or its failure, which leaves the
response as it was. -/
def perform (r : Response) : ResponseAction → Except Failure (Response × List Effect)
  | .commitStatus status => .ok (r.commitStatus status, r.conflict status)
  | .write bytes => .ok (r.write bytes, [])
  | .header name value => (putHeader r.setHeader name value).map (·, [])
  | .append name value => (putHeader r.addHeader name value).map (·, [])
  | .take => .ok (r.take.2, [.observe (.taken r.take.1)])
  | .reset => .ok (r.reset, [])
  | .noteResponse => .ok (r, [.observe (.response r)])
  | .note text => .ok (r, [.observe (.text text)])

end ResponseAction

/-- Actions of a plain request and response function. -/
inductive ExchangeAction where
  | respond (action : ResponseAction)
  | noteRequest
  deriving DecidableEq, Repr

namespace ExchangeAction

/-- Runs actions in order; failures are passed over. -/
def run (request : Request) : List ExchangeAction → Response → Exchange
  | [], r => ⟨r, [], none⟩
  | .noteRequest :: rest, r =>
    let x := run request rest r
    { x with effects := .observe (.request request.method request.target.path) :: x.effects }
  | .respond action :: rest, r =>
    match action.perform r with
    | .error _ => run request rest r
    | .ok (r, effects) =>
      let x := run request rest r
      { x with effects := effects ++ x.effects }

end ExchangeAction

inductive Action where
  | text (status : Status) (body : String)
  | json (status : Status) (value : Json)
  | noContent (status : Status)
  | redirect (status : Status) (location : String)
  | fail (failure : Failure)
  | panic (message : String)
  | set (value : Extension)
  | unset
  | param (name : String)
  | position (index : Nat)
  | describe
  | noteRequestId
  | setRequestId (id : String)
  | setBody (bytes : Bytes)
  | setMethod (name : String)
  | serve (live : String) (request : Except RequestError Request)
  | update (live : String) (change : List Registration)
  | respond (action : ResponseAction)

namespace Action

/-- Runs one action, then goes on with its result. -/
def perform (c : Context) (resume : HandlerResult → Context → Program) : Action → Program
  | .text status body => sent (c.sendText status body)
  | .json status value => sent (c.sendJson status value)
  | .noContent status => sent (c.sendStatus status)
  | .redirect status location =>
    match c.redirect status location with
    | .ok result => sent result
    | .error failure => resume (.error failure) c
  | .fail failure => resume (.error failure) c
  | .panic message => .done (.panic (.text message)) c
  | .set value =>
    let (previous, extensions) := c.extensions.set value
    .observe (.replaced previous) (resume .ok { c with extensions := extensions })
  | .unset =>
    .observe (.removed c.extensions.number c.extensions.text)
      (resume .ok { c with extensions := .empty })
  | .param name => .observe (.param (c.param name)) (resume .ok c)
  | .position index => .observe (.position (c.paramAt index)) (resume .ok c)
  | .describe => .observe (.context c) (resume .ok c)
  | .noteRequestId => .observe (.requestId c.requestId) (resume .ok c)
  | .setRequestId id =>
    match Ulid.parse id with
    | .ok id => resume .ok { c with requestId := id }
    | .error error => resume (.error (.of (.requestId error))) c
  | .setBody bytes => resume .ok { c with request := { c.request with body := bytes } }
  | .setMethod name =>
    match Method.ofString? name with
    | some method => resume .ok { c with request := { c.request with method := method } }
    | none => resume (.error (.of .method)) c
  | .serve live request => .serve live request c fun reply =>
      match reply with
      | .unknown => resume .ok c
      | reply => .observe (.nested reply) (resume .ok c)
  | .update live change => .update live change fun reply =>
      match reply with
      | .unknown => resume .ok c
      | reply => .observe (.updated reply) (resume .ok c)
  | .respond action =>
    match action.perform c.response with
    | .ok (response, effects) => .emits effects (resume .ok { c with response := response })
    | .error failure => resume (.error failure) c
where
  sent (result : Context × List Effect) : Program :=
    .emits result.2 (resume .ok result.1)

/-- Runs actions in order up to the first failure, then goes on with the result. -/
def runAll : List Action → Context → (HandlerResult → Context → Program) → Program
  | [], c, resume => resume .ok c
  | action :: rest, c, resume =>
    action.perform c (fun result c =>
      match result with
      | .ok => runAll rest c resume
      | .error failure => resume (.error failure) c)

/-- The list as the whole program of a handler. -/
def program (actions : List Action) (c : Context) : Program :=
  runAll actions c fun result c => .done result.toOutcome c

end Action

end RequestDispatch.Script
