import RequestDispatch.Serving.Program

/-!
# Answering a request

The ways in which a handler fills the response, the fallbacks for paths without a route, and the error
handler that turns a failure into a response.
-/

namespace RequestDispatch

namespace Response

/-- The warning that setting a status causes: a committed response keeps its own. -/
def conflict (r : Response) (status : Status) : List Effect :=
  if r.committed then [.log (.statusIgnored r.status status)] else []

end Response

namespace Context

/-- Sends a plain text. -/
def sendText (c : Context) (status : Status) (body : String) : Context × List Effect :=
  (c.send status textType (Utf8.ofString body), c.response.conflict status)

/-- Sends a value as JSON. -/
def sendJson (c : Context) (status : Status) (value : Json) : Context × List Effect :=
  (c.send status jsonType (Utf8.encode value.chars), c.response.conflict status)

/-- Sends a status without a body. -/
def sendStatus (c : Context) (status : Status) : Context × List Effect :=
  ({ c with response := c.response.commitStatus status }, c.response.conflict status)

/-- Redirects to a location; only the codes from 300 to 308 are accepted. -/
def redirect (c : Context) (status : Status) (location : String) :
    Except Failure (Context × List Effect) :=
  if !status.isRedirect then .error (.of (.redirectCode status))
  else match HeaderValue.ofString? location with
    | none => .error (.of .headerValue)
    | some value =>
      let response := c.response.setHeader .location value
      .ok ({ c with response := response.commitStatus status }, response.conflict status)

/-- The status the client will see once the error handler has run: a committed response keeps its
own, otherwise a failure decides. -/
def finalStatus (c : Context) : HandlerResult → Status
  | .ok => c.response.status
  | .error failure => if c.response.committed then c.response.status else failure.status

end Context

namespace Program

/-- Reports what filling the response caused and succeeds. -/
def sent (result : Context × List Effect) : Program :=
  .emits result.2 (.ok result.1)

end Program

namespace Handler

/-- The default handler of paths that no route matches. -/
def notFound : Handler :=
  .context "not_found" fun c => .fail (.of (.http (.ofStatus .notFound))) c

/-- The value of the `Allow` header: the methods in ascending order. -/
def allowText (methods : List Method) : String :=
  ", ".intercalate (distinct (sortNames (methods.map Method.name)))

/-- The default handler of paths that only other methods match; it names them to the client. -/
def methodNotAllowed : Handler :=
  .context "method_not_allowed" fun c =>
    match HeaderValue.ofString? (allowText c.allowed) with
    | none => .fail (.of .headerValue) c
    | some value =>
      .fail (.of (.http (.ofStatus .methodNotAllowed)))
        { c with response := c.response.setHeader .allow value }

end Handler

namespace ErrorHandler

/-- Status and message for the client.  Without an `HttpError` the text of the failure is shown in
debug mode only. -/
def verdict (f : Failure) (debug : Bool) : Status × String :=
  match f.http? with
  | some e => (e.code, e.message)
  | none =>
    (.internalServerError,
      if debug then f.fullText else Status.internalServerError.reason)

/-- The report of a failed request. -/
def report (f : Failure) (status : Status) (c : Context) : Event :=
  if status.isServerError then
    .requestFailed c.method c.path status c.response.committed f.fullText
  else .requestRejected c.method c.path status c.response.committed f.message

/-- Answers a failure with a JSON object that holds the message; a committed response stays. -/
def standard : ErrorHandler := fun f c =>
  let (status, message) := verdict f c.debug
  .log (report f status c)
    (if c.response.committed then .ok c
    else .sent (c.sendJson status (.object [("error", .str message)])))

end ErrorHandler

end RequestDispatch
