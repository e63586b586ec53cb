import RequestDispatch.Serving.Answering
import RequestDispatch.Text.Blank

/-!
# Built-in middleware and handlers

Middleware that recovers from panics, adopts and echoes request identifiers, logs requests in a span
and counts them; handlers for tables of routes that need no code of their own.
-/

namespace RequestDispatch

namespace Middleware

/-- Turns a panic below into a failure with status 500.  The panic is logged, never shown. -/
def recover : Middleware :=
  .wrap "recover" fun c => .attempt c fun outcome c =>
    match outcome with
    | .ok => .ok c
    | .error f => .fail f c
    | .panic payload =>
      .log (.handlerPanicked c.method c.path payload.message)
        (.fail (.of (.http (.ofStatus .internalServerError))) c)

/-- The identifier that a request brings: the first value of its header, if that is a visible text
which denotes one. -/
def incomingId (r : Request) : Option Ulid :=
  (r.headers.get? .requestId).bind fun value =>
    value.visibleText?.bind fun text => (Ulid.parse (Text.trim text)).toOption

/-- Adopts the identifier that a request brings and echoes the identifier in the response. -/
def requestId : Middleware :=
  .wrap "request_id" fun c =>
    let id := (incomingId c.request).getD c.requestId
    match HeaderValue.ofString? id.text with
    | none => .fail (.of .headerValue) { c with requestId := id }
    | some value =>
      .next { c with requestId := id, response := c.response.setHeader .requestId value }
        fun result c => .done result.toOutcome c

/-- Runs the request in a span and reports its final status. -/
def requestLogger : Middleware :=
  .wrap "request_logger" fun c =>
    .emit (.openSpan ⟨c.method, c.path, c.requestId.text, c.route.map (·.template), none⟩)
      (.next c fun result c =>
        let status := c.finalStatus result
        .emit (.recordStatus status)
          (.log (.requestCompleted status c.captureCount) (.done result.toOutcome c)))

/-- Counts every request that returns in a set of counters. -/
def metrics (counters : Nat) : Middleware :=
  .wrap "metrics" fun c => .next c fun result c =>
    .emit (.count counters (c.finalStatus result) (result != .ok)) (.done result.toOutcome c)

end Middleware

namespace Handler

/-- Status 200 with a fixed object. -/
def statusOk : Handler :=
  .context "ok" fun c => .sent (c.sendJson .ok (.object [("status", .str "ok")]))

/-- Status 204 without a body. -/
def noContent : Handler :=
  .context "no_content" fun c => .sent (c.sendStatus .noContent)

/-- A description of the request for the client. -/
def description (c : Context) : Json :=
  .object
    [("handler", .optional (c.route.map (·.handlerName))),
     ("method", .str c.method.name),
     ("path", .str c.path),
     ("route", .optional (c.route.map (·.template))),
     ("params", .object (c.params.map fun (name, value) => (name, .str value))),
     ("query", .optional c.request.target.query),
     ("request_id", .str c.requestId.text),
     ("body", .str (Utf8.decodeLossy c.request.body))]

/-- Describes the request back to the client. -/
def echo : Handler :=
  .context "echo" fun c => .sent (c.sendJson .ok (description c))

end Handler

end RequestDispatch
