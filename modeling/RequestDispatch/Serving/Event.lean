import RequestDispatch.Http.Method
import RequestDispatch.Http.Status
import RequestDispatch.Json

/-!
# Log events

Everything the library reports while it is set up and while it serves, one constructor for each
report.  An event has a level, the component that reports it, a message and named fields; a report
made while request spans are open carries them.
-/

namespace RequestDispatch

inductive Level where
  | trace
  | debug
  | info
  | warn
  | error
  deriving DecidableEq, Repr

namespace Level

def name : Level → String
  | .trace => "TRACE"
  | .debug => "DEBUG"
  | .info => "INFO"
  | .warn => "WARN"
  | .error => "ERROR"

/-- Greater means more urgent. -/
def severity : Level → Nat
  | .trace => 0
  | .debug => 1
  | .info => 2
  | .warn => 3
  | .error => 4

end Level

/-- The parts of the library that report. -/
inductive Component where
  | router
  | dispatcher
  | group
  | service
  | pool
  | response
  | requestLogger
  | recover
  | table
  | config
  | commands
  | live
  deriving DecidableEq, Repr

/-- The name by which log filters address a component. -/
def Component.target : Component → String
  | .router => "radix_dispatch::router::core"
  | .dispatcher => "radix_dispatch::dispatcher::core"
  | .group => "radix_dispatch::dispatcher::group"
  | .service => "radix_dispatch::dispatcher::service"
  | .pool => "radix_dispatch::context::pool"
  | .response => "radix_dispatch::context::response"
  | .requestLogger => "radix_dispatch::middleware::tracing"
  | .recover => "radix_dispatch::middleware::recover"
  | .table => "radix_dispatch::table"
  | .config => "radix_dispatch::config"
  | .commands => "radix_dispatch::cli::commands"
  | .live => "radix_dispatch::live"

inductive Event where
  | routeRegistered (method : Method) (path handler : String) (params : Nat)
  | tableComposed (routes middleware maxParams : Nat)
  | middlewareAdded (name : String) (position : Nat)
  | groupCreated (path : String) (inherited : Nat)
  | groupMiddlewareAdded (path name : String)
  | dispatching (method : Method) (path route : String) (params : Nat)
  | releasedWhileUnwinding
  | capacityIncreased (previous capacity generation dropped : Nat)
  | statusIgnored (current attempted : Status)
  | requestCompleted (status : Status) (params : Nat)
  | handlerPanicked (method : Method) (path panic : String)
  | requestFailed (method : Method) (path : String) (status : Status) (committed : Bool)
      (error : String)
  | requestRejected (method : Method) (path : String) (status : Status) (committed : Bool)
      (error : String)
  | tableLoaded (routes middleware groups : Nat)
  | settingIgnored (variableName value : String)
  | loadStarted (requests concurrency paths stackSize : Nat)
  | updateRejected (error : String)
  | updateApplied (version routes : Nat)
  deriving DecidableEq, Repr

namespace Event

def level : Event → Level
  | .routeRegistered .. => .debug
  | .tableComposed .. => .info
  | .middlewareAdded .. => .info
  | .groupCreated .. => .debug
  | .groupMiddlewareAdded .. => .debug
  | .dispatching .. => .debug
  | .releasedWhileUnwinding => .debug
  | .capacityIncreased .. => .info
  | .statusIgnored .. => .warn
  | .requestCompleted .. => .info
  | .handlerPanicked .. => .error
  | .requestFailed .. => .error
  | .requestRejected .. => .debug
  | .tableLoaded .. => .info
  | .settingIgnored .. => .warn
  | .loadStarted .. => .info
  | .updateRejected .. => .warn
  | .updateApplied .. => .info

def component : Event → Component
  | .routeRegistered .. => .router
  | .tableComposed .. => .router
  | .middlewareAdded .. => .dispatcher
  | .groupCreated .. => .group
  | .groupMiddlewareAdded .. => .group
  | .dispatching .. => .service
  | .releasedWhileUnwinding => .pool
  | .capacityIncreased .. => .pool
  | .statusIgnored .. => .response
  | .requestCompleted .. => .requestLogger
  | .handlerPanicked .. => .recover
  | .requestFailed .. => .dispatcher
  | .requestRejected .. => .dispatcher
  | .tableLoaded .. => .table
  | .settingIgnored .. => .config
  | .loadStarted .. => .commands
  | .updateRejected .. => .live
  | .updateApplied .. => .live

def message : Event → String
  | .routeRegistered .. => "Route registered"
  | .tableComposed .. => "Routing table composed"
  | .middlewareAdded .. => "Middleware added"
  | .groupCreated .. => "Route group created"
  | .groupMiddlewareAdded .. => "Group middleware added"
  | .dispatching .. => "Dispatching request"
  | .releasedWhileUnwinding => "Releasing context while unwinding"
  | .capacityIncreased .. => "Context pool parameter capacity increased"
  | .statusIgnored .. => "Response already committed, ignoring status change"
  | .requestCompleted .. => "Request completed"
  | .handlerPanicked .. => "Handler panicked"
  | .requestFailed .. => "Request failed"
  | .requestRejected .. => "Request rejected"
  | .tableLoaded .. => "Route table loaded"
  | .settingIgnored name _ => "Ignoring invalid " ++ name
  | .loadStarted .. => "Starting load run"
  | .updateRejected .. => "Live update rejected, keeping current routes"
  | .updateApplied .. => "Live routes updated"

/-- The named fields as an object. -/
def fields : Event → Json
  | .routeRegistered method path handler params =>
    .object [("method", .str method.name), ("path", .str path), ("handler", .str handler),
      ("params", .nat params)]
  | .tableComposed routes middleware maxParams =>
    .object [("routes", .nat routes), ("middleware", .nat middleware),
      ("max_params", .nat maxParams)]
  | .middlewareAdded name position =>
    .object [("middleware", .str name), ("position", .nat position)]
  | .groupCreated path inherited =>
    .object [("prefix", .str path), ("inherited", .nat inherited)]
  | .groupMiddlewareAdded path name =>
    .object [("prefix", .str path), ("middleware", .str name)]
  | .dispatching method path route params =>
    .object [("method", .str method.name), ("path", .str path), ("route", .str route),
      ("params", .nat params)]
  | .releasedWhileUnwinding => .object []
  | .capacityIncreased previous capacity generation dropped =>
    .object [("previous", .nat previous), ("capacity", .nat capacity),
      ("generation", .nat generation), ("dropped", .nat dropped)]
  | .statusIgnored current attempted =>
    .object [("current", .nat current.code), ("attempted", .nat attempted.code)]
  | .requestCompleted status params =>
    .object [("status", .nat status.code), ("params", .nat params)]
  | .handlerPanicked method path panic =>
    .object [("method", .str method.name), ("path", .str path), ("panic", .str panic)]
  | .requestFailed method path status committed error
  | .requestRejected method path status committed error =>
    .object [("method", .str method.name), ("path", .str path), ("status", .nat status.code),
      ("committed", .bool committed), ("error", .str error)]
  | .tableLoaded routes middleware groups =>
    .object [("routes", .nat routes), ("middleware", .nat middleware), ("groups", .nat groups)]
  | .settingIgnored _ value => .object [("value", .str value)]
  | .loadStarted requests concurrency paths stackSize =>
    .object [("requests", .nat requests), ("concurrency", .nat concurrency),
      ("paths", .nat paths), ("stack_size", .nat stackSize)]
  | .updateRejected error => .object [("error", .str error)]
  | .updateApplied version routes =>
    .object [("version", .nat version), ("routes", .nat routes)]

/-- The names of all fields.  The message is one, and so is the measured latency of a request, whose value
is not kept. -/
def fieldNames (e : Event) : List String :=
  let measured := match e with
    | .requestCompleted .. => ["latency_us"]
    | _ => []
  "message" :: e.fields.names ++ measured

end Event

/-- A span around one request.  The route is known when one matched, the status when the request has
been answered. -/
structure Span where
  method : Method
  path : String
  requestId : String
  route : Option String
  status : Option Status
  deriving DecidableEq, Repr

namespace Span

def level : Level := .info

def component : Component := .requestLogger

def name : String := "request"

/-- The names of all fields, whether they have values yet or not. -/
def fieldNames : List String := ["method", "path", "request_id", "route", "status", "latency_us"]

/-- The text of a field that has a value as soon as the span opens. -/
def text? (span : Span) (name : String) : Option String :=
  [("method", span.method.name), ("path", span.path), ("request_id", span.requestId)].lookup name

def fields (span : Span) : Json :=
  .object ([("method", .str span.method.name), ("path", .str span.path),
    ("request_id", .str span.requestId)] ++
    (span.route.map fun r => ("route", Json.str r)).toList ++
    (span.status.map fun s => ("status", Json.nat s.code)).toList)

end Span

/-- An event as it was logged, with the open spans, innermost first. -/
structure LogRecord where
  event : Event
  spans : List Span
  deriving DecidableEq, Repr

/-- One line of a log.  It shows the innermost span. -/
def LogRecord.toJson (r : LogRecord) : Json :=
  .object ([("level", .str r.event.level.name), ("message", .str r.event.message),
    ("fields", r.event.fields)] ++ (r.spans.head?.map fun span => ("span", span.fields)).toList)

end RequestDispatch
