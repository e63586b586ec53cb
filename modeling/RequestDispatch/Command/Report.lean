import RequestDispatch.Setup.Registration
import RequestDispatch.Setup.Table

/-!
# Reports

What the commands show: the list or tree of routes, how a request would be routed, and what the service
answers to it.
-/

namespace RequestDispatch

open Routing (Captures)

/-- A text filled up with spaces to a number of characters. -/
def padRight (width : Nat) (s : String) : String :=
  s ++ String.ofList (List.replicate (width - s.length) ' ')

namespace Dispatcher

/-- One line per route, with the handlers in one column.  The column is as wide as the longest path in
bytes. -/
def routeLines (d : Dispatcher) : String :=
  let width := d.router.routes.foldl (fun w r => max w (Utf8.width r.path.toList)) 0
  String.join <| d.router.routes.map fun r =>
    padRight 7 r.method.name ++ " " ++ padRight width r.path ++ " -> " ++ r.handlerName ++ "\n"

/-- The routing decision for a method and a path. -/
def decisionReport (d : Dispatcher) (method : Method) (path : String) : Json :=
  let normalized := Routing.normalize path
  let (found, captures) := d.router.lookup method normalized .empty
  let common : List (String × Json) :=
    [("method", .str method.name), ("path", .str normalized), ("status", .nat found.status.code)]
  match found with
  | .found endpoint =>
    let params := (endpoint.route.paramNames.zip captures.ranges).filterMap fun (name, r) =>
      (Utf8.slice? r normalized.toList).map fun value =>
        Json.strings [name, String.ofList value]
    .object (common ++
      [("route", .str endpoint.route.template), ("handler", .str endpoint.route.handlerName),
       ("params", .arr params)])
  | other =>
    .object (common ++ [("allowed", .strings (sortNames (other.allowed.map Method.name)))])

end Dispatcher

/-- An answer as an object; of several values of one header the last is shown. -/
def Answer.report (answer : Answer) : Json :=
  .object
    [("status", .nat answer.status.code),
     ("headers", .object (answer.headers.map fun (name, value) => (name.text, .str value.text))),
     ("body", .str (Utf8.decodeLossy answer.body))]

namespace Service

/-- Serves a request without headers and body and shows the answer. -/
def answerReport (s : Service) (method : Method) (path : String) (e : Engine) :
    Except LoadError Json × Engine :=
  match Request.build method.name path [] [] with
  | .error _ => (.error [.text "invalid request", .invalidRequest], e)
  | .ok request =>
    match s.serve (.upTo 0) request e with
    | (.answer answer, e) => (.ok answer.report, e)
    | (_, e) => (.error [.text "the request was not answered"], e)

end Service

end RequestDispatch
