import RequestDispatch.Serving.Engine

/-!
# Registrations as data

Carrying out a list of registrations on a dispatcher, step by step.  Every step has an answer; a change
of a live service stops at the first answer that is a failure.
-/

namespace RequestDispatch

/-- What a registration comes back with. -/
inductive SetupAnswer where
  | done
  | debug (on : Bool)
  /-- The path of a group and the answers inside it. -/
  | group (path : String) (answers : List SetupAnswer)
  | failed (error : SetupError)
  deriving Repr

namespace SetupAnswer

def error? : SetupAnswer → Option SetupError
  | .failed error => some error
  | _ => none

/-- The failure that comes last. -/
def lastError? (answers : List SetupAnswer) : Option SetupError :=
  (answers.filterMap error?).getLast?

end SetupAnswer

namespace Registration

/-- A setup step whose failure is its answer. -/
def answer (step : Setup SetupAnswer) : Setup SetupAnswer :=
  tryCatch step fun error => pure (.failed error)

mutual

/-- Carries out one registration at a site.  A failure leaves what was done before it in place. -/
def perform (site : Site) : Registration → Setup SetupAnswer
  | .route methods path handler => answer do
    Setup.route site methods path handler
    return .done
  | .use middleware => do
    Setup.use site middleware
    return .done
  | .group path strict body => do
    let inner ← Setup.openGroup site path
    let answers ← performAll inner body
    match strict, SetupAnswer.lastError? answers with
    | true, some error => return .failed error
    | _, _ => return .group inner.path answers
  | .debug on => do
    Setup.change fun d => { d with config := { d.config with debug := on } }
    return .debug on
  | .notFound handler => do
    Setup.change fun d => { d with notFound := handler }
    return .done
  | .methodNotAllowed handler => do
    Setup.change fun d => { d with methodNotAllowed := handler }
    return .done
  | .errorHandler run => do
    Setup.change fun d => { d with errorHandler := run }
    return .done
  | .hook run => do
    Setup.change fun d => { d with hook := some run }
    return .done
  | .refuse reason => return .failed (.refused reason)
termination_by structural registration => registration

/-- Carries out all registrations, those after a failure too. -/
def performAll (site : Site) : List Registration → Setup (List SetupAnswer)
  | [] => return []
  | r :: rest => do
    let answer ← perform site r
    let answers ← performAll site rest
    return answer :: answers
termination_by structural registrations => registrations

end

/-- Carries out registrations outside groups up to the first that fails. -/
def change : List Registration → Setup Unit
  | [] => return
  | r :: rest => do
    match (← perform .outside r).error? with
    | some error => throw error
    | none => change rest

end Registration

namespace Nested

/-- Changes a live service by a list of registrations. -/
def updateLive (name : String) (change : List Registration) (e : Engine) : UpdateReply × Engine :=
  e.update name (Registration.change change)

/-- Serves nested requests on the current build of a live service, at most `depth` deep. -/
def upTo : Nat → Nested
  | 0 => ⟨fun _ _ e => (.tooDeep, e), updateLive⟩
  | depth + 1 =>
    { serve := fun name request e =>
        match e.live? name, request with
        | none, _ => (.unknown, e)
        | some _, .error error => (.unreadable error, e)
        | some live, .ok request => live.current.serve (upTo depth) request e
      update := updateLive }

end Nested

end RequestDispatch
