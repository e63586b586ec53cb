import RequestDispatch.Command.Session

/-!
# The program

Reads the environment and the table, runs the session and writes what it shows.  Everything else is
decided by the modules below.
-/

namespace RequestDispatch

/-- The file of a table, or why it cannot be read. -/
def readTable (path : String) : IO (Except FileError String) :=
  try return .ok (← IO.FS.readFile path)
  catch
    | .noFileOrDirectory .. => return .error .missing
    | _ => return .error .unreadable

/-- The variables that are set. -/
def readEnvironment : IO Environment := do
  let found ← Session.variableNames.filterMapM fun name => do
    return (← IO.getEnv name).map fun value => (name, value)
  return fun name => found.lookup name

/-- Identifiers that follow a random one. -/
def drawIds : IO (Nat → Ulid) := do
  let half := 0x10000000000000000
  let high ← IO.rand 0 (half - 1)
  let low ← IO.rand 0 (half - 1)
  return fun n => .ofNat (high * half + low + n)

/-- Runs the program under an installed log. -/
def runUnder (log : Log) (env : Environment) (arguments : List String) : IO UInt32 := do
  let (path, table) ← match Invocation.ofArguments env arguments with
    | .ok invocation => do pure (invocation.config, ← readTable invocation.config)
    | .error _ => pure ("", .error .missing)
  let files : Files := fun name => if name = path then table else .error .missing
  let session := Session.run log arguments files env (← drawIds)
  for record in session.records do
    IO.eprintln record.toJson.render
  IO.print session.outcome.output
  match session.outcome with
  | .shown _ => pure ()
  | .failed error => IO.eprintln ("Error: " ++ ": ".intercalate (error.map LoadCause.message))
  | .refused error => IO.eprintln error.message
  return UInt32.ofNat session.outcome.exitCode

/-- Runs the program on its arguments. -/
def runMain (arguments : List String) : IO UInt32 := do
  let env ← readEnvironment
  match Log.install? none (.ofEnvironment env) env with
  | none => return UInt32.ofNat Session.abortCode
  | some (log, rejected) =>
    for directive in rejected do
      IO.eprintln ("Warning: invalid log filter directive '" ++ directive ++ "'")
    match log with
    | .error error =>
      IO.eprintln ("Error: " ++ ": ".intercalate (error.map LoadCause.message))
      return 1
    | .ok log => runUnder log env arguments

end RequestDispatch

def main (arguments : List String) : IO UInt32 := RequestDispatch.runMain arguments
