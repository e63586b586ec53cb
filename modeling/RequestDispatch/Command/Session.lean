import RequestDispatch.Command.Run
import RequestDispatch.Logging.Filter

/-!
# Sessions

A session of the program installs its log once, reads its arguments, runs the command and ends with an
exit code.
-/

namespace RequestDispatch

/-- An installed log. -/
structure Log where
  format : LogStyle
  filter : Filter
  deriving DecidableEq, Repr

namespace Log

/-- Installs a log where none is installed yet.  The directives that could not be read come back in
both cases.  There is no result where the program aborts over a torn list of directives. -/
def install? (installed : Option Log) (config : LogSettings) (env : Environment) :
    Option (Except LoadError Log × List String) :=
  (Filter.ofSettings? config (env "RUST_LOG")).map fun (filter, rejected) =>
    match installed with
    | some _ => (.error [.text "Failed to initialize logging"], rejected)
    | none => (.ok ⟨config.format, filter⟩, rejected)

/-- The records that the log writes. -/
def written (log : Log) (records : List LogRecord) : List LogRecord := log.filter.keep records

end Log

/-- How a session ends. -/
inductive SessionEnd where
  | shown (display : Display)
  | failed (error : LoadError)
  | refused (error : UsageError)

namespace SessionEnd

def exitCode : SessionEnd → Nat
  | .shown _ => 0
  | .failed _ => 1
  | .refused error => error.exitCode

/-- The text on standard output. -/
def output : SessionEnd → String
  | .shown display => display.output
  | _ => ""

end SessionEnd

structure Session where
  outcome : SessionEnd
  /-- The records that the log wrote. -/
  records : List LogRecord

namespace Session

/-- All variables that a session reads. -/
def variableNames : List String :=
  ["RADIX_DEBUG", "RADIX_POOL_MAX_IDLE", "RADIX_POOL_PREWARM", "RADIX_STACK_SIZE", "RADIX_ROUTES",
   "RADIX_LOG_LEVEL", "RADIX_LOG_FORMAT", "RADIX_LOG_ASYNC", "RADIX_LOG_FILTER", "RUST_LOG"]

/-- The exit code of a program that aborts. -/
def abortCode : Nat := 101

/-- Reads the arguments and runs the command under an installed log. -/
def run (log : Log) (arguments : List String) (files : Files) (env : Environment)
    (ids : Nat → Ulid) : Session :=
  match Invocation.ofArguments env arguments with
  | .error error => ⟨.refused error, []⟩
  | .ok invocation =>
    let r := invocation.run files env ids
    ⟨match r.result with
      | .ok display => .shown display
      | .error error => .failed error,
      log.written r.records⟩

end Session

end RequestDispatch
