import RequestDispatch.Config.Load

/-!
# Settings of the log

Level, format, writer and extra filter directives of the log, read from variables.  A value that cannot
be read counts as missing.
-/

namespace RequestDispatch

inductive LogStyle where
  | json
  | pretty
  deriving DecidableEq, Repr

structure LogSettings where
  level : Level
  format : LogStyle
  /-- Whether a background writer takes the log. -/
  async : Bool
  /-- Further directives, separated by commas. -/
  filter : Option String
  deriving DecidableEq, Repr

namespace Level

def all : List Level := [.error, .warn, .info, .debug, .trace]

/-- The level with a name in any case, or with a number from 1, the most urgent, to 5. -/
def ofText? (text : String) : Option Level :=
  match Text.word? 10 text.toList with
  | some n => if n = 0 then none else all[n - 1]?
  | none => all.find? (·.name = Text.upper text)

end Level

namespace LogStyle

/-- Any text other than `pretty` stands for JSON. -/
def ofText (text : String) : LogStyle :=
  if Text.lower (Text.trim text) = "pretty" then .pretty else .json

def name : LogStyle → String
  | .json => "json"
  | .pretty => "pretty"

end LogStyle

namespace LogSettings

def standard : LogSettings := ⟨.info, .json, false, none⟩

/-- Settings for work on one's own machine. -/
def development : LogSettings := ⟨.debug, .pretty, false, none⟩

/-- The words `true` and `false`, and no others. -/
def readAsync? (text : String) : Option Bool :=
  if Text.trim text = "true" then some true
  else if Text.trim text = "false" then some false
  else none

def ofEnvironment (env : Environment) : LogSettings where
  level := ((env "RADIX_LOG_LEVEL").bind fun s => Level.ofText? (Text.trim s)).getD .info
  format := ((env "RADIX_LOG_FORMAT").map LogStyle.ofText).getD .json
  async := ((env "RADIX_LOG_ASYNC").bind readAsync?).getD false
  filter := (env "RADIX_LOG_FILTER").filter fun s => !(Text.trim s).isEmpty

end LogSettings

end RequestDispatch
