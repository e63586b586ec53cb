import RequestDispatch.Config.Files
import RequestDispatch.Config.Settings
import RequestDispatch.Yaml.Node
import RequestDispatch.Serving.Event
import RequestDispatch.Text.Blank

/-!
# Loading settings

Settings come from defaults, from a YAML text and from environment variables, each over the one before.
A variable whose value cannot be read is reported and ignored.
-/

namespace RequestDispatch

/-- One link of the chain of causes of a failed command or load. -/
inductive LoadCause where
  | text (message : String)
  | invalidYaml
  | file (error : FileError)
  | invalidRequest
  | invalidMethod
  deriving DecidableEq, Repr

def LoadCause.message : LoadCause → String
  | .text message => message
  | .invalidYaml => "the text is not the YAML that is expected here"
  | .file error => error.message
  | .invalidRequest => "the request cannot be built"
  | .invalidMethod => "not a method name"

/-- The causes of a failed command or load, outermost first. -/
abbrev LoadError := List LoadCause

/-- Values of environment variables. -/
abbrev Environment := String → Option String

namespace PoolSettings

def fieldNames : List String := ["max_idle", "prewarm"]

def decode (dialect : Dialect) (depth : Nat) (d : Document) : Decode PoolSettings := do
  let fields ← Decode.fields dialect fieldNames .ignoresUnknown depth d
  let maxIdle ← Decode.field fields "max_idle" Decode.word standard.maxIdle
  let prewarm ← Decode.field fields "prewarm" Decode.word standard.prewarm
  return ⟨maxIdle, prewarm⟩

def toJson (config : PoolSettings) : Json :=
  .object [("max_idle", .nat config.maxIdle), ("prewarm", .nat config.prewarm)]

end PoolSettings

/-- The truth value of a variable. -/
def readFlag? (value : String) : Option Bool :=
  let word := Text.lower (Text.trim value)
  if word ∈ ["1", "true", "yes", "on"] then some true
  else if word ∈ ["0", "false", "no", "off"] then some false
  else none

def readCount? (value : String) : Option Nat :=
  Text.word? 10 (Text.trimChars value.toList)

/-- A size in decimal, or in base sixteen after `0x`. -/
def readSize? (value : String) : Option Nat :=
  match Text.trimChars value.toList with
  | '0' :: 'x' :: digits => Text.word? 16 digits
  | '0' :: 'X' :: digits => Text.word? 16 digits
  | digits => Text.word? 10 digits

namespace DispatchSettings

def fieldNames : List String := ["debug", "pool", "stack_size"]

def decode (d : Document) : Decode DispatchSettings := do
  let depth := Decode.depthLimit
  let fields ← Decode.fields .yaml fieldNames .ignoresUnknown depth d
  let debug ← Decode.field fields "debug" Decode.bool standard.debug
  let pool ← Decode.field fields "pool" (PoolSettings.decode .yaml (depth - 1)) .standard
  let stackSize ← Decode.field fields "stack_size" Decode.word standard.stackSize
  return ⟨debug, pool, stackSize⟩

def ofYaml (text : String) : Except LoadError DispatchSettings :=
  match (Yaml.parse? text).bind (·.decode? decode) with
  | some config => .ok config
  | none => .error [.text "invalid dispatch configuration", .invalidYaml]

/-- One setting from a variable: read it, set it, or report that it is ignored. -/
def overrideBy {α : Type} (env : Environment) (name : String) (read : String → Option α)
    (set : α → DispatchSettings → DispatchSettings) (state : DispatchSettings × List Event) :
    DispatchSettings × List Event :=
  match env name with
  | none => state
  | some value =>
    match read value with
    | some a => (set a state.1, state.2)
    | none => (state.1, state.2 ++ [.settingIgnored name value])

/-- Applies all variables in a fixed order. -/
def override (env : Environment) (config : DispatchSettings) : DispatchSettings × List Event :=
  (config, [])
  |> overrideBy env "RADIX_DEBUG" readFlag? (fun v c => { c with debug := v })
  |> overrideBy env "RADIX_POOL_MAX_IDLE" readCount?
      (fun v c => { c with pool := { c.pool with maxIdle := v } })
  |> overrideBy env "RADIX_POOL_PREWARM" readCount?
      (fun v c => { c with pool := { c.pool with prewarm := v } })
  |> overrideBy env "RADIX_STACK_SIZE" readSize? (fun v c => { c with stackSize := v })

/-- Reads a YAML file and applies the variables. -/
def load (files : Files) (env : Environment) (path : String) :
    Except LoadError (DispatchSettings × List Event) :=
  match files path with
  | .error error => .error [.text ("failed to read " ++ path), .file error]
  | .ok text => (ofYaml text).map (override env)

def toJson (config : DispatchSettings) : Json :=
  .object [("debug", .bool config.debug), ("pool", config.pool.toJson),
    ("stack_size", .nat config.stackSize)]

end DispatchSettings

end RequestDispatch
