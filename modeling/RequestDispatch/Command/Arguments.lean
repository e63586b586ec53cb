import RequestDispatch.Config.Load

/-!
# Command line arguments

The arguments of the three commands.  An option stands as `--name value`, `--name=value`, `-n value`,
`-nvalue` or `-n=value`; a switch stands alone.  After `--` every argument is an operand.

A value in an argument of its own is taken over only when the next option or operand is read, so an
unknown argument is refused before the value in front of it is looked at.
-/

namespace RequestDispatch

inductive Command where
  | routes
  | resolve
  | load
  deriving DecidableEq, Repr

/-- A command with everything it needs. -/
inductive Invocation where
  /-- Lists the routes of a table, or shows their tree. -/
  | routes (config : String) (tree : Bool)
  /-- Shows how a request is routed, and perhaps how it is answered. -/
  | resolve (config method path : String) (execute : Bool)
  /-- Serves many requests and counts their answers. -/
  | load (config : String) (requests concurrency : Nat) (method : String) (paths : List String)
  deriving DecidableEq, Repr

/-- Why arguments do not make an invocation. -/
inductive UsageError where
  /-- No command is named. -/
  | nothingGiven
  /-- Help is asked for, which is no mistake. -/
  | helpRequested
  | unknownCommand
  | unknownArgument
  | missingArgument
  /-- An option lacks its value, or has an empty one that it does not take. -/
  | missingValue
  | malformedValue
  /-- A switch has a value. -/
  | unexpectedValue
  | repeatedOption
  deriving DecidableEq, Repr

namespace UsageError

/-- Only a request for help ends well. -/
def exitCode : UsageError → Nat
  | .helpRequested => 0
  | _ => 2

def message : UsageError → String
  | .nothingGiven => "a command is required"
  | .helpRequested => "commands: routes, resolve, load; each needs --config <FILE>"
  | .unknownCommand => "unrecognized command"
  | .unknownArgument => "unexpected argument"
  | .missingArgument => "a required argument was not provided"
  | .missingValue => "an option requires a value"
  | .malformedValue => "a value is not a number"
  | .unexpectedValue => "a switch takes no value"
  | .repeatedOption => "an option cannot be used twice"

end UsageError

/-- Everything that may be written with dashes. -/
inductive Flag where
  | config
  | tree
  | execute
  | requests
  | concurrency
  | method
  | path
  | help
  deriving DecidableEq, Repr

namespace Flag

def long : Flag → String
  | .config => "config"
  | .tree => "tree"
  | .execute => "execute"
  | .requests => "requests"
  | .concurrency => "concurrency"
  | .method => "method"
  | .path => "path"
  | .help => "help"

def short? : Flag → Option Char
  | .config => some 'c'
  | .tree => none
  | .execute => none
  | .requests => some 'n'
  | .concurrency => some 'j'
  | .method => some 'm'
  | .path => some 'p'
  | .help => some 'h'

/-- A switch takes no value. -/
def isSwitch : Flag → Bool
  | .tree | .execute | .help => true
  | _ => false

end Flag

namespace Command

def name : Command → String
  | .routes => "routes"
  | .resolve => "resolve"
  | .load => "load"

def all : List Command := [.routes, .resolve, .load]

def ofName? (name : String) : Option Command := all.find? (·.name = name)

def flags : Command → List Flag
  | .routes => [.config, .tree, .help]
  | .resolve => [.config, .execute, .help]
  | .load => [.config, .requests, .concurrency, .method, .path, .help]

/-- Number of operands. -/
def arity : Command → Nat
  | .resolve => 2
  | _ => 0

end Command

/-- What has been set by the arguments read so far. -/
structure Given where
  config : Option String
  tree : Bool
  execute : Bool
  requests : Option Nat
  concurrency : Option Nat
  method : Option String
  paths : List String
  operands : List String
  deriving DecidableEq, Repr

namespace Given

def nothing : Given := ⟨none, false, false, none, none, none, [], []⟩

/-- The number of an option that may be set once. -/
def count (previous : Option Nat) (value : String) : Except UsageError Nat :=
  if previous.isSome then .error .repeatedOption
  else match Text.word? 10 value.toList with
    | some n => .ok n
    | none => .error .malformedValue

/-- Sets an option to a value.  Only `path` may be set more than once. -/
def set (g : Given) (flag : Flag) (value : String) : Except UsageError Given :=
  match flag with
  | .help => .error .helpRequested
  | .tree => if g.tree then .error .repeatedOption else .ok { g with tree := true }
  | .execute => if g.execute then .error .repeatedOption else .ok { g with execute := true }
  | .config =>
    if g.config.isSome then .error .repeatedOption
    else if value.isEmpty then .error .missingValue
    else .ok { g with config := some value }
  | .requests => (count g.requests value).map fun n => { g with requests := some n }
  | .concurrency => (count g.concurrency value).map fun n => { g with concurrency := some n }
  | .method =>
    if g.method.isSome then .error .repeatedOption else .ok { g with method := some value }
  | .path => .ok { g with paths := g.paths ++ [value] }

end Given

/-- An option whose value is not taken over yet. -/
structure Waiting where
  flag : Flag
  value : Option String
  deriving DecidableEq, Repr

structure Reading where
  given : Given
  waiting : Option Waiting
  /-- Whether `--` has been read. -/
  operandsOnly : Bool
  deriving DecidableEq, Repr

namespace Reading

def start : Reading := ⟨.nothing, none, false⟩

/-- Takes the waiting value over. -/
def settle (r : Reading) : Except UsageError Reading :=
  match r.waiting with
  | none => .ok r
  | some ⟨_, none⟩ => .error .missingValue
  | some ⟨flag, some value⟩ =>
    (r.given.set flag value).map fun given => { r with given := given, waiting := none }

/-- Sets an option whose value, if it takes one, is known. -/
def assign (r : Reading) (flag : Flag) (value : String) : Except UsageError Reading := do
  let r ← r.settle
  let given ← r.given.set flag value
  return { r with given := given }

/-- Lets an option wait for the next argument. -/
def await (r : Reading) (flag : Flag) : Except UsageError Reading := do
  let r ← r.settle
  return { r with waiting := some ⟨flag, none⟩ }

/-- An option with the value written together with it. -/
def option (r : Reading) (flag : Flag) (attached : Option (List Char)) :
    Except UsageError Reading :=
  match flag.isSwitch, attached with
  | true, none => r.assign flag ""
  | true, some _ => .error .unexpectedValue
  | false, none => r.await flag
  | false, some value => r.assign flag (String.ofList value)

/-- What follows the first equals sign, if there is one. -/
def attached? (cs : List Char) : Option (List Char) :=
  match cs.dropWhile (· ≠ '=') with
  | [] => none
  | _ :: value => some value

/-- An argument after two dashes. -/
def long (command : Command) (r : Reading) (cs : List Char) : Except UsageError Reading :=
  let name := String.ofList (cs.takeWhile (· ≠ '='))
  match command.flags.find? (·.long = name) with
  | none => .error .unknownArgument
  | some flag => r.option flag (attached? cs)

/-- An argument after one dash: a letter, and the value written together with it. -/
def short (command : Command) (r : Reading) (letter : Char) (rest : List Char) :
    Except UsageError Reading :=
  match command.flags.find? (·.short? = some letter) with
  | none => .error .unknownArgument
  | some flag =>
    if flag.isSwitch then r.option flag none
    else match rest with
      | [] => r.option flag none
      | '=' :: value => r.option flag (some value)
      | value => r.option flag (some value)

def operand (command : Command) (r : Reading) (arg : String) : Except UsageError Reading :=
  if command.arity ≤ r.given.operands.length then .error .unknownArgument
  else do
    let r ← r.settle
    return { r with given := { r.given with operands := r.given.operands ++ [arg] } }

/-- An argument that is no option: the value of the option that waits for one, or an operand. -/
def plain (command : Command) (r : Reading) (arg : String) : Except UsageError Reading :=
  match r.waiting with
  | some ⟨flag, none⟩ => .ok { r with waiting := some ⟨flag, some arg⟩ }
  | _ => r.operand command arg

def step (command : Command) (r : Reading) (arg : String) : Except UsageError Reading :=
  if r.operandsOnly then r.operand command arg
  else match arg.toList with
    | ['-', '-'] => .ok { r with operandsOnly := true }
    | '-' :: '-' :: cs => r.long command cs
    | '-' :: letter :: rest => r.short command letter rest
    | _ => r.plain command arg

/-- The table's file: as given, else from the environment. -/
def config (env : Environment) (g : Given) : Except UsageError String :=
  match g.config, env "RADIX_ROUTES" with
  | some file, _ => .ok file
  | none, some file => if file.isEmpty then .error .missingValue else .ok file
  | none, none => .error .missingArgument

/-- The invocation once all arguments are read. -/
def finish (env : Environment) (command : Command) (r : Reading) :
    Except UsageError Invocation := do
  let r ← r.settle
  let g := r.given
  let config ← config env g
  match command, g.operands, g.paths with
  | .routes, _, _ => return .routes config g.tree
  | .resolve, [method, path], _ => return .resolve config method path g.execute
  | .load, _, path :: more =>
    return .load config (g.requests.getD 10000) (g.concurrency.getD 8) (g.method.getD "GET")
      (path :: more)
  | _, _, _ => throw .missingArgument

end Reading

namespace Invocation

/-- Names at the place of the command. -/
def isCommandName (name : String) : Bool :=
  name == "help" || (Command.ofName? name).isSome

/-- What is wrong with a first argument that names no command. -/
def unknownFirst (arg : String) : UsageError :=
  match arg.toList with
  | '-' :: '-' :: cs =>
    if String.ofList cs = "help" then .helpRequested
    else if String.ofList (cs.takeWhile (· ≠ '=')) = "help" then .unexpectedValue
    else .unknownArgument
  | '-' :: letter :: _ => if letter = 'h' then .helpRequested else .unknownArgument
  | _ => .unknownCommand

def ofArguments (env : Environment) : List String → Except UsageError Invocation
  | [] | ["--"] => .error .nothingGiven
  | "--" :: first :: _ =>
    .error (if isCommandName first then .unknownArgument else .unknownCommand)
  | ["help"] => .error .helpRequested
  | "help" :: topics =>
    .error (if topics.length = 1 ∧ topics.all isCommandName then .helpRequested
      else .unknownCommand)
  | first :: rest =>
    match Command.ofName? first with
    | none => .error (unknownFirst first)
    | some command =>
      (rest.foldlM (Reading.step command) .start).bind (Reading.finish env command)

end Invocation

end RequestDispatch
