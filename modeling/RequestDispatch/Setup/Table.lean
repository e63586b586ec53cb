import RequestDispatch.Config.Load
import RequestDispatch.Setup.Registry

/-!
# Tables of routes

Routes, groups and middleware described as data and resolved against a registry.  A table is applied in
document order: its middleware, its routes, then its groups, each with its own middleware and routes
before the groups inside it.  The first entry that cannot be resolved or registered stops it.
-/

namespace RequestDispatch

structure RouteEntry where
  method : Option String
  methods : List String
  path : String
  handler : String
  deriving DecidableEq, Repr

inductive GroupEntry where
  | mk (base : String) (middleware : List String) (routes : List RouteEntry)
      (groups : List GroupEntry)
  deriving Repr

structure RouteTable where
  debug : Option Bool
  pool : Option PoolSettings
  middleware : List String
  routes : List RouteEntry
  groups : List GroupEntry
  deriving Repr

namespace RouteEntry

/-- The methods that a name stands for: all standard ones for `ANY`, otherwise the one it names in upper
case without its blank margin. -/
def methodsOf (name : String) : Except RouteError (List Method) :=
  let upper := Text.upper (Text.trim name)
  if upper = "ANY" then .ok Method.standard
  else match Method.ofString? upper with
    | some method => .ok [method]
    | none => .error (.invalidMethod name)

/-- All method names of the entry, in order. -/
def methodNames (entry : RouteEntry) : List String := entry.method.toList ++ entry.methods

/-- The methods of an entry, each where it occurs first; `GET` when none is named. -/
def registeredMethods (entry : RouteEntry) : Except RouteError (List Method) :=
  if entry.methodNames.isEmpty then .ok [.get]
  else (entry.methodNames.mapM methodsOf).map fun methods => distinct methods.flatten

def fieldNames : List String := ["method", "methods", "path", "handler"]

def decode (dialect : Dialect) (depth : Nat) (d : Document) : Decode RouteEntry := do
  let fields ← Decode.fields dialect fieldNames .refusesUnknown depth d
  let text := Decode.text dialect
  let method ← Decode.field fields "method" (Decode.optional text) none
  let methods ← Decode.field fields "methods" (Decode.texts dialect (depth - 1)) []
  let path ← Decode.required fields "path" text
  let handler ← Decode.required fields "handler" text
  return ⟨method, methods, path, handler⟩

def toJson (entry : RouteEntry) : Json :=
  .object
    ((entry.method.map fun m => ("method", Json.str m)).toList ++
      (if entry.methods.isEmpty then [] else [("methods", .strings entry.methods)]) ++
      [("path", .str entry.path), ("handler", .str entry.handler)])

end RouteEntry

/-- Number of registrations of a list of entries. -/
def countRegistrations : List RouteEntry → Except RouteError Nat
  | [] => .ok 0
  | entry :: rest => do
    let methods ← entry.registeredMethods
    let more ← countRegistrations rest
    return methods.length + more

namespace Setup

def ofExcept {α : Type} : Except RouteError α → Setup α
  | .ok a => return a
  | .error e => throw (.route e)

/-- Adds middleware by name. -/
def useNamed (registry : Registry) (site : Site) (names : List String) : Setup Unit :=
  names.forM fun name => do
    use site (← ofExcept (registry.middlewareNamed name))

/-- Registers entries at a site. -/
def routeEntries (registry : Registry) (site : Site) (entries : List RouteEntry) : Setup Unit :=
  entries.forM fun entry => do
    let handler ← ofExcept (registry.handler entry.handler)
    let methods ← ofExcept entry.registeredMethods
    route site methods entry.path handler

end Setup

namespace GroupEntry

mutual

def toJson : GroupEntry → Json
  | .mk base middleware routes groups =>
    .object [("prefix", .str base), ("middleware", .strings middleware),
      ("routes", .arr (routes.map RouteEntry.toJson)), ("groups", .arr (toJsonAll groups))]

def toJsonAll : List GroupEntry → List Json
  | [] => []
  | group :: rest => toJson group :: toJsonAll rest

end

mutual

/-- Number of registrations of a group and the groups inside it. -/
def count : GroupEntry → Except RouteError Nat
  | .mk _ _ routes groups => do
    let own ← countRegistrations routes
    let inner ← countAll groups
    return own + inner

def countAll : List GroupEntry → Except RouteError Nat
  | [] => .ok 0
  | group :: rest => do
    let n ← count group
    let more ← countAll rest
    return n + more

end

mutual

/-- Opens a group at a site and fills it. -/
def apply (registry : Registry) (site : Site) : GroupEntry → Setup Unit
  | .mk base middleware routes groups => do
    let inner ← Setup.openGroup site base
    Setup.useNamed registry inner middleware
    Setup.routeEntries registry inner routes
    applyAll registry inner groups

def applyAll (registry : Registry) (site : Site) : List GroupEntry → Setup Unit
  | [] => return
  | group :: rest => do
    apply registry site group
    applyAll registry site rest

end

def fieldNames : List String := ["prefix", "middleware", "routes", "groups"]

/-- Reads a group at a place where `depth` further levels may open; each level of groups takes two. -/
def decode (dialect : Dialect) (depth : Nat) (d : Document) : Decode GroupEntry := do
  let fields ← Decode.fields dialect fieldNames .refusesUnknown depth d
  let base ← Decode.field fields "prefix" (Decode.text dialect) ""
  let middleware ← Decode.field fields "middleware" (Decode.texts dialect (depth - 1)) []
  let routes ← Decode.field fields "routes" (Decode.items dialect (depth - 1)) []
  let routes ← routes.mapM (RouteEntry.decode dialect (depth - 2))
  let inner ← Decode.field fields "groups" (Decode.items dialect (depth - 1)) []
  let groups ← match depth with
    | depth + 2 => inner.mapM fun d => decode dialect depth d
    | _ => if inner.isEmpty then pure [] else failure
  return .mk base middleware routes groups

end GroupEntry

namespace RouteTable

def fieldNames : List String := ["debug", "pool", "middleware", "routes", "groups"]

def decode (dialect : Dialect) (d : Document) : Decode RouteTable := do
  let depth := Decode.depthLimit
  let fields ← Decode.fields dialect fieldNames .refusesUnknown depth d
  let debug ← Decode.field fields "debug" (Decode.optional Decode.bool) none
  let pool ← Decode.field fields "pool"
    (Decode.optional (PoolSettings.decode dialect (depth - 1))) none
  let middleware ← Decode.field fields "middleware" (Decode.texts dialect (depth - 1)) []
  let routes ← Decode.field fields "routes" (Decode.items dialect (depth - 1)) []
  let routes ← routes.mapM (RouteEntry.decode dialect (depth - 2))
  let groups ← Decode.field fields "groups" (Decode.items dialect (depth - 1)) []
  let groups ← groups.mapM (GroupEntry.decode dialect (depth - 2))
  return ⟨debug, pool, middleware, routes, groups⟩

/-- Reads a table from a JSON value. -/
def ofJson? (value : Json) : Option RouteTable :=
  (Source.mk (.ofJson value) [] 0).decode? (decode .json)

def ofYaml (text : String) : Except LoadError RouteTable :=
  match (Yaml.parse? text).bind (·.decode? (decode .yaml)) with
  | some table => .ok table
  | none => .error [.text "invalid route table", .invalidYaml]

/-- Reads a table from a YAML file. -/
def load (files : Files) (path : String) : Except LoadError RouteTable :=
  match files path with
  | .error error => .error [.text ("failed to read route table " ++ path), .file error]
  | .ok text => (ofYaml text).mapError (.text ("in " ++ path) :: ·)

def toJson (table : RouteTable) : Json :=
  .object
    [("debug", (table.debug.map Json.bool).getD .null),
     ("pool", (table.pool.map PoolSettings.toJson).getD .null),
     ("middleware", .strings table.middleware),
     ("routes", .arr (table.routes.map RouteEntry.toJson)),
     ("groups", .arr (GroupEntry.toJsonAll table.groups))]

/-- Number of registrations that the table describes, one for each method. -/
def registrationCount (table : RouteTable) : Except RouteError Nat := do
  let own ← countRegistrations table.routes
  let inner ← GroupEntry.countAll table.groups
  return own + inner

/-- Registers everything. -/
def apply (table : RouteTable) (registry : Registry) : Setup Unit := do
  Setup.useNamed registry .outside table.middleware
  Setup.routeEntries registry .outside table.routes
  GroupEntry.applyAll registry .outside table.groups
  let d ← Setup.dispatcher
  Setup.report
    (.tableLoaded d.router.routes.length table.middleware.length table.groups.length)

/-- The defaults under the settings of the table. -/
def config (table : RouteTable) : DispatchSettings :=
  { DispatchSettings.standard with
    debug := table.debug.getD DispatchSettings.standard.debug
    pool := table.pool.getD .standard }

/-- A dispatcher made from the table and the variables, with the events reported on the way. -/
def toDispatcher (table : RouteTable) (registry : Registry) (env : Environment) :
    Except SetupError Dispatcher × List Event :=
  let (config, warnings) := table.config.override env
  let (result, d, events) := Setup.on (Dispatcher.create config) (table.apply registry)
  (result.map fun _ => d, warnings ++ events)

end RouteTable

end RequestDispatch
