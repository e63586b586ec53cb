import RequestDispatch.Yaml.Lexer

/-!
# YAML nodes

The document that a list of tokens stands for.  A node is a reference, a scalar, or a collection in block
or flow form; an anchor and a tag may stand before it.  Where a node is left out an empty plain scalar
takes its place.

`Composing` takes tokens from the front.  The functions that call each other carry a budget, which
`parse?` sets to twice the number of tokens: each call takes one, or is followed by one that does.
-/

namespace RequestDispatch.Yaml

/-- What has been composed so far. -/
structure Composition where
  tokens : List Token
  /-- The beginnings of tags by handle. -/
  stems : List (List Char × List Char)
  /-- The number of every anchor that has been named. -/
  names : List (List Char × Nat)
  /-- Numbers with the nodes that carry them and the count of marks before those. -/
  anchored : List (Nat × Nat × Document)
  /-- The count of marks so far. -/
  size : Nat

abbrev Composing := StateT Composition Option

namespace Composing

def peek : Composing (Option Token) := do return (← get).tokens.head?

def skip : Composing Unit := modify fun c => { c with tokens := c.tokens.tail }

/-- Whether one of some tokens comes next. -/
def sees (tokens : List Token) : Composing Bool := do
  return (← peek).any (· ∈ tokens)

/-- Takes a token if it comes next. -/
def accept (t : Token) : Composing Bool := do
  if ← sees [t] then
    skip
    return true
  else return false

def expect (t : Token) : Composing Unit := do
  unless ← accept t do failure

def mark (count : Nat) : Composing Unit := modify fun c => { c with size := c.size + count }

/-- Where a node is left out. -/
def absent : Composing Document := do
  mark 1
  return .nothing

/-- The number that an anchor's name stands for. -/
def numberOf (name : List Char) : Composing Nat := do
  match (← get).names.lookup name with
  | some number => return number
  | none => failure

/-- Gives a name a number: how many other names there are already. -/
def nameAnchor (name : List Char) : Composing Nat := do
  let c ← get
  let number := c.names.length
  set { c with names := (name, number) :: c.names.filter (·.1 ≠ name) }
  return number

/-- Composes a node with its anchor, which the inside of the node may already refer to. -/
def anchoring (name : Option (List Char)) (count : Nat) (node : Composing Document) :
    Composing Document := do
  match name with
  | none =>
    mark count
    node
  | some name =>
    let number ← nameAnchor name
    let position := (← get).size
    mark count
    let d ← node
    modify fun c => { c with anchored := (number, position, d) :: c.anchored }
    return d

/-- The whole text of a tag. -/
def tagText (name : TagName) : Composing (List Char) := do
  if name.handle.isEmpty then return name.suffix
  else match (← get).stems.lookup name.handle with
    | some stem => return stem ++ name.suffix
    | none => failure

/-- The anchor and the tag before a node, in either order. -/
def properties : Composing (Option (List Char) × Option (List Char)) := do
  match ← peek with
  | some (.anchor name) =>
    skip
    match ← peek with
    | some (.tag tag) =>
      skip
      return (some name, some (← tagText tag))
    | _ => return (some name, none)
  | some (.tag tag) =>
    skip
    match ← peek with
    | some (.anchor name) =>
      skip
      return (some name, some (← tagText tag))
    | _ => return (none, some (← tagText tag))
  | _ => return (none, none)

def tagOf (text : List Char) : Tag :=
  match String.ofList text with
  | "tag:yaml.org,2002:null" => .null
  | "tag:yaml.org,2002:bool" => .bool
  | "tag:yaml.org,2002:int" => .int
  | _ => .other

/-- The tag of a scalar.  The tag of one exclamation mark says nothing about it. -/
def scalarTag (text : Option (List Char)) : Option Tag :=
  (text.filter (· ≠ ['!'])).map tagOf

mutual

/-- A node.  A block list may stand at the column of the key before it (`flat`). -/
def node : Nat → Bool → Bool → Composing Document
  | 0, _, _ => failure
  | budget + 1, inBlock, flat => do
    match ← peek with
    | some (.reference name) =>
      skip
      mark 1
      return .reference (← numberOf name)
    | _ =>
      let (anchor, tag) ← properties
      match ← peek with
      | some (.scalar text style) =>
        skip
        anchoring anchor 1 (return .scalar (String.ofList text) style (scalarTag tag))
      | some .flowListStart =>
        skip
        anchoring anchor 2 (flowList budget true [])
      | some .flowRecordStart =>
        skip
        anchoring anchor 2 (flowRecord budget true [])
      | found =>
        if flat && found = some .dash then anchoring anchor 2 (flatList budget [])
        else if inBlock && found = some .blockListStart then
          skip
          anchoring anchor 2 (blockList budget [])
        else if inBlock && found = some .blockRecordStart then
          skip
          anchoring anchor 2 (blockRecord budget [])
        else if anchor.isSome || tag.isSome then
          anchoring anchor 1 (return .scalar "" .plain (tag.map tagOf))
        else failure
termination_by structural budget => budget

/-- A node unless one of some tokens comes next. -/
def nodeUnless : Nat → List Token → Bool → Bool → Composing Document
  | 0, _, _, _ => failure
  | budget + 1, stops, inBlock, flat => do
    if ← sees stops then absent else node budget inBlock flat
termination_by structural budget => budget

def blockList : Nat → List Document → Composing Document
  | 0, _ => failure
  | budget + 1, items => do
    if ← accept .dash then
      let item ← nodeUnless budget [.dash, .blockEnd] true false
      blockList budget (items ++ [item])
    else
      expect .blockEnd
      return .list items
termination_by structural budget => budget

/-- A block list at the column of the key before it, which ends where no dash comes. -/
def flatList : Nat → List Document → Composing Document
  | 0, _ => failure
  | budget + 1, items => do
    if ← accept .dash then
      let item ← nodeUnless budget [.dash, .key, .value, .blockEnd] true false
      flatList budget (items ++ [item])
    else return .list items
termination_by structural budget => budget

def blockRecord : Nat → List (Document × Document) → Composing Document
  | 0, _ => failure
  | budget + 1, fields => do
    if ← accept .key then
      let stops := [Token.key, .value, .blockEnd]
      let key ← nodeUnless budget stops true true
      let value ← if ← accept .value then nodeUnless budget stops true true else absent
      blockRecord budget (fields ++ [(key, value)])
    else
      expect .blockEnd
      return .record fields
termination_by structural budget => budget

/-- The rest of a flow list.  An item may be a pair, which is a record of its own. -/
def flowList : Nat → Bool → List Document → Composing Document
  | 0, _, _ => failure
  | budget + 1, first, items => do
    if ← accept .flowListEnd then return .list items
    else
      unless first do expect .comma
      if ← accept .flowListEnd then return .list items
      else if ← accept .key then
        mark 2
        let key ← pairKey budget
        let value ←
          if ← accept .value then nodeUnless budget [.comma, .flowListEnd] false false else absent
        flowList budget false (items ++ [.record [(key, value)]])
      else
        let item ← node budget false false
        flowList budget false (items ++ [item])
termination_by structural budget => budget

/-- The key of a pair in a flow list.  The token at which a missing key shows is taken with it. -/
def pairKey : Nat → Composing Document
  | 0 => failure
  | budget + 1 => do
    if ← sees [.value, .comma, .flowListEnd] then
      skip
      absent
    else node budget false false
termination_by structural budget => budget

def flowRecord : Nat → Bool → List (Document × Document) → Composing Document
  | 0, _, _ => failure
  | budget + 1, first, fields => do
    if ← accept .flowRecordEnd then return .record fields
    else
      unless first do expect .comma
      if ← accept .flowRecordEnd then return .record fields
      else if ← accept .key then
        let key ← nodeUnless budget [.value, .comma, .flowRecordEnd] false false
        let value ←
          if ← accept .value then nodeUnless budget [.comma, .flowRecordEnd] false false else absent
        flowRecord budget false (fields ++ [(key, value)])
      else
        let key ← node budget false false
        let value ← absent
        flowRecord budget false (fields ++ [(key, value)])
termination_by structural budget => budget

end

/-- The beginnings of tags that need no directive. -/
def standardStems : List (List Char × List Char) :=
  [(['!'], ['!']), (['!', '!'], "tag:yaml.org,2002:".toList)]

/-- Directives before a document: at most one version, which has to be 1.1 or 1.2, and at most one
beginning for each handle. -/
def directives : Bool → List Token → Composing Unit
  | versioned, .version major minor :: rest => do
    if versioned || major ≠ 1 || (minor ≠ 1 && minor ≠ 2) then failure
    skip
    directives true rest
  | versioned, .tagStem handle stem :: rest => do
    let c ← get
    if (c.stems.lookup handle).isSome then failure
    skip
    modify fun c => { c with stems := c.stems ++ [(handle, stem)] }
    directives versioned rest
  | _, _ => modify fun c => { c with stems := c.stems ++ standardStems }

/-- The first document.  Only one that begins with a marker may have directives. -/
def document (budget : Nat) : Composing Document := do
  let tokens := (← get).tokens
  directives false tokens
  if ← accept .documentStart then
    match ← peek with
    | none | some (.version ..) | some (.tagStem ..) | some .documentStart | some .documentEnd =>
      absent
    | _ => node budget true false
  else if (← get).tokens.length < tokens.length then failure
  else if tokens.isEmpty then absent
  else node budget true false

end Composing

/-- The nodes with anchors by number; of several with one number the one that begins last comes first. -/
def Composition.anchors (c : Composition) : Anchors :=
  let sorted := c.anchored.mergeSort fun a b => b.2.1 ≤ a.2.1
  sorted.map fun (number, _, d) => (number, d)

/-- Reads a text that holds one document, or none at all.  Only end markers may follow it. -/
def parse? (text : String) : Option Source := do
  let tokens ← tokens? text
  let (root, c) ← (Composing.document (2 * tokens.length + 2)).run ⟨tokens, [], [], [], 0⟩
  if c.tokens.all (· == .documentEnd) then some ⟨root, c.anchors, c.size⟩ else none

end RequestDispatch.Yaml
