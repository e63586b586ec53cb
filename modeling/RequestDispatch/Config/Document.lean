import RequestDispatch.Json
import RequestDispatch.Text.Number

/-!
# Documents

The tree that a configuration text denotes, and reading typed values out of it.  Scalars keep their
text and the style in which they were written: a plain one may stand for a truth value, a number or
nothing, a quoted one is text only.  A node may stand for another one that carries an anchor.

Two dialects share these rules.  In YAML any scalar is accepted as text and an empty one as an empty
list or record; in JSON only a string is text, and a list may give the fields of a record by position.

Reading runs in `Decode`, which looks up anchors and bounds how many references are followed, so that
a small text cannot denote an endless or exploding tree.
-/

namespace RequestDispatch

inductive ScalarStyle where
  | plain
  | quoted
  /-- A block scalar that keeps its line breaks. -/
  | literal
  /-- A block scalar whose line breaks fold. -/
  | folded
  deriving DecidableEq, Repr

/-- The tags that say how a scalar is to be understood; all others are one. -/
inductive Tag where
  | null
  | bool
  | int
  | other
  deriving DecidableEq, Repr

inductive Document where
  | scalar (text : String) (style : ScalarStyle) (tag : Option Tag)
  | list (items : List Document)
  | record (fields : List (Document × Document))
  /-- The node with an anchor. -/
  | reference (anchor : Nat)
  deriving Repr

inductive Dialect where
  | yaml
  | json
  deriving DecidableEq, Repr

/-- What is needed to look up references: the nodes with anchors, of which the first counts. -/
abbrev Anchors := List (Nat × Document)

/-- Reading from a document.  The state is the number of references that may still be followed. -/
abbrev Decode := ReaderT Anchors (StateT Nat Option)

/-- A document with its anchors and the number of its marks: one for each scalar and reference, two for
each list and record. -/
structure Source where
  root : Document
  anchors : Anchors
  size : Nat
  deriving Repr

/-- Reads a value.  At most a hundred references are followed for each mark of the document. -/
def Source.decode? {α : Type} (source : Source) (read : Document → Decode α) : Option α :=
  ((read source.root).run source.anchors (100 * source.size)).map Prod.fst

namespace Document

/-- A scalar written without quotes. -/
def plain (text : String) : Document := .scalar text .plain none

/-- A value that is left out. -/
def nothing : Document := plain ""

mutual

/-- A JSON value as a document: texts are quoted, all other atoms plain. -/
def ofJson : Json → Document
  | .null => plain "null"
  | .bool b => plain (if b then "true" else "false")
  | .num n => plain (toString n)
  | .str text => .scalar text .quoted none
  | .arr items => .list (ofJsonItems items)
  | .obj fields => .record (ofJsonFields fields)

def ofJsonItems : List Json → List Document
  | [] => []
  | item :: rest => ofJson item :: ofJsonItems rest

def ofJsonFields : List (String × Json) → List (Document × Document)
  | [] => []
  | (name, value) :: rest => (.scalar name .quoted none, ofJson value) :: ofJsonFields rest

end

/-- Whether nothing is written at the place of a value. -/
def isNothing : Document → Bool
  | .scalar text .plain _ => text.isEmpty
  | _ => false

/-- A word that stands for no value. -/
def isNullWord (text : String) : Bool := text ∈ ["~", "null", "Null", "NULL"]

/-- Whether a node stands for no value.  A plain scalar that is tagged as null has to be a word for it. -/
def isNull? : Document → Option Bool
  | .scalar text .plain none => some (text.isEmpty || isNullWord text)
  | .scalar text .plain (some .null) => if isNullWord text then some true else none
  | _ => some false

/-- The text of a scalar that may stand for more than text: a plain one, or a literal one with the tag of
the type that is wanted. -/
def valueText? (tag : Tag) : Document → Option String
  | .scalar text .plain _ => some text
  | .scalar text .literal found => if found = some tag then some text else none
  | _ => none

def bool? (d : Document) : Option Bool :=
  (d.valueText? .bool).bind fun text =>
    if text ∈ ["true", "True", "TRUE"] then some true
    else if text ∈ ["false", "False", "FALSE"] then some false
    else none

/-- Several digits that begin with a zero are no number. -/
def isPadded (cs : List Char) : Bool :=
  match cs with
  | '0' :: d :: rest => (d :: rest).all Char.isDigit
  | _ => false

/-- The number of a scalar: decimal, or in another base after `0x`, `0o` or `0b`. -/
def wordOf? (cs : List Char) : Option Nat :=
  let unsigned := match cs with
    | '+' :: rest => rest
    | _ => cs
  let value := match unsigned with
    | '0' :: 'x' :: digits => Text.numeral? 16 digits
    | '0' :: 'o' :: digits => Text.numeral? 8 digits
    | '0' :: 'b' :: digits => Text.numeral? 2 digits
    | _ => if isPadded unsigned then none else Text.numeral? 10 unsigned
  value.filter (· < Text.wordLimit)

def word? (d : Document) : Option Nat := (d.valueText? .int).bind fun text => wordOf? text.toList

def text? (dialect : Dialect) : Document → Option String
  | .scalar text style _ => if style == .quoted || dialect == .yaml then some text else none
  | _ => none

end Document

namespace Decode

def ofOption {α : Type} : Option α → Decode α
  | some a => pure a
  | none => failure

/-- The node that is meant: a reference counts and leads to the node with its anchor. -/
def follow (d : Document) : Decode Document := do
  match d with
  | .reference anchor =>
    match ← get with
    | 0 => failure
    | left + 1 =>
      set left
      ofOption ((← read).lookup anchor)
  | d => return d

/-- Reads a node that is meant. -/
def value {α : Type} (read : Document → Option α) (d : Document) : Decode α := do
  ofOption (read (← follow d))

def bool : Document → Decode Bool := value Document.bool?

def word : Document → Decode Nat := value Document.word?

def text (dialect : Dialect) : Document → Decode String := value (Document.text? dialect)

/-- A value that may be null. -/
def optional {α : Type} (read : Document → Decode α) (d : Document) : Decode (Option α) := do
  let d ← follow d
  if ← ofOption d.isNull? then return none
  else return some (← read d)

/-- The items of a list at a place where `depth` further levels may open. -/
def items (dialect : Dialect) (depth : Nat) (d : Document) : Decode (List Document) := do
  match ← follow d with
  | .list items => if 0 < depth then return items else failure
  | d => if dialect == .yaml && d.isNothing then return [] else failure

def texts (dialect : Dialect) (depth : Nat) (d : Document) : Decode (List String) := do
  (← items dialect depth d).mapM (text dialect)

/-- How a record treats names it does not know. -/
inductive Strictness where
  | ignoresUnknown
  | refusesUnknown
  deriving DecidableEq, Repr

/-- Adds one field to those read so far.  A known name may occur once. -/
def addField (known : List String) (strictness : Strictness) (seen : List (String × Document))
    (field : Document × Document) : Decode (List (String × Document)) := do
  match ← follow field.1 with
  | .scalar name .. =>
    if name ∈ known then
      if (seen.lookup name).isSome then failure else return seen ++ [(name, field.2)]
    else if strictness = .refusesUnknown then failure
    else return seen
  | _ => failure

/-- The known fields of a record at a place where `depth` further levels may open. -/
def fields (dialect : Dialect) (known : List String) (strictness : Strictness) (depth : Nat)
    (d : Document) : Decode (List (String × Document)) := do
  match ← follow d with
  | .record fields => if 0 < depth then fields.foldlM (addField known strictness) [] else failure
  | .list items =>
    if dialect == .json && items.length ≤ known.length then return known.zip items else failure
  | d => if dialect == .yaml && d.isNothing then return [] else failure

/-- Reads a field, or takes the default where the record leaves it out. -/
def field {α : Type} (fields : List (String × Document)) (name : String)
    (read : Document → Decode α) (default : α) : Decode α :=
  match fields.lookup name with
  | some d => read d
  | none => return default

/-- Reads a field that must be there. -/
def required {α : Type} (fields : List (String × Document)) (name : String)
    (read : Document → Decode α) : Decode α := do
  read (← ofOption (fields.lookup name))

/-- Most levels of lists and records inside each other. -/
def depthLimit : Nat := 128

end Decode

end RequestDispatch
