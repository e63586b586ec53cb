import RequestDispatch.Logging.Settings
import RequestDispatch.Text.Pattern
import RequestDispatch.Text.Utf8

/-!
# Log directives

A directive is written `target[span{field=value}]=level`.  It lets everything through that is at least as
urgent as its level, among what components report whose target begins with its own, inside spans of the
name, with the field and with the value.  All parts may be missing, though not all at once; a missing level
lets everything through, and a directive of one word is a level if it can be.

Places in a directive are counted from its first character that is not blank, but its parts are cut out of
the text as it stands.  A blank margin therefore shifts the parts, and one that shifts a part into the
middle of a character tears the text (`DirectiveError.torn`).
-/

namespace RequestDispatch

/-- The least urgent level that passes; nothing passes where there is none. -/
abbrev Threshold := Option Level

/-- Whether a level passes a threshold. -/
def Level.passes (level : Level) (threshold : Threshold) : Bool :=
  match threshold with
  | none => false
  | some least => least.severity ≤ level.severity

namespace Threshold

/-- What a level, `off` or `0` lets through. -/
def ofText? (text : String) : Option Threshold :=
  if Text.lower text = "off" ∨ Text.word? 10 text.toList = some 0 then some none
  else (Level.ofText? text).map some

/-- What passes either of two thresholds. -/
def wider (a b : Threshold) : Threshold :=
  match a, b with
  | none, b => b
  | a, none => a
  | some x, some y => some (if x.severity ≤ y.severity then x else y)

end Threshold

/-- What a directive asks of the value of a field. -/
inductive ValueTest where
  /-- A truth value or a number.  No text is one. -/
  | typed (text : String)
  /-- A text whose preferred match of a pattern ends where the text ends. -/
  | like (text : String) (pattern : Text.Pattern)
  deriving DecidableEq, Repr

namespace ValueTest

/-- The value that a directive writes: a truth value, a number or a pattern. -/
def ofText? (text : String) : Option ValueTest :=
  if text = "true" ∨ text = "false" ∨ Text.isNumber text.toList then some (.typed text)
  else (Text.Pattern.ofText? text).map (.like text)

def accepts (test : ValueTest) (value : String) : Bool :=
  match test with
  | .typed _ => false
  | .like _ pattern => pattern.reachesEnd value

end ValueTest

structure FieldTest where
  name : String
  value : Option ValueTest
  deriving DecidableEq, Repr

/-- Reads `name` or `name=value`.  What follows a second `=` does not count. -/
def FieldTest.ofText? (text : String) : Option FieldTest :=
  match text.splitOn "=" with
  | name :: value :: _ => (ValueTest.ofText? value).map fun test => ⟨name, some test⟩
  | _ => some ⟨text, none⟩

structure Directive where
  target : Option String
  /-- The name of the spans that the directive is about. -/
  span : Option String
  field : Option FieldTest
  threshold : Threshold
  deriving DecidableEq, Repr

inductive DirectiveError where
  | malformed
  /-- A part would begin or end inside a character. -/
  | torn
  deriving DecidableEq, Repr

/-- What is being read of a directive, and where it begins. -/
inductive DirectivePart where
  | nothing
  /-- A target, or a level alone. -/
  | word
  | span (start : Nat)
  | field (start : Nat)
  | closedField
  | closedSpan
  | level (start : Nat)
  deriving DecidableEq, Repr

/-- A character with which a directive may begin. -/
def isTargetStart (c : Char) : Bool := c ∈ ['-', ':', '_'] || Text.isAlphanumeric c

namespace Directive

def ofLevel (level : Level) : Directive := ⟨none, none, none, some level⟩

/-- The part of a text between two byte offsets. -/
def cut (text : List Char) (start stop : Nat) : Except DirectiveError String :=
  match Utf8.slice? ⟨start, stop⟩ text with
  | some part => .ok (String.ofList part)
  | none => .error .torn

/-- Takes one character at an offset into a directive that has been read so far. -/
def step (text : List Char) (d : Directive) (part : DirectivePart) (place : Nat) (c : Char) :
    Except DirectiveError (Directive × DirectivePart) :=
  match part, c with
  | .nothing, '[' => .ok (d, .span (place + 1))
  | .nothing, c => if isTargetStart c then .ok (d, .word) else .error .malformed
  | .word, '=' => do return ({ d with target := some (← cut text 0 place) }, .level (place + 1))
  | .word, '[' => do return ({ d with target := some (← cut text 0 place) }, .span (place + 1))
  | .span start, ']' => do return ({ d with span := some (← cut text start place) }, .closedSpan)
  | .span start, '\x7b' => do
    let name ← cut text start place
    return ({ d with span := if name.isEmpty then none else some name }, .field (place + 1))
  | .field start, '\x7d' => do
    let written ← cut text start place
    match if written.isEmpty then none else FieldTest.ofText? written with
    | some field => return ({ d with field := some field }, .closedField)
    | none => .error .malformed
  | .closedField, ']' => .ok (d, .closedSpan)
  | .closedField, _ => .error .malformed
  | .closedSpan, '=' => .ok (d, .level (place + 1))
  | .closedSpan, _ => .error .malformed
  | part, _ => .ok (d, part)

/-- Takes the characters from an offset on. -/
def steps (text : List Char) (d : Directive) (part : DirectivePart) (place : Nat) :
    List Char → Except DirectiveError (Directive × DirectivePart)
  | [] => .ok (d, part)
  | c :: rest => do
    let (d, part) ← step text d part place c
    steps text d part (place + c.utf8Size) rest

/-- Ends a directive with the part that is being read. -/
def finish (text : List Char) (d : Directive) (part : DirectivePart) :
    Except DirectiveError Directive :=
  match part with
  | .word =>
    let word := String.ofList text
    match Threshold.ofText? word with
    | some threshold => .ok { d with threshold := threshold }
    | none => .ok { d with target := some word }
  | .closedSpan => .ok d
  | .level start => do
    let written ← cut text start (Utf8.width text)
    if written.isEmpty then return d
    match Threshold.ofText? written with
    | some threshold => return { d with threshold := threshold }
    | none => .error .malformed
  | _ => .error .malformed

/-- Reads one directive. -/
def ofText (text : String) : Except DirectiveError Directive := do
  let (d, part) ←
    steps text.toList ⟨none, none, none, some .trace⟩ .nothing 0 (Text.trimChars text.toList)
  finish text.toList d part

/-- Whether a directive is bound to the spans that are open. -/
def isBound (d : Directive) : Bool := d.span.isSome || d.field.isSome

/-- Whether a directive can be decided for an event without knowing the spans that are open. -/
def isFixed (d : Directive) : Bool := d.span.isNone && d.field.all (·.value.isNone)

/-- Whether a directive asks for the value of a field. -/
def hasValue (d : Directive) : Bool := d.field.any (·.value.isSome)

/-- Whether two directives differ in their thresholds at most. -/
def replaces (d other : Directive) : Bool :=
  d.target = other.target && d.span = other.span && d.field = other.field

/-- Whether a directive is about what a component reports. -/
def covers (d : Directive) (component : Component) : Bool :=
  d.target.all fun t => t.toList.isPrefixOf component.target.toList

/-- Whether a directive is about an event. -/
def coversEvent (d : Directive) (event : Event) : Bool :=
  d.covers event.component && d.field.all (·.name ∈ event.fieldNames)

/-- Whether a directive is about the spans of requests. -/
def coversSpans (d : Directive) : Bool :=
  d.covers Span.component && d.span.all (· = Span.name) && d.field.all (·.name ∈ Span.fieldNames)

/-- Whether a span has the value that a directive asks for.  Values count that are known when the span
opens. -/
def admits (d : Directive) (span : Span) : Bool :=
  d.field.all fun field => field.value.all fun test => (span.text? field.name).any test.accepts

/-- A directive with a longer target outranks one with a shorter target; then one with a field outranks one
without, and a greater name a smaller one. -/
def outranks (d other : Directive) : Bool :=
  let length := fun (d : Directive) => (d.target.map fun t => t.length + 1).getD 0
  length other < length d ||
    (length other = length d &&
      match d.field, other.field with
      | some _, none => true
      | some a, some b => b.name < a.name
      | none, _ => false)

end Directive

end RequestDispatch
