import RequestDispatch.Text.Number
import RequestDispatch.Yaml.Place

/-!
# YAML scalars

Reading the text of a plain, a quoted and a block scalar.  Each reader is one pass over the characters
and returns the text with the cursor behind it.

Inside plain and quoted scalars line breaks fold: one becomes a space, and of more the first is dropped
(`Gap.text`).  A block scalar ends with the first line that is indented less than its text.
-/

namespace RequestDispatch.Yaml

/-- What stands between two words of a scalar. -/
inductive Gap where
  /-- Spaces and tabs on one line. -/
  | spaces (text : List Char)
  /-- A line break and those that follow it; the first is missing where it was escaped. -/
  | lines (first : Option Char) (more : List Char)
  deriving DecidableEq, Repr

namespace Gap

def nothing : Gap := .spaces []

def isNothing : Gap → Bool
  | .spaces [] => true
  | _ => false

def isLines : Gap → Bool
  | .lines .. => true
  | _ => false

/-- Spaces count on a line on which words stand before them. -/
def addSpace (c : Char) : Gap → Gap
  | .spaces text => .spaces (text ++ [c])
  | .lines first more => .lines first more

/-- A line break takes the place of the spaces before it. -/
def addBreak (c : Char) : Gap → Gap
  | .spaces _ => .lines (some c) []
  | .lines first more => .lines first (more ++ [c])

/-- What the gap means when more text follows. -/
def text : Gap → List Char
  | .spaces text => text
  | .lines (some '\n') [] => [' ']
  | .lines (some '\n') more => more
  | .lines first more => first.toList ++ more

end Gap

/-- A colon that would end a word of a flow collection but stands too close to what follows. -/
def isClingingColon (c : Char) (rest : List Char) : Bool :=
  c == ':' && rest.head?.any fun d => isFlowMark d || d == '?'

/-- A plain scalar from a place where `gap` has been read, with the flag that its last line has ended.
It goes on over the lines that are indented at least to `floor`, and over all lines between flow
brackets. -/
def plain (flow : Bool) (floor : Nat) : Gap → Place → List Char → Option (List Char × Bool × Cursor)
  | gap, place, [] => some ([], gap.isLines, ⟨place, []⟩)
  | gap, place, c :: rest =>
    if isSpace c then
      if c = '\t' && gap.isLines && place.column < floor then none
      else plain flow floor (gap.addSpace c) (place.after c) rest
    else if isBreak c then plain flow floor (gap.addBreak c) (place.after c) rest
    else
      let outside := !gap.isNothing &&
        (c = '#' || (!flow && place.column < floor) || atMarker place.column (c :: rest))
      if !outside && flow && isClingingColon c rest then none
      else if outside || (c = ':' && endsWord rest) || (flow && isFlowMark c) then
        some ([], gap.isLines, ⟨place, c :: rest⟩)
      else
        (plain flow floor .nothing (place.after c) rest).map fun (text, ended, k) =>
          (gap.text ++ c :: text, ended, k)

/-- The character of an escape that needs no digits. -/
def escaped? (c : Char) : Option Char :=
  match c with
  | '0' => some '\x00'
  | 'a' => some '\x07'
  | 'b' => some '\x08'
  | 't' => some '\t'
  | '\t' => some '\t'
  | 'n' => some '\n'
  | 'v' => some '\x0b'
  | 'f' => some '\x0c'
  | 'r' => some '\r'
  | 'e' => some '\x1b'
  | ' ' => some ' '
  | '"' => some '"'
  | '/' => some '/'
  | '\\' => some '\\'
  | 'N' => some '\u0085'
  | '_' => some '\u00a0'
  | 'L' => some '\u2028'
  | 'P' => some '\u2029'
  | _ => none

/-- The number of hexadecimal digits that an escape takes. -/
def escapeDigits? (c : Char) : Option Nat :=
  match c with
  | 'x' => some 2
  | 'u' => some 4
  | 'U' => some 8
  | _ => none

/-- What is being read of a quoted scalar. -/
inductive Quoting where
  | text (gap : Gap)
  /-- The character after a backslash. -/
  | escape
  /-- The digits of an escape: how many are left, and the value so far. -/
  | digits (left value : Nat)
  /-- What follows a single quote: another one, or anything else where the quote was the last one. -/
  | quote (gap : Gap)
  deriving DecidableEq, Repr

/-- A quoted scalar up to its closing quote.  The opening one has been read. -/
def quoted (double : Bool) : Quoting → Place → List Char → Option (List Char × Cursor)
  | .quote gap, place, [] => some (gap.text, ⟨place, []⟩)
  | _, _, [] => none
  | .quote gap, place, c :: rest =>
    if c = '\'' then put gap c (quoted double (.text .nothing) (place.after c) rest)
    else some (gap.text, ⟨place, c :: rest⟩)
  | .escape, place, c :: rest =>
    if isBreak c then quoted double (.text (.lines none [])) (place.after c) rest
    else match escapeDigits? c with
      | some count => quoted double (.digits count 0) (place.after c) rest
      | none => (escaped? c).bind fun e =>
        put .nothing e (quoted double (.text .nothing) (place.after c) rest)
  | .digits left value, place, c :: rest =>
    (Text.digitValue? 16 c).bind fun digit =>
      let value := 16 * value + digit
      if 1 < left then quoted double (.digits (left - 1) value) (place.after c) rest
      else if value.isValidChar then
        put .nothing (Char.ofNat value) (quoted double (.text .nothing) (place.after c) rest)
      else none
  | .text gap, place, c :: rest =>
    if isSpace c then quoted double (.text (gap.addSpace c)) (place.after c) rest
    else if isBreak c then quoted double (.text (gap.addBreak c)) (place.after c) rest
    else if atMarker place.column (c :: rest) then none
    else if !double && c = '\'' then quoted double (.quote gap) (place.after c) rest
    else if double && c = '"' then some (gap.text, ⟨place.after c, rest⟩)
    else if double && c = '\\' then
      (quoted double .escape (place.after c) rest).map fun (text, k) => (gap.text ++ text, k)
    else put gap c (quoted double (.text .nothing) (place.after c) rest)
where
  put (gap : Gap) (c : Char) (more : Option (List Char × Cursor)) : Option (List Char × Cursor) :=
    more.map fun (text, k) => (gap.text ++ c :: text, k)

/-- What becomes of the line breaks at the end of a block scalar. -/
inductive Chomping where
  | strip
  | clip
  | keep
  deriving DecidableEq, Repr

/-- The indicators of a block scalar: chomping and indentation in either order, where an indentation of
zero stands for none. -/
def blockIndicators? (cs : List Char) : Option (Chomping × Nat × List Char) :=
  let (early, cs) := chomping cs
  match cs with
  | c :: rest =>
    if c = '0' then none
    else if c.isDigit then
      let (late, rest) := if early.isSome then (none, rest) else chomping rest
      some (((early.or late).getD .clip), c.toNat - '0'.toNat, rest)
    else some (early.getD .clip, 0, c :: rest)
  | [] => some (early.getD .clip, 0, [])
where
  chomping (cs : List Char) : Option Chomping × List Char :=
    match cs with
    | '+' :: rest => (some .keep, rest)
    | '-' :: rest => (some .strip, rest)
    | _ => (none, cs)

/-- What stands between two lines of a block scalar. -/
structure Pause where
  /-- The break of the line before; there is none before the first line. -/
  first : Option Char
  /-- The breaks of the empty lines after it. -/
  more : List Char
  /-- Whether the line before begins with a space or a tab. -/
  indented : Bool
  deriving DecidableEq, Repr

namespace Pause

def start : Pause := ⟨none, [], false⟩

/-- What the pause means before a further line.  A folded scalar joins two lines that begin with a
word. -/
def text (p : Pause) (literal indented : Bool) : List Char :=
  if !literal && p.first == some '\n' && !p.indented && !indented then
    if p.more.isEmpty then [' '] else p.more
  else p.first.toList ++ p.more

/-- What the pause means at the end of the scalar. -/
def ending (p : Pause) : Chomping → List Char
  | .strip => []
  | .clip => p.first.toList
  | .keep => p.first.toList ++ p.more

end Pause

structure BlockStyle where
  literal : Bool
  chomping : Chomping
  /-- The least indentation that the text may have where it decides itself. -/
  least : Nat
  deriving DecidableEq, Repr

/-- What is being read of a block scalar. -/
inductive BlockPart where
  /-- The indentation of a line, with the greatest one seen so far. -/
  | margin (widest : Nat) (pause : Pause)
  /-- The inside of a line, which began with a space or a tab or did not. -/
  | line (indented : Bool)
  deriving DecidableEq, Repr

/-- A block scalar from the line after its indicators.  The first line that is not empty decides on the
indentation where it is not given. -/
def block (style : BlockStyle) :
    Option Nat → BlockPart → Place → List Char → Option (List Char × Cursor)
  | _, .margin _ pause, place, [] => some (pause.ending style.chomping, ⟨place, []⟩)
  | _, .line _, place, [] => some ([], ⟨place, []⟩)
  | indent, .line indented, place, c :: rest =>
    if isBreak c then block style indent (.margin 0 ⟨some c, [], indented⟩) (place.after c) rest
    else (block style indent (.line indented) (place.after c) rest).map fun (text, k) =>
      (c :: text, k)
  | indent, .margin widest pause, place, c :: rest =>
    let inMargin := indent.all (place.column < ·)
    if c = ' ' && inMargin then block style indent (.margin widest pause) (place.after c) rest
    else
      let widest := max widest place.column
      if c = '\t' && inMargin then none
      else if isBreak c then
        block style indent (.margin widest { pause with more := pause.more ++ [c] })
          (place.after c) rest
      else
        let decided := indent.getD (max widest style.least)
        if place.column = decided then
          (block style (some decided) (.line (isSpace c)) (place.after c) rest).map fun (text, k) =>
            (pause.text style.literal (isSpace c) ++ c :: text, k)
        else some (pause.ending style.chomping, ⟨place, c :: rest⟩)

end RequestDispatch.Yaml
