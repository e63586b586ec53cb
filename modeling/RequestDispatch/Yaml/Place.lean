/-!
# Places in a YAML text

Classes of characters, and cursors that know the line and the column of what comes next.  A line ends
at a line feed, which `unifyBreaks` puts for every form of it but the two separators of Unicode.
-/

namespace RequestDispatch.Yaml

/-- A character that may stand in a text. -/
def isAllowed (c : Char) : Bool :=
  let n := c.toNat
  n == 0x09 || n == 0x0A || n == 0x0D || (0x20 ≤ n && n ≤ 0x7E) || n == 0x85 ||
    (0xA0 ≤ n && n ≤ 0xFFFD) || 0x10000 ≤ n

/-- Line breaks of several forms in one form. -/
def unifyBreaks : List Char → List Char
  | [] => []
  | '\r' :: '\n' :: rest => '\n' :: unifyBreaks rest
  | '\r' :: rest => '\n' :: unifyBreaks rest
  | c :: rest => (if c = '\u0085' then '\n' else c) :: unifyBreaks rest

/-- A line feed, a line separator or a paragraph separator. -/
def isBreak (c : Char) : Bool := c == '\n' || c == '\u2028' || c == '\u2029'

/-- A space or a tab. -/
def isSpace (c : Char) : Bool := c == ' ' || c == '\t'

/-- A word ends before a space, a tab, a line break or the end. -/
def endsWord : List Char → Bool
  | [] => true
  | c :: _ => isSpace c || isBreak c

def endsLine : List Char → Bool
  | [] => true
  | c :: _ => isBreak c

/-- A character of a name: an ASCII letter or digit, an underscore or a hyphen. -/
def isNameChar (c : Char) : Bool := c.isAlphanum || c == '_' || c == '-'

/-- A character that has a meaning of its own between flow brackets. -/
def isFlowMark (c : Char) : Bool :=
  c == ',' || c == '[' || c == ']' || c == '\x7b' || c == '\x7d'

/-- Byte offset, line and column, each counted from zero. -/
structure Place where
  offset : Nat
  line : Nat
  column : Nat
  deriving DecidableEq, Repr

namespace Place

def start : Place := ⟨0, 0, 0⟩

/-- The place behind a character. -/
def after (p : Place) (c : Char) : Place :=
  if isBreak c then ⟨p.offset + c.utf8Size, p.line + 1, 0⟩
  else ⟨p.offset + c.utf8Size, p.line, p.column + 1⟩

end Place

/-- What is left of a text and where it begins. -/
structure Cursor where
  place : Place
  rest : List Char
  deriving Repr

namespace Cursor

/-- The cursor after a number of characters. -/
def drop : Nat → Cursor → Cursor
  | n + 1, ⟨place, c :: rest⟩ => drop n ⟨place.after c, rest⟩
  | _, k => k

/-- The cursor at a later part of the same text. -/
def goTo (k : Cursor) (rest : List Char) : Cursor := k.drop (k.rest.length - rest.length)

end Cursor

/-- A document marker stands at the start of a line. -/
def atMarker (column : Nat) (cs : List Char) : Bool :=
  column == 0 &&
    match cs with
    | '-' :: '-' :: '-' :: rest => endsWord rest
    | '.' :: '.' :: '.' :: rest => endsWord rest
    | _ => false

/-- Skips the rest of a line on which only spaces and a comment may stand, and its line break. -/
def finishLine? (k : Cursor) : Option Cursor :=
  match k.rest.dropWhile isSpace with
  | '#' :: rest => some (nextLine (rest.dropWhile fun c => !isBreak c))
  | rest => if endsLine rest then some (nextLine rest) else none
where
  nextLine (rest : List Char) : Cursor := (k.goTo rest).drop 1

end RequestDispatch.Yaml
