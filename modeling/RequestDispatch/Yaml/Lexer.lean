import RequestDispatch.Yaml.Token

/-!
# Dividing a YAML text into tokens

A `Lexer` reads token after token.  Block collections are marked by the column of their first key or
dash, and a column to the left of it ends them.  That something is a key shows only at the colon behind
it, so the lexer remembers where a key may have begun (`KeySpot`) and puts the marks of the key there
once the colon comes.  Such a key stands on one line and takes at most 1024 bytes.
-/

namespace RequestDispatch.Yaml

/-- A place where a key may have begun. -/
structure KeySpot where
  /-- Whether nothing but a key may stand here. -/
  required : Bool
  /-- The number of tokens before it. -/
  index : Nat
  place : Place
  deriving DecidableEq, Repr

/-- A spot is stale on a later line and more than 1024 bytes further on. -/
def KeySpot.isStale (spot : KeySpot) (now : Place) : Bool :=
  spot.place.line < now.line || spot.place.offset + 1024 < now.offset

structure Lexer where
  /-- The tokens so far, the latest first, and their number. -/
  tokens : List Token
  count : Nat
  /-- For each open block collection, innermost first, one more than its column. -/
  floors : List Nat
  /-- The spot of a key on this level of flow brackets, and those of the levels around it. -/
  spot : Option KeySpot
  outer : List (Option KeySpot)
  /-- Whether a key may begin here. -/
  keyAllowed : Bool
  cursor : Cursor

namespace Lexer

def start (cs : List Char) : Lexer := ⟨[], 0, [], none, [], true, ⟨.start, cs⟩⟩

/-- Flow brackets are open. -/
def flow (s : Lexer) : Bool := !s.outer.isEmpty

/-- One more than the column of the innermost block collection; zero outside any. -/
def floor (s : Lexer) : Nat := s.floors.headD 0

def push (s : Lexer) (t : Token) : Lexer := { s with tokens := t :: s.tokens, count := s.count + 1 }

/-- Puts a token before those from an index on. -/
def insert (s : Lexer) (index : Nat) (t : Token) : Lexer :=
  { s with tokens := s.tokens.insertIdx (s.count - index) t, count := s.count + 1 }

/-- Adds a token and goes on behind it. -/
def take (s : Lexer) (t : Token) (rest : List Char) : Lexer :=
  { s.push t with cursor := s.cursor.goTo rest }

/-- Forgets the spot of a key.  A key that has to stand there is missing then. -/
def dropSpot? (s : Lexer) : Option Lexer :=
  if s.spot.any (·.required) then none else some { s with spot := none }

/-- Remembers that a key may begin here. -/
def markSpot? (s : Lexer) : Option Lexer :=
  if !s.keyAllowed then some s
  else
    let place := s.cursor.place
    let required := !s.flow && s.floor == place.column + 1
    (s.dropSpot?).map fun s => { s with spot := some ⟨required, s.count, place⟩ }

/-- Forgets the spots that are stale. -/
def dropStale? (s : Lexer) : Option Lexer :=
  let stale := fun (spot : KeySpot) => spot.isStale s.cursor.place
  if (s.spot :: s.outer).any fun spot => spot.any fun k => k.required && stale k then none
  else
    let keep := fun (spot : Option KeySpot) => spot.filter fun k => !stale k
    some { s with spot := keep s.spot, outer := s.outer.map keep }

/-- Opens a block collection at a column that lies to the right of those open. -/
def openBlock (s : Lexer) (column index : Nat) (t : Token) : Lexer :=
  if s.flow || column < s.floor then s
  else { s.insert index t with floors := (column + 1) :: s.floors }

/-- Ends the block collections whose floor lies above a limit. -/
def closeBlocks (s : Lexer) (limit : Nat) : Lexer :=
  if s.flow then s
  else
    let ended := s.floors.takeWhile (limit < ·)
    { s with
      tokens := List.replicate ended.length .blockEnd ++ s.tokens
      count := s.count + ended.length
      floors := s.floors.dropWhile (limit < ·) }

/-- Goes to the next token.  A key may begin on every line of a block, and tabs may stand where none may
begin.  A byte order mark may begin a line. -/
def skip (flow : Bool) : Bool → Bool → Place → List Char → Bool × Cursor
  | _, keyAllowed, place, [] => (keyAllowed, ⟨place, []⟩)
  | comment, keyAllowed, place, c :: rest =>
    if isBreak c then skip flow false (keyAllowed || !flow) (place.after c) rest
    else if comment || c = '#' then skip flow true keyAllowed (place.after c) rest
    else if c = ' ' || (c = '\t' && (flow || !keyAllowed)) ||
        (c = '\uFEFF' && place.column = 0) then
      skip flow false keyAllowed (place.after c) rest
    else (keyAllowed, ⟨place, c :: rest⟩)

/-- Goes to the next token and ends what its column ends. -/
def advance? (s : Lexer) : Option Lexer :=
  let (keyAllowed, k) := skip s.flow false s.keyAllowed s.cursor.place s.cursor.rest
  let s := { s with keyAllowed := keyAllowed, cursor := k }
  (s.dropStale?).map fun s => s.closeBlocks (k.place.column + 1)

/-- Ends all blocks before something that stands outside documents. -/
def leave? (s : Lexer) : Option Lexer :=
  ((s.closeBlocks 0).dropSpot?).map fun s => { s with keyAllowed := false }

def marker? (s : Lexer) : Option Lexer := do
  let t := if s.cursor.rest.head? = some '-' then Token.documentStart else .documentEnd
  return (← s.leave?).take t (s.cursor.rest.drop 3)

def directive? (s : Lexer) : Option Lexer := do
  let s ← s.leave?
  let (t, rest) ← Yaml.directive? (s.cursor.rest.drop 1)
  let k ← finishLine? (s.cursor.goTo rest)
  return { s.push t with cursor := k }

def openFlow? (s : Lexer) (t : Token) (rest : List Char) : Option Lexer := do
  let s ← s.markSpot?
  return { s.take t rest with spot := none, outer := s.spot :: s.outer, keyAllowed := true }

/-- A closing bracket.  One that closes nothing is left to whoever reads the tokens. -/
def closeFlow? (s : Lexer) (t : Token) (rest : List Char) : Option Lexer := do
  let s ← s.dropSpot?
  let s := match s.outer with
    | [] => s
    | spot :: outer => { s with spot := spot, outer := outer }
  return { s.take t rest with keyAllowed := false }

def comma? (s : Lexer) (rest : List Char) : Option Lexer := do
  return { (← s.dropSpot?).take .comma rest with keyAllowed := true }

/-- An indicator that opens a block collection of its own where keys may begin. -/
def indicator? (s : Lexer) (opening t : Token) (rest : List Char) : Option Lexer := do
  if !s.flow && !s.keyAllowed then none
  else return (← (s.openBlock s.cursor.place.column s.count opening).dropSpot?).take t rest

def dash? (s : Lexer) (rest : List Char) : Option Lexer :=
  (s.indicator? .blockListStart .dash rest).map fun s => { s with keyAllowed := true }

def key? (s : Lexer) (rest : List Char) : Option Lexer :=
  (s.indicator? .blockRecordStart .key rest).map fun s => { s with keyAllowed := !s.flow }

/-- A colon.  If a key may have begun before it, the key is marked there. -/
def value? (s : Lexer) (rest : List Char) : Option Lexer :=
  match s.spot with
  | some spot =>
    let s := (s.insert spot.index .key).openBlock spot.place.column spot.index .blockRecordStart
    some { s.take .value rest with spot := none, keyAllowed := false }
  | none =>
    (s.indicator? .blockRecordStart .value rest).map fun s => { s with keyAllowed := !s.flow }

/-- A name, a tag or a quoted scalar: a key may begin with it, and none right behind it. -/
def word? (s : Lexer) (read : Option (Token × List Char)) : Option Lexer := do
  let s ← s.markSpot?
  let (t, rest) ← read
  return { s.take t rest with keyAllowed := false }

def quoted? (s : Lexer) (double : Bool) (k : Cursor) : Option Lexer :=
  s.word? ((quoted double (.text .nothing) k.place k.rest).map fun (text, k) =>
    (.scalar text .quoted, k.rest))

/-- A plain scalar.  A key may begin behind it only on a further line. -/
def plain? (s : Lexer) : Option Lexer := do
  let s ← s.markSpot?
  let k := s.cursor
  let (text, ended, k) ← plain s.flow s.floor .nothing k.place k.rest
  return { s.push (.scalar text .plain) with keyAllowed := ended, cursor := k }

def block? (s : Lexer) (literal : Bool) (rest : List Char) : Option Lexer := do
  let s ← s.dropSpot?
  let (chomping, indentation, rest) ← blockIndicators? rest
  let k ← finishLine? (s.cursor.goTo rest)
  let indent := if indentation = 0 then none else some (s.floor - 1 + indentation)
  let style : BlockStyle := ⟨literal, chomping, max s.floor 1⟩
  let (text, k) ← block style indent (.margin 0 .start) k.place k.rest
  let t : Token := .scalar text (if literal then .literal else .folded)
  return { s.push t with keyAllowed := true, cursor := k }

/-- A plain scalar may begin with a character that is no indicator, or with a hyphen and no space. -/
def startsPlain (c : Char) (rest : List Char) : Bool :=
  if c = '-' then !rest.head?.any isSpace
  else !(isSpace c || isFlowMark c ||
    c ∈ ['#', '&', '*', '!', '|', '>', '\'', '"', '%', '@', '\x60'])

/-- Reads the token that begins with a character. -/
def token? (s : Lexer) (c : Char) (rest : List Char) : Option Lexer :=
  let column := s.cursor.place.column
  if column = 0 && c = '%' then s.directive?
  else if atMarker column (c :: rest) then s.marker?
  else match c with
    | '[' => s.openFlow? .flowListStart rest
    | '\x7b' => s.openFlow? .flowRecordStart rest
    | ']' => s.closeFlow? .flowListEnd rest
    | '\x7d' => s.closeFlow? .flowRecordEnd rest
    | ',' => s.comma? rest
    | '*' => s.word? ((anchorName? rest).map fun (name, rest) => (.reference name, rest))
    | '&' => s.word? ((anchorName? rest).map fun (name, rest) => (.anchor name, rest))
    | '!' => s.word? ((tagName? s.flow rest).map fun (name, rest) => (.tag name, rest))
    | '\'' => s.quoted? false (s.cursor.drop 1)
    | '"' => s.quoted? true (s.cursor.drop 1)
    | _ =>
      if c = '-' && endsWord rest then s.dash? rest
      else if c = '?' && (s.flow || endsWord rest) then s.key? rest
      else if c = ':' && (s.flow || endsWord rest) then s.value? rest
      else if (c = '|' || c = '>') && !s.flow then s.block? (c = '|') rest
      else if startsPlain c rest then s.plain?
      else none

/-- Reads tokens to the end of the text.  Every token takes a character, so the length of the text is
enough of a budget. -/
def run? : Nat → Lexer → Option (List Token)
  | 0, _ => none
  | budget + 1, s => do
    let s ← s.advance?
    match s.cursor.rest with
    | [] => return (← s.leave?).tokens.reverse
    | c :: rest => run? budget (← s.token? c rest)

end Lexer

/-- The tokens of a text; none if it cannot be divided. -/
def tokens? (text : String) : Option (List Token) :=
  let cs := text.toList
  if cs.all isAllowed then Lexer.run? (cs.length + 1) (.start (unifyBreaks cs)) else none

end RequestDispatch.Yaml
