import RequestDispatch.Text.Alphanumeric
import RequestDispatch.Text.Blank

/-!
# Patterns

Regular expressions without captures, and the match that is preferred in a text: the earliest start
first, then the earlier alternative, and a repetition takes as many rounds as it can unless it is lazy.

A place is the number of characters before it.  A pattern is read as a table (`Ends`) that gives for each
place the places where a match from there may end, the preferred one first.  The table of a compound
pattern is computed from the tables of its parts, so the work is bounded by the length of the text.
-/

namespace RequestDispatch.Text

/-- The characters inside some ranges of code points, or those outside. -/
structure CharSet where
  ranges : List (Nat × Nat)
  negated : Bool
  deriving DecidableEq, Repr

namespace CharSet

def contains (s : CharSet) (c : Char) : Bool := within s.ranges c != s.negated

def single (c : Char) : CharSet := ⟨[(c.toNat, c.toNat)], false⟩

/-- The ASCII digits. -/
def digits : CharSet := ⟨[(0x30, 0x39)], false⟩

/-- Letters, numbers and the low line. -/
def word : CharSet := ⟨(0x5F, 0x5F) :: alphanumericRanges, false⟩

/-- The characters of the property `White_Space`. -/
def blank : CharSet where
  ranges :=
    [(0x09, 0x0D), (0x20, 0x20), (0x85, 0x85), (0xA0, 0xA0), (0x1680, 0x1680), (0x2000, 0x200A),
     (0x2028, 0x2029), (0x202F, 0x202F), (0x205F, 0x205F), (0x3000, 0x3000)]
  negated := false

/-- All characters but the line feed. -/
def inLine : CharSet := ⟨[(0x0A, 0x0A)], true⟩

def complement (s : CharSet) : CharSet := { s with negated := !s.negated }

end CharSet

inductive Pattern where
  | nothing
  /-- One character of any of the sets, or one of none of them. -/
  | one (sets : List CharSet) (negated : Bool)
  | textStart
  | textEnd
  | seq (first second : Pattern)
  /-- The first alternative is preferred. -/
  | either (first second : Pattern)
  /-- Any number of rounds; a greedy pattern prefers one more. -/
  | many (greedy : Bool) (round : Pattern)
  deriving DecidableEq, Repr

/-- For each place the ends of the matches from there, the preferred one first. -/
abbrev Ends := Array (List Nat)

namespace Ends

def reached (ends : Ends) (place : Nat) : List Nat := ends.getD place []

/-- A table over the places of a text. -/
def tabulate (text : Array Char) (f : Nat → List Nat) : Ends :=
  ((List.range (text.size + 1)).map f).toArray

/-- The ends of repeated rounds.  The tables of later places are known when a place is reached, and a
round that takes nothing is the last. -/
def repeated (greedy : Bool) (text : Array Char) (round : Ends) : Ends :=
  ((List.range (text.size + 1)).foldr
    (fun place later =>
      let further := (round.reached place).flatMap fun next =>
        if next ≤ place then [place] else later.getD (next - place - 1) []
      (if greedy then further ++ [place] else place :: further).eraseDups :: later)
    []).toArray

end Ends

namespace Pattern

def literal (c : Char) : Pattern := .one [.single c] false

def ends (text : Array Char) : Pattern → Ends
  | .nothing => .tabulate text fun place => [place]
  | .one sets negated => .tabulate text fun place =>
    if text[place]?.any fun c => (sets.any (·.contains c)) != negated then [place + 1] else []
  | .textStart => .tabulate text fun place => if place = 0 then [0] else []
  | .textEnd => .tabulate text fun place => if place = text.size then [place] else []
  | .seq first second =>
    let head := ends text first
    let tail := ends text second
    .tabulate text fun place => ((head.reached place).flatMap tail.reached).eraseDups
  | .either first second =>
    let left := ends text first
    let right := ends text second
    .tabulate text fun place => (left.reached place ++ right.reached place).eraseDups
  | .many greedy round => (ends text round).repeated greedy text

/-- Whether the preferred match in a text ends where the text ends. -/
def reachesEnd (p : Pattern) (text : String) : Bool :=
  let chars := text.toList.toArray
  (((ends chars p).toList.filterMap List.head?).head?).any (· == chars.size)

end Pattern

/-- A character of a written pattern, where an escape counts as one. -/
inductive Glyph where
  | plain (c : Char)
  | escaped (c : Char)
  | set (s : CharSet)
  | place (p : Pattern)
  deriving DecidableEq, Repr

namespace Glyph

/-- What a letter or mark means behind a backslash. -/
def ofEscape? (c : Char) : Option Glyph :=
  match c with
  | 'd' => some (.set .digits)
  | 'D' => some (.set CharSet.digits.complement)
  | 'w' => some (.set .word)
  | 'W' => some (.set CharSet.word.complement)
  | 's' => some (.set .blank)
  | 'S' => some (.set CharSet.blank.complement)
  | 'A' => some (.place .textStart)
  | 'z' => some (.place .textEnd)
  | 'a' => some (.escaped '\x07')
  | 'f' => some (.escaped '\x0c')
  | 't' => some (.escaped '\t')
  | 'n' => some (.escaped '\n')
  | 'r' => some (.escaped '\r')
  | 'v' => some (.escaped '\x0b')
  | c =>
    if 0x20 < c.toNat && c.toNat < 0x7F && !c.isAlphanum && c != '<' && c != '>' then
      some (.escaped c)
    else none

def ofChars? : List Char → Option (List Glyph)
  | [] => some []
  | '\\' :: c :: rest => do return (← ofEscape? c) :: (← ofChars? rest)
  | ['\\'] => none
  | c :: rest => (ofChars? rest).map (.plain c :: ·)

/-- The character that a glyph inside brackets stands for. -/
def char? : Glyph → Option Char
  | .plain c | .escaped c => some c
  | _ => none

/-- The sets that a glyph adds inside brackets. -/
def sets : Glyph → List CharSet
  | .plain c | .escaped c => [.single c]
  | .set s => [s]
  | .place _ => []

end Glyph

/-- What stands inside brackets so far. -/
structure Bracket where
  negated : Bool
  sets : List CharSet
  deriving DecidableEq, Repr

namespace Bracket

def add (b : Bracket) (g : Glyph) : Bracket := { b with sets := g.sets ++ b.sets }

def addRange? (b : Bracket) (low high : Char) : Option Bracket :=
  if low ≤ high then some { b with sets := ⟨[(low.toNat, high.toNat)], false⟩ :: b.sets } else none

/-- The pattern between brackets. -/
def pattern (b : Bracket) : Pattern := .one b.sets b.negated

end Bracket

/-- The parts of a pattern. -/
inductive PatternToken where
  | atom (p : Pattern)
  /-- What becomes of the part before. -/
  | zeroOrMore (greedy : Bool)
  | oneOrMore (greedy : Bool)
  | optional (greedy : Bool)
  | opened
  | closed
  | bar
  deriving DecidableEq, Repr

namespace PatternToken

/-- The parts of a written pattern, from inside brackets where some are open.  Counted repetition, sets
inside sets and flags are not among them. -/
def ofGlyphs? : Option Bracket → List Glyph → Option (List PatternToken)
  | none, [] => some []
  | some _, [] => none
  | none, .plain '*' :: .plain '?' :: rest => (ofGlyphs? none rest).map (.zeroOrMore false :: ·)
  | none, .plain '*' :: rest => (ofGlyphs? none rest).map (.zeroOrMore true :: ·)
  | none, .plain '+' :: .plain '?' :: rest => (ofGlyphs? none rest).map (.oneOrMore false :: ·)
  | none, .plain '+' :: rest => (ofGlyphs? none rest).map (.oneOrMore true :: ·)
  | none, .plain '?' :: .plain '?' :: rest => (ofGlyphs? none rest).map (.optional false :: ·)
  | none, .plain '?' :: rest => (ofGlyphs? none rest).map (.optional true :: ·)
  | none, .plain '(' :: .plain '?' :: .plain ':' :: rest => (ofGlyphs? none rest).map (.opened :: ·)
  | none, .plain '(' :: .plain '?' :: _ => none
  | none, .plain '(' :: rest => (ofGlyphs? none rest).map (.opened :: ·)
  | none, .plain ')' :: rest => (ofGlyphs? none rest).map (.closed :: ·)
  | none, .plain '|' :: rest => (ofGlyphs? none rest).map (.bar :: ·)
  | none, .plain '[' :: .plain '^' :: rest => ofGlyphs? (some ⟨true, []⟩) rest
  | none, .plain '[' :: rest => ofGlyphs? (some ⟨false, []⟩) rest
  | none, .plain '\x7b' :: _ => none
  | none, .plain '.' :: rest => (ofGlyphs? none rest).map (.atom (.one [.inLine] false) :: ·)
  | none, .plain '^' :: rest => (ofGlyphs? none rest).map (.atom .textStart :: ·)
  | none, .plain '$' :: rest => (ofGlyphs? none rest).map (.atom .textEnd :: ·)
  | none, .plain c :: rest | none, .escaped c :: rest =>
    (ofGlyphs? none rest).map (.atom (.literal c) :: ·)
  | none, .set s :: rest => (ofGlyphs? none rest).map (.atom (.one [s] false) :: ·)
  | none, .place p :: rest => (ofGlyphs? none rest).map (.atom p :: ·)
  | some b, .plain ']' :: rest =>
    if b.sets.isEmpty then ofGlyphs? (some (b.add (.plain ']'))) rest
    else (ofGlyphs? none rest).map (.atom b.pattern :: ·)
  | some _, .plain '[' :: _ => none
  | some _, .plain '&' :: .plain '&' :: _ => none
  | some _, .plain '-' :: .plain '-' :: _ => none
  | some _, .plain '~' :: .plain '~' :: _ => none
  | some _, .place _ :: _ => none
  | some b, last :: .plain '-' :: .plain ']' :: rest =>
    (ofGlyphs? none rest).map (.atom ((b.add last).add (.plain '-')).pattern :: ·)
  | some b, low :: .plain '-' :: high :: rest => do
    ofGlyphs? (← b.addRange? (← low.char?) (← high.char?)) rest
  | some b, g :: rest => ofGlyphs? (some (b.add g)) rest

end PatternToken

/-- An open group: the alternatives that are complete, and the parts of the current one, the latest
first. -/
structure Group where
  before : Option Pattern
  parts : List Pattern
  deriving DecidableEq, Repr

namespace Group

def empty : Group := ⟨none, []⟩

def add (g : Group) (p : Pattern) : Group := { g with parts := p :: g.parts }

/-- All alternatives of a group. -/
def pattern (g : Group) : Pattern :=
  let current := g.parts.foldl (fun tail part => .seq part tail) .nothing
  match g.before with
  | none => current
  | some earlier => .either earlier current

/-- Puts something in place of the last part. -/
def change? (g : Group) (f : Pattern → Pattern) : Option Group :=
  match g.parts with
  | [] => none
  | p :: earlier => some { g with parts := f p :: earlier }

end Group

namespace Pattern

/-- Either the first or the second, as preferred. -/
def prefer (first : Bool) (p q : Pattern) : Pattern := if first then .either p q else .either q p

/-- Takes one token into the open groups, of which the innermost is `g`. -/
def place? (g : Group) (outer : List Group) : PatternToken → Option (Group × List Group)
  | .atom p => some (g.add p, outer)
  | .zeroOrMore greedy => (g.change? (.many greedy)).map (·, outer)
  | .oneOrMore greedy => (g.change? fun p => .seq p (.many greedy p)).map (·, outer)
  | .optional greedy => (g.change? fun p => prefer greedy p .nothing).map (·, outer)
  | .opened => some (.empty, g :: outer)
  | .closed =>
    match outer with
    | [] => none
    | around :: further => some (around.add g.pattern, further)
  | .bar => some (⟨some g.pattern, []⟩, outer)

/-- Reads a pattern. -/
def ofText? (text : String) : Option Pattern := do
  let tokens ← PatternToken.ofGlyphs? none (← Glyph.ofChars? text.toList)
  let (g, outer) ← tokens.foldlM (fun (g, outer) t => place? g outer t) (Group.empty, [])
  if outer.isEmpty then some g.pattern else none

end Pattern

end RequestDispatch.Text
