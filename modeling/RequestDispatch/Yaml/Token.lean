import RequestDispatch.Config.Document
import RequestDispatch.Yaml.Scalar

/-!
# YAML tokens

The words of which a YAML text consists, and those of them that are read without regard to where they
stand: names of anchors, tags and directives.  The characters of a tag may be written as escaped bytes,
which are kept one character each.
-/

namespace RequestDispatch.Yaml

/-- A tag as written: a handle, which stands for the beginning of the tag, and the rest of it.  A tag
written in full has an empty handle. -/
structure TagName where
  handle : List Char
  suffix : List Char
  deriving DecidableEq, Repr

inductive Token where
  /-- The version of the language that a text asks for. -/
  | version (major minor : Nat)
  /-- The beginning of the tags with a handle. -/
  | tagStem (handle stem : List Char)
  | documentStart
  | documentEnd
  | blockListStart
  | blockRecordStart
  | blockEnd
  | flowListStart
  | flowListEnd
  | flowRecordStart
  | flowRecordEnd
  | dash
  | comma
  | key
  | value
  | reference (name : List Char)
  | anchor (name : List Char)
  | tag (name : TagName)
  | scalar (text : List Char) (style : ScalarStyle)
  deriving DecidableEq, Repr

/-- The name of an anchor and what follows it. -/
def anchorName? (cs : List Char) : Option (List Char × List Char) :=
  let name := cs.takeWhile isNameChar
  let rest := cs.dropWhile isNameChar
  let ends := endsWord rest || rest.head?.any (· ∈ ['?', ':', ',', ']', '\x7d', '%', '@', '\x60'])
  if name.isEmpty || !ends then none else some (name, rest)

/-- A character of a tag.  Commas and square brackets may stand in a tag that is written in full. -/
def isTagChar (full : Bool) (c : Char) : Bool :=
  isNameChar c ||
    c ∈ [';', '/', '?', ':', '@', '&', '=', '+', '$', '.', '!', '~', '*', '\'', '(', ')'] ||
    (full && c ∈ [',', '[', ']'])

/-- How many bytes a UTF-8 sequence has that begins with a byte. -/
def sequenceLength? (byte : Nat) : Option Nat :=
  if byte < 0x80 then some 1
  else if 0xC0 ≤ byte ∧ byte < 0xE0 then some 2
  else if 0xE0 ≤ byte ∧ byte < 0xF0 then some 3
  else if 0xF0 ≤ byte ∧ byte < 0xF8 then some 4
  else none

/-- The characters of a tag.  `owed` is the number of bytes that an escaped sequence still lacks. -/
def tagChars? (full : Bool) : Nat → List Char → Option (List Char × List Char)
  | owed, '%' :: a :: b :: rest => do
    let high ← Text.digitValue? 16 a
    let low ← Text.digitValue? 16 b
    let byte := 16 * high + low
    let owed ← match owed with
      | 0 => (sequenceLength? byte).map (· - 1)
      | n + 1 => if 0x80 ≤ byte ∧ byte < 0xC0 then some n else none
    let (more, rest) ← tagChars? full owed rest
    return (Char.ofNat byte :: more, rest)
  | _ + 1, _ => none
  | 0, '%' :: _ => none
  | 0, c :: rest =>
    if isTagChar full c then (tagChars? full 0 rest).map fun (more, rest) => (c :: more, rest)
    else some ([], c :: rest)
  | 0, [] => some ([], [])

/-- The characters up to an escaped zero byte, which ends a tag early. -/
def untilZero (cs : List Char) : List Char := cs.takeWhile (· ≠ '\x00')

/-- A tag after its exclamation mark: written in full between angle brackets, with a handle of its own, or
with the handle of one exclamation mark.  The mark alone is a tag in full. -/
def tagName? (flow : Bool) (cs : List Char) : Option (TagName × List Char) := do
  let (name, rest) ← match cs with
    | '<' :: rest => do
      let (tag, rest) ← tagChars? true 0 rest
      match tag, rest with
      | _ :: _, '>' :: rest => some (⟨[], untilZero tag⟩, rest)
      | _, _ => none
    | _ => do
      let word := cs.takeWhile isNameChar
      match cs.dropWhile isNameChar with
      | '!' :: rest => do
        let (suffix, rest) ← tagChars? false 0 rest
        if suffix.isEmpty then none
        else some (⟨'!' :: word ++ ['!'], untilZero suffix⟩, rest)
      | rest => do
        let (more, rest) ← tagChars? false 0 rest
        let suffix := untilZero (word ++ more)
        some (if suffix.isEmpty then ⟨[], ['!']⟩ else ⟨['!'], suffix⟩, rest)
  if endsWord rest || (flow && rest.head? == some ',') then some (name, rest) else none

/-- A number of at most nine digits. -/
def versionNumber? (cs : List Char) : Option (Nat × List Char) :=
  let digits := cs.takeWhile Char.isDigit
  if 9 < digits.length then none
  else (Text.numeral? 10 digits).map fun n => (n, cs.dropWhile Char.isDigit)

def versionDirective? (cs : List Char) : Option (Token × List Char) := do
  let (major, rest) ← versionNumber? (cs.dropWhile isSpace)
  match rest with
  | '.' :: rest =>
    let (minor, rest) ← versionNumber? rest
    return (.version major minor, rest)
  | _ => none

/-- A handle and the beginning of the tags that it stands for, with spaces around both. -/
def tagDirective? (cs : List Char) : Option (Token × List Char) := do
  match cs.dropWhile isSpace with
  | '!' :: rest =>
    let word := rest.takeWhile isNameChar
    let (handle, rest) ← match rest.dropWhile isNameChar with
      | '!' :: rest => some ('!' :: word ++ ['!'], rest)
      | rest => if word.isEmpty then some (['!'], rest) else none
    if rest.head?.any isSpace then
      let (stem, rest) ← tagChars? true 0 (rest.dropWhile isSpace)
      if stem.isEmpty || !endsWord rest then none
      else return (.tagStem handle (untilZero stem), rest)
    else none
  | _ => none

/-- A directive after its percent sign. -/
def directive? (cs : List Char) : Option (Token × List Char) :=
  let name := String.ofList (cs.takeWhile isNameChar)
  let rest := cs.dropWhile isNameChar
  if !endsWord rest then none
  else if name = "YAML" then versionDirective? rest
  else if name = "TAG" then tagDirective? rest
  else none

end RequestDispatch.Yaml
