/-!
# JSON values and their text

Values with integer numbers only.  `render` writes a value without blanks and `pretty` with an
indentation of two spaces; both write the fields of an object in the order in which it holds them,
and `Json.object` puts them in ascending order of their names.  A text is escaped only where JSON
demands it.
-/

namespace RequestDispatch

inductive Json where
  | null
  | bool (value : Bool)
  | num (value : Int)
  | str (text : String)
  | arr (items : List Json)
  | obj (fields : List (String × Json))
  deriving Repr

namespace Json

/-- Sets one field and keeps the names in ascending order. -/
def setField (name : String) (value : Json) : List (String × Json) → List (String × Json)
  | [] => [(name, value)]
  | (n, v) :: rest =>
    if name < n then (name, value) :: (n, v) :: rest
    else if name = n then (name, value) :: rest
    else (n, v) :: setField name value rest

/-- An object with its fields in ascending order; of two fields with one name the later counts. -/
def object (fields : List (String × Json)) : Json :=
  .obj (fields.foldl (fun acc field => setField field.1 field.2 acc) [])

/-- The same object with one field set; any other value stays. -/
def withField (object : Json) (name : String) (value : Json) : Json :=
  match object with
  | .obj fields => .obj (setField name value fields)
  | other => other

/-- The names of the fields of an object; any other value has none. -/
def names : Json → List String
  | .obj fields => fields.map Prod.fst
  | _ => []

def nat (n : Nat) : Json := .num n

def strings (items : List String) : Json := .arr (items.map .str)

/-- A string, or null where there is none. -/
def optional : Option String → Json
  | some s => .str s
  | none => .null

/-- Digits of a byte in base sixteen, lower case. -/
def hexPair (n : Nat) : List Char :=
  [Nat.digitChar (n / 16), Nat.digitChar (n % 16)]

/-- The written form of one character of a text. -/
def escapeChar (c : Char) : List Char :=
  match c with
  | '"' => ['\\', '"']
  | '\\' => ['\\', '\\']
  | '\n' => ['\\', 'n']
  | '\r' => ['\\', 'r']
  | '\t' => ['\\', 't']
  | '\x08' => ['\\', 'b']
  | '\x0c' => ['\\', 'f']
  | c => if c.toNat < 0x20 then ['\\', 'u', '0', '0'] ++ hexPair c.toNat else [c]

def escape (cs : List Char) : List Char :=
  cs.flatMap escapeChar

def quote (s : String) : List Char :=
  '"' :: (escape s.toList ++ ['"'])

def intText (n : Int) : List Char :=
  match n with
  | .ofNat n => Nat.toDigits 10 n
  | .negSucc n => '-' :: Nat.toDigits 10 (n + 1)

mutual

/-- The text of a value without blanks. -/
def chars : Json → List Char
  | .null => ['n', 'u', 'l', 'l']
  | .bool true => ['t', 'r', 'u', 'e']
  | .bool false => ['f', 'a', 'l', 's', 'e']
  | .num n => intText n
  | .str s => quote s
  | .arr items => '[' :: (itemChars items ++ [']'])
  | .obj fields => '\x7b' :: (fieldChars fields ++ ['\x7d'])

def itemChars : List Json → List Char
  | [] => []
  | [item] => chars item
  | item :: rest => chars item ++ ',' :: itemChars rest

def fieldChars : List (String × Json) → List Char
  | [] => []
  | [(name, value)] => quote name ++ ':' :: chars value
  | (name, value) :: rest => quote name ++ ':' :: (chars value ++ ',' :: fieldChars rest)

end

def render (j : Json) : String := String.ofList (chars j)

/-- A line break and the indentation of a nesting depth. -/
def lineBreak (depth : Nat) : List Char :=
  '\n' :: List.replicate (2 * depth) ' '

mutual

/-- The text of a value whose items and fields stand on lines of their own at `depth + 1`; an empty
list or object stays on its line. -/
def prettyChars (depth : Nat) : Json → List Char
  | .arr [] => ['[', ']']
  | .arr items => '[' :: (prettyItems (depth + 1) items ++ lineBreak depth ++ [']'])
  | .obj [] => ['\x7b', '\x7d']
  | .obj fields => '\x7b' :: (prettyFields (depth + 1) fields ++ lineBreak depth ++ ['\x7d'])
  | scalar => chars scalar

def prettyItems (depth : Nat) : List Json → List Char
  | [] => []
  | [item] => lineBreak depth ++ prettyChars depth item
  | item :: rest => lineBreak depth ++ (prettyChars depth item ++ ',' :: prettyItems depth rest)

def prettyFields (depth : Nat) : List (String × Json) → List Char
  | [] => []
  | [(name, value)] => lineBreak depth ++ (quote name ++ ':' :: ' ' :: prettyChars depth value)
  | (name, value) :: rest =>
    lineBreak depth ++
      (quote name ++ ':' :: ' ' :: (prettyChars depth value ++ ',' :: prettyFields depth rest))

end

def pretty (j : Json) : String := String.ofList (prettyChars 0 j)

end Json

end RequestDispatch
