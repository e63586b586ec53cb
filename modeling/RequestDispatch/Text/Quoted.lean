import RequestDispatch.Text.Mark

/-!
# Quoted text for diagnostics

A text between double quotes in which every character that a reader could miss or misread is written
as an escape: quotes, backslashes, controls, invisible characters and combining marks.
-/

namespace RequestDispatch.Text

/-- Digits of a number in base sixteen, most significant first, lower case. -/
def hexDigits (n : Nat) : List Char :=
  (Nat.toDigits 16 n)

/-- `\u` with the code point in braces. -/
def codePointEscape (c : Char) : List Char :=
  ['\\', 'u', '\x7b'] ++ hexDigits c.toNat ++ ['\x7d']

/-- The written form of one character between the quotes. -/
def quoteChar (c : Char) : List Char :=
  match c with
  | '"' => ['\\', '"']
  | '\\' => ['\\', '\\']
  | '\n' => ['\\', 'n']
  | '\r' => ['\\', 'r']
  | '\t' => ['\\', 't']
  | '\x00' => ['\\', '0']
  | c => if isInvisible c || isMark c then codePointEscape c else [c]

def quoteChars (cs : List Char) : List Char :=
  '"' :: (cs.flatMap quoteChar ++ ['"'])

def quoted (s : String) : String :=
  String.ofList (quoteChars s.toList)

end RequestDispatch.Text
