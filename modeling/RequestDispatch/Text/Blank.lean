/-!
# Blank characters and trimming

The characters of the Unicode property `White_Space`, and the removal of a blank margin from both
ends of a text.  Letter case is changed in the ASCII range only.
-/

namespace RequestDispatch.Text

/-- A character with the Unicode property `White_Space`. -/
def isBlank (c : Char) : Bool :=
  let n := c.toNat
  (9 ≤ n && n ≤ 13) || n == 0x20 || n == 0x85 || n == 0xA0 || n == 0x1680 ||
    (0x2000 ≤ n && n ≤ 0x200A) || n == 0x2028 || n == 0x2029 || n == 0x202F || n == 0x205F ||
    n == 0x3000

/-- Blank characters at the end are dropped. -/
def trimEnd (cs : List Char) : List Char :=
  (cs.reverse.dropWhile isBlank).reverse

/-- Blank characters at both ends are dropped. -/
def trimChars (cs : List Char) : List Char :=
  trimEnd (cs.dropWhile isBlank)

def trim (s : String) : String :=
  String.ofList (trimChars s.toList)

/-- Every ASCII letter in upper case; all other characters stay. -/
def upper (s : String) : String :=
  String.ofList (s.toList.map Char.toUpper)

/-- Every ASCII letter in lower case; all other characters stay. -/
def lower (s : String) : String :=
  String.ofList (s.toList.map Char.toLower)

end RequestDispatch.Text
