/-!
# Numerals

Unsigned 64-bit numerals have one optional plus sign, then digits of the base and nothing else.  Fractions
are only recognized.
-/

namespace RequestDispatch.Text

/-- The least number that no longer fits a machine word, two to the power of 64. -/
def wordLimit : Nat := 0x10000000000000000

/-- The value of a digit in bases up to sixteen. -/
def digitValue? (base : Nat) (c : Char) : Option Nat :=
  let n := c.toNat
  let v :=
    if 48 ≤ n ∧ n ≤ 57 then some (n - 48)
    else if 97 ≤ n ∧ n ≤ 102 then some (n - 87)
    else if 65 ≤ n ∧ n ≤ 70 then some (n - 55)
    else none
  v.filter (· < base)

/-- The number written by the digits, after `acc` has been read. -/
def digits? (base : Nat) (acc : Nat) : List Char → Option Nat
  | [] => some acc
  | c :: cs => (digitValue? base c).bind fun d => digits? base (acc * base + d) cs

/-- A numeral without sign: at least one digit. -/
def numeral? (base : Nat) (cs : List Char) : Option Nat :=
  if cs.isEmpty then none else digits? base 0 cs

/-- A machine word: one plus sign may precede the digits, and the value must fit. -/
def word? (base : Nat) (cs : List Char) : Option Nat :=
  let unsigned := match cs with
    | '+' :: rest => rest
    | _ => cs
  (numeral? base unsigned).filter (· < wordLimit)

/-- What stands behind an optional sign. -/
def unsigned : List Char → List Char
  | '+' :: rest => rest
  | '-' :: rest => rest
  | cs => cs

/-- A decimal fraction: digits with at most one point among them, and perhaps an exponent. -/
def isDecimal (cs : List Char) : Bool :=
  let (whole, rest) := cs.span Char.isDigit
  let (places, rest) := match rest with
    | '.' :: rest => rest.span Char.isDigit
    | rest => ([], rest)
  let exponent := match rest with
    | [] => true
    | c :: power => (c = 'e' || c = 'E') && !(unsigned power).isEmpty && (unsigned power).all Char.isDigit
  !(whole ++ places).isEmpty && exponent

/-- A number of any kind: a decimal fraction, an infinity or no number, with an optional sign. -/
def isNumber (cs : List Char) : Bool :=
  isDecimal (unsigned cs) ||
    String.ofList ((unsigned cs).map Char.toLower) ∈ ["inf", "infinity", "nan"]

end RequestDispatch.Text
