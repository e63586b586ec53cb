import RequestDispatch.Text.Utf8

/-!
# Request identifiers

An identifier is a 128-bit number written as 26 digits in base 32.  The digits are the decimal ones
and the letters without I, L, O and U; reading accepts both cases and keeps the low 128 bits of what
26 digits can hold, writing uses upper case.
-/

namespace RequestDispatch

/-- The number of identifiers, two to the power of 128. -/
def idLimit : Nat := 0x100000000000000000000000000000000

structure Ulid where
  value : Nat
  bound : value < idLimit
  deriving DecidableEq, Repr

namespace Ulid

/-- The low 128 bits of a number. -/
def ofNat (n : Nat) : Ulid :=
  ⟨n % idLimit, Nat.mod_lt _ (by decide)⟩

def nil : Ulid := ofNat 0

/-- Digits in ascending order of their values. -/
def alphabet : List Char :=
  ['0', '1', '2', '3', '4', '5', '6', '7', '8', '9', 'A', 'B', 'C', 'D', 'E', 'F', 'G', 'H', 'J',
   'K', 'M', 'N', 'P', 'Q', 'R', 'S', 'T', 'V', 'W', 'X', 'Y', 'Z']

def digitChar (d : Nat) : Char := alphabet.getD d '0'

def digitValue? (c : Char) : Option Nat := alphabet.idxOf? c.toUpper

/-- The last `count` digits of a number in base 32. -/
def digits : Nat → Nat → List Char
  | 0, _ => []
  | count + 1, n => digits count (n / 32) ++ [digitChar (n % 32)]

/-- Number of digits of a written identifier. -/
def textLength : Nat := 26

def text (id : Ulid) : String := String.ofList (digits textLength id.value)

inductive ReadError where
  | invalidLength
  | invalidCharacter
  deriving DecidableEq, Repr

def ReadError.message : ReadError → String
  | .invalidLength => "invalid length"
  | .invalidCharacter => "invalid character"

/-- The number written by the digits, after `acc` has been read. -/
def readDigits? (acc : Nat) : List Char → Option Nat
  | [] => some acc
  | c :: cs => (digitValue? c).bind fun d => readDigits? (acc * 32 + d) cs

/-- The length is checked before the digits. -/
def parse (s : String) : Except ReadError Ulid :=
  if Utf8.width s.toList ≠ textLength then .error .invalidLength
  else match readDigits? 0 s.toList with
    | some n => .ok (ofNat n)
    | none => .error .invalidCharacter

end Ulid

end RequestDispatch
