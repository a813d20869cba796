/-
  GasLens/Text/Integer.lean
  =========================
  **Integers as text** — digits in a base, and reading an integer of bounded size.

  A text is read from left to right; the first character that is no digit, or the first digit
  that takes the value past the bound, decides the fault.
-/
import GasLens.Arithmetic

namespace GasLens.Text

/-! ### Bounds -/

/-- The greatest unsigned number of 64 bits. -/
def maxU64 : Nat := 2 ^ 64 - 1

def maxU32 : Nat := 2 ^ 32 - 1

def maxI64 : Nat := 2 ^ 63 - 1

/-! ### Faults -/

/-- Why a text is no integer of the wanted kind. -/
inductive IntegerFault where
  /-- There is no character at all. -/
  | empty
  /-- A character is no digit, or a sign stands alone. -/
  | invalidDigit
  /-- The value is above the bound. -/
  | tooLarge
  /-- The value is below the bound. -/
  | tooSmall
  deriving DecidableEq, Repr

def IntegerFault.message : IntegerFault → String
  | .empty => "cannot parse integer from empty string"
  | .invalidDigit => "invalid digit found in string"
  | .tooLarge => "number too large to fit in target type"
  | .tooSmall => "number too small to fit in target type"

/-! ### Digits -/

/-- The value of a decimal digit or a letter of either case, where letters follow nine. -/
def alphanumericValue? (c : Char) : Option Nat :=
  if '0' ≤ c ∧ c ≤ '9' then some (c.toNat - '0'.toNat)
  else if 'a' ≤ c ∧ c ≤ 'z' then some (c.toNat - 'a'.toNat + 10)
  else if 'A' ≤ c ∧ c ≤ 'Z' then some (c.toNat - 'A'.toNat + 10)
  else none

def digitValue? (base : Nat) (c : Char) : Option Nat :=
  (alphanumericValue? c).filter fun d => decide (d < base)

def isDecimalDigit (c : Char) : Bool := decide ('0' ≤ c) && decide (c ≤ '9')

def decimal (n : Nat) : List Char := Nat.toDigits 10 n

def natText (n : Nat) : String := String.ofList (decimal n)

def intText (n : Int) : String :=
  if n < 0 then String.ofList ('-' :: decimal n.natAbs) else natText n.natAbs

/-! ### Reading -/

/-- Digits in a base, added to the value read so far and held at or below a bound. -/
def readDigits (base bound : Nat) : Nat → List Char → Except IntegerFault Nat
  | value, [] => .ok value
  | value, c :: r =>
    match digitValue? base c with
    | none => .error .invalidDigit
    | some d =>
      if value * base + d ≤ bound then readDigits base bound (value * base + d) r
      else .error .tooLarge

/-- An unsigned number at or below a bound; a plus sign may lead. -/
def readNat (base bound : Nat) : List Char → Except IntegerFault Nat
  | [] => .error .empty
  | ['+'] => .error .invalidDigit
  | '+' :: r => readDigits base bound 0 r
  | cs => readDigits base bound 0 cs

/-- A signed decimal number of 64 bits; a plus or a minus sign may lead. -/
def readInt64 : List Char → Except IntegerFault Int
  | [] => .error .empty
  | ['+'] => .error .invalidDigit
  | ['-'] => .error .invalidDigit
  | '-' :: r =>
    match readDigits 10 (2 ^ 63) 0 r with
    | .ok n => .ok (-(n : Int))
    | .error .tooLarge => .error .tooSmall
    | .error e => .error e
  | '+' :: r => (readDigits 10 maxI64 0 r).map Int.ofNat
  | cs => (readDigits 10 maxI64 0 cs).map Int.ofNat

def readU64 (s : String) : Except IntegerFault Nat := readNat 10 maxU64 s.toList

end GasLens.Text
