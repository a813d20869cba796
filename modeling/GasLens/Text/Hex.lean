/-
  GasLens/Text/Hex.lean
  =====================
  **Hexadecimal text** — bytes written as pairs of digits, and read back from them.

  Reading looks at the bytes of the text, so a character outside ASCII is reported as its first
  byte, at the offset of that byte.
-/
import GasLens.Text.Integer
import GasLens.Text.Utf8

namespace GasLens.Text

def hexDigit (n : Nat) : Char := Nat.digitChar (n % 16)

def hexPair (b : UInt8) : List Char := [hexDigit (b.toNat / 16), hexDigit b.toNat]

def hexChars (bs : List UInt8) : List Char := bs.flatMap hexPair

def hexText (bs : List UInt8) : String := String.ofList (hexChars bs)

/-- A number as lower-case digits after `0x`, without leading zeros. -/
def quantityText (n : Nat) : String := String.ofList ('0' :: 'x' :: Nat.toDigits 16 n)

/-- Why a text is no sequence of bytes. -/
inductive HexFault where
  /-- The number of digits is odd. -/
  | oddLength (length : Nat)
  /-- A byte of the text is no digit. -/
  | invalidCharacter (char : Char) (index : Nat)
  deriving DecidableEq, Repr

def hexValue? (b : UInt8) : Option Nat := digitValue? 16 (charOfByte b)

def readHexDigit (index : Nat) (b : UInt8) : Except HexFault Nat :=
  match hexValue? b with
  | some d => .ok d
  | none => .error (.invalidCharacter (charOfByte b) index)

/-- Pairs of digits, the first of which stands at the given offset. -/
def readHexPairs : Nat → List UInt8 → Except HexFault (List UInt8)
  | index, a :: b :: r =>
    match readHexDigit index a with
    | .error e => .error e
    | .ok high =>
      match readHexDigit (index + 1) b with
      | .error e => .error e
      | .ok low =>
        match readHexPairs (index + 2) r with
        | .error e => .error e
        | .ok bytes => .ok (UInt8.ofNat (high * 16 + low) :: bytes)
  | _, _ => .ok []

def readHex (digits : List UInt8) : Except HexFault (List UInt8) :=
  if digits.length % 2 = 1 then .error (.oddLength digits.length) else readHexPairs 0 digits

def dropHexMark : List Char → List Char
  | '0' :: 'x' :: r => r
  | '0' :: 'X' :: r => r
  | cs => cs

/-- The bytes of a text of digits, if it is one. -/
def bytesOfHex? (s : String) : Option (List UInt8) := (readHex (bytesOf s)).toOption

theorem hexChars_cons (b : UInt8) (bs : List UInt8) :
    hexChars (b :: bs) = hexPair b ++ hexChars bs := rfl

/-- Two digits are written for each byte. -/
theorem length_hexChars (bs : List UInt8) : (hexChars bs).length = 2 * bs.length := by
  induction bs with
  | nil => rfl
  | cons b bs ih => simp [hexChars_cons, hexPair, ih]; omega

end GasLens.Text
