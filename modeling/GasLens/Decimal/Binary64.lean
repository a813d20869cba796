/-
  GasLens/Decimal/Binary64.lean
  =============================
  **Doubles as exact numbers** — the sign, mantissa and binary exponent of a double, and the
  double nearest to a natural number.

  A finite double is `± mantissa · 2 ^ exponent`. All text of doubles is computed from these
  three whole numbers, so that printing needs no rounding of its own.
-/
import GasLens.Arithmetic

namespace GasLens.Decimal

/-- What the bits of a double stand for. -/
inductive Reading where
  /-- A number: `mantissa · 2 ^ exponent`, with the sign in front. -/
  | finite (negative : Bool) (mantissa : Nat) (exponent : Int)
  | infinite (negative : Bool)
  | notANumber
  deriving DecidableEq, Repr

def readingOfBits (bits : Nat) : Reading :=
  let negative := decide (2 ^ 63 ≤ bits)
  let biased : Nat := bits / 2 ^ 52 % 2 ^ 11
  let fraction : Nat := bits % 2 ^ 52
  if biased = 2047 then
    if fraction = 0 then .infinite negative else .notANumber
  else if biased = 0 then .finite negative fraction (-1074)
  else .finite negative (2 ^ 52 + fraction) ((biased : Int) - 1075)

def reading (x : Float) : Reading := readingOfBits x.toBits.toNat

def isFinite (x : Float) : Bool :=
  match reading x with
  | .finite .. => true
  | _ => false

def ofNat (n : Nat) : Float :=
  if n < 2 ^ 64 then n.toUInt64.toFloat else Float.ofNat n

def ofInt (n : Int) : Float := if n < 0 then -(ofNat n.natAbs) else ofNat n.natAbs

/-- The whole part of a double that is not negative, held within 64 bits. -/
def truncated (x : Float) : Nat := x.toUInt64.toNat

/-- `mantissa · 2 ^ exponent` as a fraction. -/
def fractionOf (mantissa : Nat) (exponent : Int) : Nat × Nat :=
  if 0 ≤ exponent then (mantissa * 2 ^ exponent.toNat, 1) else (mantissa, 2 ^ (-exponent).toNat)

end GasLens.Decimal
