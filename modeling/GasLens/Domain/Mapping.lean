/-
  GasLens/Domain/Mapping.lean
  ===========================
  **Mapping of names** — which characters a name may have, and which it replaces.

  A character of a name is kept, replaced by plain ones, passed over, or refused. Refused are the
  characters without a shape, and a few more: those that would bring points of their own into a
  name, those that describe how others are put together, and the signs for what is missing.
-/
import GasLens.Domain.MappingTable
import GasLens.Text.Printable

namespace GasLens.Domain

open GasLens.Text

def isAscii (c : Char) : Bool := decide (c.toNat < 0x80)

/-- The characters that count for nothing in a name. -/
def ignoredRanges : List (Nat × Nat) :=
  [(0xad, 0xad), (0x34f, 0x34f), (0x115f, 0x1160), (0x17b4, 0x17b5), (0x180b, 0x180f),
   (0x200b, 0x200b), (0x2060, 0x2064), (0x206a, 0x206f), (0x3164, 0x3164), (0xfe00, 0xfe0f),
   (0xfeff, 0xfeff), (0xffa0, 0xffa0), (0x1bca0, 0x1bca3), (0x1d173, 0x1d17a),
   (0xe0100, 0xe01ef)]

/-- The characters with a shape that no name has. -/
def refusedRanges : List (Nat × Nat) :=
  [(0x2024, 0x2026), (0x2488, 0x249b), (0x2ff0, 0x2fff), (0x31ef, 0x31ef), (0x33c2, 0x33c2),
   (0x33c7, 0x33c7), (0x33d8, 0x33d8), (0xfe12, 0xfe12), (0xfe19, 0xfe19), (0xfe30, 0xfe30),
   (0xfe52, 0xfe52), (0xfffc, 0xfffd), (0x1f100, 0x1f100)]

/-- The character that keeps its neighbours apart, and the one that joins them. -/
def isJoiner (c : Char) : Bool := c = '\u200c' || c = '\u200d'

/-- What a code point stands for along a run. -/
def alongRun? (n : Nat) : List Nat → Option Nat
  | [first, count, step, target, targetStep] =>
    if first ≤ n ∧ (n - first) % step = 0 ∧ (n - first) / step < count then
      some (target + (n - first) / step * targetStep)
    else none
  | _ => none

/-- What a code point by itself stands for. -/
def alone? (n : Nat) : Option (List Nat) :=
  (mappedAlone.find? fun row => row.head? == some n).map List.tail

/-- What a code point stands for, if it is replaced. -/
def replacement? (n : Nat) : Option (List Nat) :=
  match mappedRuns.findSome? (alongRun? n) with
  | some target => some [target]
  | none => alone? n

/-- What a character of a name stands for, unless it is refused. -/
def mapChar? (c : Char) : Option (List Char) :=
  if isAscii c then some [c.toLower]
  else if inRanges ignoredRanges c.toNat then some []
  else match replacement? c.toNat with
    | some targets => some (targets.map Char.ofNat)
    | none =>
      if inRanges refusedRanges c.toNat || (isUnprintable c && !isJoiner c) then none
      else some [c]

def mapText? (cs : List Char) : Option (List Char) := (cs.mapM mapChar?).map List.flatten

def isPlain (c : Char) : Bool := mapChar? c == some [c]

end GasLens.Domain
