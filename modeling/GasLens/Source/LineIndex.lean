/-
  GasLens/Source/LineIndex.lean
  =============================
  **Lines of a source** — from the offset of a byte to the number of its line.

  Lines count from one; the byte that ends a line belongs to it, and an offset past the end
  belongs to the last line. A missing or negative offset has no line. The index finds a line
  by bisecting the offsets of the newlines, the scan by counting newlines in the source.
-/
import GasLens.Text.Utf8

namespace GasLens.Source

open GasLens.Text

/-- The number of a line; only positive numbers are lines of a source. -/
abbrev Line := Int

/-- The number that stands for no line. -/
def unmappedLine : Line := -1

def newline : UInt8 := 10

/-- The offsets of the newlines of a source, and its length. -/
structure LineIndex where
  newlines : List Nat
  length : Nat
  deriving DecidableEq, Repr

/-- The offsets of the newlines among bytes, the first of which has the given offset. -/
def newlinesFrom : Nat → List UInt8 → List Nat
  | _, [] => []
  | offset, b :: r =>
    if b = newline then offset :: newlinesFrom (offset + 1) r else newlinesFrom (offset + 1) r

/-- The length of the front of a list whose elements have a property, if none behind it has: one
element in the middle decides which half is left. -/
def partitionPoint {α : Type} (p : α → Bool) (xs : List α) : Nat :=
  match hmiddle : xs.drop (xs.length / 2) with
  | [] => 0
  | x :: back =>
    if p x then xs.length / 2 + 1 + partitionPoint p back
    else partitionPoint p (xs.take (xs.length / 2))
termination_by xs.length
decreasing_by
  all_goals
    have hlength := congrArg List.length hmiddle
    simp only [List.length_drop, List.length_take, List.length_cons] at hlength ⊢
    omega

namespace LineIndex

def ofBytes (bytes : List UInt8) : LineIndex := ⟨newlinesFrom 0 bytes, bytes.length⟩

def ofSource (source : String) : LineIndex := ofBytes (bytesOf source)

def lineAt (i : LineIndex) (offset : Nat) : Line :=
  partitionPoint (fun n => decide (n < min offset i.length)) i.newlines + 1

/-- The line of an offset, if there is one and it is not negative. -/
def lineOf (i : LineIndex) : Option Int → Line
  | some offset => if 0 ≤ offset then i.lineAt offset.toNat else unmappedLine
  | none => unmappedLine

def lineCount (i : LineIndex) : Nat := i.newlines.length + 1

end LineIndex

/-- The line of an offset, counted in the bytes of the source themselves. -/
def scannedLine (bytes : List UInt8) : Option Int → Line
  | some offset =>
    if 0 ≤ offset then (bytes.take offset.toNat).countP (fun b => decide (b = newline)) + 1
    else unmappedLine
  | none => unmappedLine

end GasLens.Source
