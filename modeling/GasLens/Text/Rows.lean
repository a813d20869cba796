/-
  GasLens/Text/Rows.lean
  ======================
  **Tables as text** — rows of hexadecimal numbers.

  A large table is quicker to read as a text than as a term. Its rows stand between spaces and
  line breaks, and the numbers of a row between points.
-/
import GasLens.Text.Integer
import GasLens.Text.Search

namespace GasLens.Text

/-- The value of hexadecimal digits; any other character counts as zero. -/
def hexNumber (cs : List Char) : Nat := cs.foldl (fun n c => n * 16 + (digitValue? 16 c).getD 0) 0

def rowOf (word : List Char) : List Nat := (split '.' word).map hexNumber

def wordsOf (s : String) : List (List Char) :=
  (split ' ' (s.toList.map fun c => if c = '\n' then ' ' else c)).filter fun w => !w.isEmpty

def rowsOf (s : String) : List (List Nat) := (wordsOf s).map rowOf

def rangeOf : List Nat → Nat × Nat
  | [] => (1, 0)
  | [n] => (n, n)
  | low :: high :: _ => (low, high)

def rangesOf (s : String) : List (Nat × Nat) := (rowsOf s).map rangeOf

end GasLens.Text
