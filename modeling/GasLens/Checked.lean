/-
  GasLens/Checked.lean
  ====================
  **Checked sums** — sums and products of amounts that are held in words of 64 bits.

  A sum or a product that does not fit a word has no value, and whatever needs it has none: the
  program stops there. Nothing wraps around. What was done before the program stopped is done.
-/
import GasLens.Text.Integer

namespace GasLens

open GasLens.Text

/-- What is computed in words of 64 bits. There is none if a result on the way does not fit. -/
abbrev Checked (α : Type) : Type := Option α

namespace Checked

def word (n : Nat) : Checked Nat := if n ≤ maxU64 then some n else none

def add (a b : Nat) : Checked Nat := word (a + b)

def mul (a b : Nat) : Checked Nat := word (a * b)

def sum (ns : List Nat) : Checked Nat := ns.foldlM add 0

end Checked

end GasLens
