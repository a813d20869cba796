/-
  GasLens/Domain/Punycode.lean
  ============================
  **Coded labels** — labels of any characters, written in letters, digits and hyphens.

  The ASCII characters of the label stand first, with a hyphen behind them. Then follows, for
  each of the others in ascending order, by how much the pair of its code point and its place
  grows, as a number whose digits say themselves where it ends.
-/
import GasLens.Domain.Mapping

namespace GasLens.Domain.Punycode

open GasLens.Text

def base : Nat := 36

/-- The value of a digit: letters come first. -/
def digit? (c : Char) : Option Nat :=
  if 'a' ≤ c ∧ c ≤ 'z' then some (c.toNat - 'a'.toNat)
  else if isDecimalDigit c then some (c.toNat - '0'.toNat + 26)
  else none

/-- A digit at a position ends its number if it lies below this. -/
def threshold (position bias : Nat) : Nat :=
  if position ≤ bias then 1 else if bias + 26 ≤ position then 26 else position - bias

/-- A growth, divided until it fits the last threshold, and the positions that were gone by. -/
def settle : Nat → Nat → Nat → Nat × Nat
  | 0, growth, positions => (growth, positions)
  | steps + 1, growth, positions =>
    if 455 < growth then settle steps (growth / 35) (positions + base) else (growth, positions)

/-- The bias after a number was read. -/
def adapt (growth count : Nat) (isFirst : Bool) : Nat :=
  let growth := if isFirst then growth / 700 else growth / 2
  let (growth, positions) := settle growth (growth + growth / count) 0
  positions + base * growth / (growth + 38)

/-- A number at the front of a code, added to what was there, and what follows it. Numbers stay
within 32 bits. -/
def readNumber (bias : Nat) : Nat → Nat → Nat → List Char → Option (Nat × List Char)
  | _, _, _, [] => none
  | position, weight, sum, c :: r => do
    let d ← digit? c
    let sum := sum + d * weight
    let t := threshold position bias
    if maxU32 < sum then none
    else if d < t then return (sum, r)
    else if maxU32 < weight * (base - t) then none
    else readNumber bias (position + base) (weight * (base - t)) sum r

theorem length_of_readNumber {bias position weight sum n : Nat} {cs r : List Char}
    (h : readNumber bias position weight sum cs = some (n, r)) : r.length < cs.length := by
  induction cs generalizing position weight sum with
  | nil => simp [readNumber] at h
  | cons c cs ih =>
    rw [readNumber] at h
    cases hd : digit? c with
    | none => simp [hd] at h
    | some d =>
      rw [hd] at h
      simp only [Option.bind_eq_bind, Option.bind_some] at h
      split at h
      · cases h
      · split at h
        · cases h
          exact Nat.lt_succ_self _
        · split at h
          · cases h
          · exact Nat.lt_succ_of_lt (ih h)

def putAt (place : Nat) (c : Char) (cs : List Char) : List Char :=
  cs.take place ++ c :: cs.drop place

/-- The characters of a code put to a text, where the last one and its place are known. -/
def readCode (bias codePoint place : Nat) (text : List Char) (cs : List Char) :
    Option (List Char) :=
  match cs with
  | [] => some text
  | c :: r =>
    match h : readNumber bias base 1 place (c :: r) with
    | none => none
    | some (sum, rest) =>
      have := length_of_readNumber h
      let count := text.length + 1
      let next := codePoint + sum / count
      if next.isValidChar then
        readCode (adapt (sum - place) count (place = 0)) next (sum % count + 1)
          (putAt (sum % count) (Char.ofNat next) text) rest
      else none
termination_by cs.length
decreasing_by assumption

/-- A code at its last hyphen: the ASCII characters, and the rest. -/
def splitCode (cs : List Char) : List Char × List Char :=
  match (split '-' cs).reverse with
  | [] | [_] => ([], cs)
  | last :: before =>
    let ascii := ['-'].intercalate before.reverse
    if ascii.isEmpty then ([], cs) else (ascii, last)

def firstBias : Nat := 72

def decode? (cs : List Char) : Option (List Char) :=
  let (ascii, rest) := splitCode cs
  if ascii.all isAscii then readCode firstBias 0x80 0 ascii rest else none

end GasLens.Domain.Punycode
