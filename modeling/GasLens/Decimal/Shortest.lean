/-
  GasLens/Decimal/Shortest.lean
  =============================
  **Shortest digits** — the fewest decimal digits that read back as the same double.

  The reals that round to a double form an interval, with its ends where the mantissa is even.
  For one digit, two digits and so on, the two neighbours of the value on the decimal grid of
  that length are tried; the first grid with a neighbour inside the interval gives the digits.
  Of two such neighbours the nearer is taken, and a tie is settled by the caller.
-/
import GasLens.Decimal.Binary64

namespace GasLens.Decimal

/-- How a tie between two neighbours is settled. -/
inductive Tie where
  /-- To the neighbour with an even last digit. -/
  | toEven
  /-- To the greater neighbour. -/
  | up
  deriving DecidableEq, Repr

/-- A positive decimal number: `digits · 10 ^ exponent`. -/
structure Scientific where
  digits : Nat
  exponent : Int
  deriving DecidableEq, Repr

/-- The reals that round to a positive double, as fractions over one denominator. -/
structure Span where
  lower : Nat
  value : Nat
  upper : Nat
  denominator : Nat
  /-- Whether the two ends belong to the interval. -/
  closed : Bool
  deriving DecidableEq, Repr

/-- The interval of a double. Below a power of two the neighbour is half as far away. -/
def spanOf (mantissa : Nat) (exponent : Int) : Span :=
  let below := if mantissa = 2 ^ 52 ∧ exponent ≠ -1074 then 1 else 2
  let (unit, denominator) := fractionOf 1 (exponent - 2)
  ⟨(4 * mantissa - below) * unit, 4 * mantissa * unit, (4 * mantissa + 2) * unit, denominator,
    mantissa % 2 = 0⟩

def leadingExponent (numerator denominator : Nat) : Int :=
  if denominator ≤ numerator then
    ((Nat.toDigits 10 (numerator / denominator)).length : Int) - 1
  else
    let inverse := (denominator + numerator - 1) / numerator
    (0 : Int) - (Nat.toDigits 10 (inverse - 1)).length

namespace Span

/-- A fraction times the inverse of `10 ^ exponent`, as numerator and denominator. -/
def onGrid (numerator denominator : Nat) (exponent : Int) : Nat × Nat :=
  if 0 ≤ exponent then (numerator, denominator * 10 ^ exponent.toNat)
  else (numerator * 10 ^ (-exponent).toNat, denominator)

/-- Whether a point of the grid lies in the interval. -/
def holds (s : Span) (point : Nat) (exponent : Int) : Bool :=
  let (low, d) := onGrid s.lower s.denominator exponent
  let (high, _) := onGrid s.upper s.denominator exponent
  if s.closed then decide (low ≤ point * d) && decide (point * d ≤ high)
  else decide (low < point * d) && decide (point * d < high)

/-- The neighbour of the value on the grid of an exponent that reads back, if there is one. -/
def neighbour? (s : Span) (tie : Tie) (exponent : Int) : Option Nat :=
  let (v, d) := onGrid s.value s.denominator exponent
  let under := v / d
  let above := under + 1
  match s.holds under exponent && 0 < under, s.holds above exponent with
  | false, false => none
  | true, false => some under
  | false, true => some above
  | true, true =>
    let rest := 2 * (v % d)
    if rest < d then some under
    else if d < rest then some above
    else match tie with
      | .up => some above
      | .toEven => if under % 2 = 0 then some under else some above

/-- The first grid, from the coarsest on, with a neighbour that reads back. -/
def firstGrid (s : Span) (tie : Tie) : Nat → Int → Scientific
  | 0, exponent => ⟨s.value / s.denominator, exponent⟩
  | tries + 1, exponent =>
    match s.neighbour? tie exponent with
    | some digits => ⟨digits, exponent⟩
    | none => firstGrid s tie tries (exponent - 1)

end Span

def Scientific.trimmed : Nat → Scientific → Scientific
  | 0, s => s
  | tries + 1, s =>
    if s.digits ≠ 0 ∧ s.digits % 10 = 0 then trimmed tries ⟨s.digits / 10, s.exponent + 1⟩ else s

/-- The shortest digits of a positive double. No double needs more than seventeen. -/
def shortest (tie : Tie) (mantissa : Nat) (exponent : Int) : Scientific :=
  let s := spanOf mantissa exponent
  (s.firstGrid tie 17 (leadingExponent s.value s.denominator)).trimmed 17

end GasLens.Decimal
