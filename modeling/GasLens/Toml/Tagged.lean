/-
  GasLens/Toml/Tagged.lean
  ========================
  **Tagged tables** — moments that are written as tables.

  A table whose first key is the tag of moments stands for the moment in the text at that key,
  whatever its other keys are. The tag behind another key is a key like any other. A text at the
  tag may go a little further than a moment without quotes: to the end of the last hour of the
  day, and to offsets of a whole day.
-/
import GasLens.Toml.Scalar

namespace GasLens.Toml

/-- The key that makes a table stand for a moment. -/
def momentTag : String := "$__toml_private_datetime"

def textBounds : TimeBounds := ⟨24, 99, 99, 1440⟩

def momentOfText? (s : String) : Option Moment :=
  match readMomentWithin textBounds s.toList with
  | some (m, []) => some m
  | _ => none

def momentOf? : Value → Option Value
  | .string s => (momentOfText? s).map .moment
  | _ => none

mutual

/-- A value with moments in the place of tagged tables, if every tag has a moment. -/
def Value.untagged? : Value → Option Value
  | .array items => (untaggedItems? items).map .array
  | .table [] => some (.table [])
  | .table ((key, v) :: r) =>
    if key = momentTag then momentOf? v
    else do
      let v ← v.untagged?
      let r ← untaggedEntries? r
      return .table ((key, v) :: r)
  | v => some v

def untaggedItems? : List Value → Option (List Value)
  | [] => some []
  | v :: r => do return (← v.untagged?) :: (← untaggedItems? r)

def untaggedEntries? : List (String × Value) → Option (List (String × Value))
  | [] => some []
  | (key, v) :: r => do return (key, ← v.untagged?) :: (← untaggedEntries? r)

end

end GasLens.Toml
