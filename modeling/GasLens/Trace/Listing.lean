/-
  GasLens/Trace/Listing.lean
  ==========================
  **Listings of traces** — one line for each step, indented by the depth of its call, and a last
  line with the result.
-/
import GasLens.Trace.Basic
import GasLens.Text.Style
import GasLens.Text.Pad
import GasLens.Source.LineIndex

namespace GasLens.Trace

open GasLens.Text GasLens.Source

/-- The gas from which on a step is marked as expensive. -/
def expensiveCost : Nat := 2000

/-- Red for what is bad, green for what is not. -/
def verdictStyle (bad : Bool) : Style := .tinted (if bad then .red else .green)

def lineCell (color : Bool) (line : Line) : String :=
  if 0 < line then paint color (.tinted .magenta) id ("L" ++ intText line)
  else paint color (.marked [.dimmed]) id "-"

def costCell (color : Bool) (cost : Nat) : String :=
  paint color (verdictStyle (decide (expensiveCost ≤ cost))) (padLeft 7) (natText cost)

def stepLine (color : Bool) (lineOf : Nat → Line) (s : Step) : String :=
  repeated (s.depth - 1) "    " ++ padLeft 6 (natText s.pc) ++ " " ++
    paint color (.tinted .cyan) (padRight 14) s.op ++ " " ++ costCell color s.cost ++ " " ++
    lineCell color (lineOf s.pc) ++ "\n"

def returnText (value : String) : String :=
  if value.isEmpty then "0x"
  else if (dropLeading? "0x".toList value.toList).isSome then value
  else "0x" ++ value

def resultLine (color : Bool) (t : Trace) : String :=
  let style := verdictStyle t.failed
  paint color style id "↩ " ++ paint color style id (returnText t.returnValue) ++ " (gas: " ++
    natText t.gas ++ ", steps: " ++ natText t.steps.length ++ ")\n"

/-- The listing of a trace, with the line of every step. -/
def listing (color : Bool) (lineOf : Nat → Line) (t : Trace) : String :=
  String.join (t.steps.map (stepLine color lineOf)) ++ resultLine color t

end GasLens.Trace
