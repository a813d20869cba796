/-
  GasLens/Heatmap/Basic.lean
  ==========================
  **Heatmaps** — the gas of all functions of a contract on each line of its source.

  Gas counts on lines that hold code and on the last line, where compilers put what belongs to
  no line; there it is shown as boilerplate, without its amount. The share of a line decides how
  severe it is.
-/
import GasLens.Report.Basic
import GasLens.Text.Search
import GasLens.Text.Blank

namespace GasLens

open GasLens.Source GasLens.Text

/-- How severe the gas of a line is. -/
inductive Severity where
  | none | low | medium | high | boilerplate
  deriving DecidableEq, Repr

namespace Severity

def name : Severity → String
  | .none => "none"
  | .low => "low"
  | .medium => "medium"
  | .high => "high"
  | .boilerplate => "boilerplate"

def ofName? (s : String) : Option Severity :=
  [Severity.none, .low, .medium, .high, .boilerplate].find? fun v => v.name == s

/-- Above this share of the total a line is severe. -/
def highShare : Float := 0.40

/-- Above this share of the total a line is of note. -/
def mediumShare : Float := 0.10

def ofShare (share : Float) : Severity :=
  if highShare < share then .high
  else if mediumShare < share then .medium
  else if Decimal.ofNat 0 < share then .low
  else .none

end Severity

/-- A line of the source with its gas. -/
structure HeatmapLine where
  number : Nat
  text : String
  cost : Nat
  share : Float
  severity : Severity
  isBoilerplate : Bool

structure FunctionSummary where
  name : String
  avg : Float
  min : Nat
  max : Nat
  p95 : Nat
  lines : List Line

/-- The lines of a source with their gas, and the statistics of the functions. -/
structure Heatmap where
  contractName : String
  totalCost : Nat
  lines : List HeatmapLine
  functions : List FunctionSummary

def FunctionSummary.ofReport (r : FunctionReport) : FunctionSummary :=
  ⟨r.name, r.avg, r.min, r.max, r.p95, r.lines⟩

/-! ### Lines of a source -/

/-- A line without the carriage return at its end. -/
def withoutReturn (line : List Char) : List Char :=
  (dropClosing? ['\r'] line).getD line

def sourceLines (source : String) : List (List Char) :=
  (split '\n' source.toList).map withoutReturn

def commentMarks : List (List Char) := [['/', '/'], ['/', '*'], ['*']]

/-- Whether a line holds neither code nor anything else than a comment. -/
def isNonExecutable (line : List Char) : Bool :=
  let trimmed := trim line
  trimmed.isEmpty || commentMarks.any fun mark => mark.isPrefixOf trimmed

def countsAt (lines : List (List Char)) (line : Line) : Bool :=
  decide (0 < line) &&
    match lines[line.toNat - 1]? with
    | some text => decide (line.toNat = lines.length) || !isNonExecutable text
    | none => false

/-! ### Gas of the lines -/

def countedEntries (lines : List (List Char)) (c : ContractReport) : List (Line × Nat) :=
  c.functions.flatMap fun f => f.costByLine.entries.filter fun e => countsAt lines e.1

/-- The gas of the lines, over all functions. -/
def mergeCosts (lines : List (List Char)) (c : ContractReport) : Checked (SortedMap Line Nat) :=
  (countedEntries lines c).foldlM (fun m e => m.charge e.1 e.2) .empty

/-- A part of the total; of nothing every part is zero. -/
def shareOf (cost total : Nat) : Float :=
  if total = 0 then Decimal.ofNat 0 else Decimal.ofNat cost / Decimal.ofNat total

/-- A double that is not negative, rounded to a whole number; a half goes up. -/
def nearestWhole (x : Float) : Float :=
  let whole := Decimal.ofNat (Decimal.truncated x)
  if 0.5 ≤ x - whole then whole + 1.0 else whole

/-- One and the decimal places that a share is shown with. -/
def shareScale : Float := 100000.0

def roundShare (share : Float) : Float := nearestWhole (share * shareScale) / shareScale

/-- One line of a heatmap, where the source has a number of lines. -/
def heatmapLine (costs : SortedMap Line Nat) (total count : Nat) (number : Nat)
    (text : List Char) : HeatmapLine :=
  let cost := costs.getD number 0
  if number = count ∧ 0 < cost then
    ⟨number, String.ofList text, 0, Decimal.ofNat 0, .boilerplate, true⟩
  else
    let share := shareOf cost total
    ⟨number, String.ofList text, cost, roundShare share, .ofShare share, false⟩

def heatmapLinesFrom (costs : SortedMap Line Nat) (total count : Nat) :
    Nat → List (List Char) → List HeatmapLine
  | _, [] => []
  | number, text :: r =>
    heatmapLine costs total count number text :: heatmapLinesFrom costs total count (number + 1) r

def Heatmap.ofReport (c : ContractReport) (source : String) : Checked Heatmap := do
  let lines := sourceLines source
  let costs ← mergeCosts lines c
  let total ← costs.sum
  return ⟨c.name, total, heatmapLinesFrom costs total lines.length 1 lines,
    c.functions.map FunctionSummary.ofReport⟩

end GasLens
