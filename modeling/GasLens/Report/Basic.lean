/-
  GasLens/Report/Basic.lean
  =========================
  **Reports** — the gas of many invocations of each function, and the statistics over it.

  A report is filled by `record` and `charge` and closed by `finalize`, which sorts the samples
  and computes the statistics from them alone. Whatever was read from elsewhere is checked by
  `ContractReport.validate`; the first check that fails gives the fault.
-/
import GasLens.SortedMap
import GasLens.Source.LineIndex
import GasLens.Decimal.Written
import GasLens.Fault

namespace GasLens

open GasLens.Source GasLens.Text

structure Sample where
  cost : Nat
  reverted : Bool
  deriving DecidableEq, Repr

structure FunctionReport where
  name : String
  samples : List Sample
  min : Nat
  max : Nat
  avg : Float
  p95 : Nat
  costByLine : SortedMap Line Nat
  /-- The invocations that left no receipt. -/
  skipped : Nat
  /-- The invocations whose trace counts in the lines. -/
  traced : Nat

/-- The reports of all functions of a contract. -/
structure ContractReport where
  name : String
  /-- How often each function was to be invoked. -/
  iterations : Nat
  functions : List FunctionReport

namespace FunctionReport

def ofName (name : String) : FunctionReport :=
  ⟨name, [], 0, 0, Decimal.ofNat 0, 0, .empty, 0, 0⟩

/-! ### Filling a report -/

def record (r : FunctionReport) (s : Sample) : FunctionReport :=
  { r with samples := r.samples ++ [s] }

/-- The gas of one more trace by line. Numbers that are no lines are passed over. -/
def charge (r : FunctionReport) (costs : SortedMap Line Nat) : Checked FunctionReport := do
  let lines := costs.entries.filter fun e => decide (0 < e.1)
  let costByLine ← lines.foldlM (fun m e => m.charge e.1 e.2) r.costByLine
  return { r with costByLine, traced := r.traced + 1 }

def skip (r : FunctionReport) : FunctionReport := { r with skipped := r.skipped + 1 }

/-! ### Statistics -/

def cheaper (a b : Sample) : Bool := decide (a.cost ≤ b.cost)

def totalCost (samples : List Sample) : Nat := (samples.map Sample.cost).sum

/-- The mean gas of samples, each step rounded to a double. -/
def mean (samples : List Sample) : Float :=
  Decimal.ofNat (totalCost samples) / Decimal.ofNat samples.length

def percentileShare : Float := 0.95

/-- The place of the percentile among a number of sorted samples. -/
def percentileRank (count : Nat) : Nat := Decimal.truncated (Decimal.ofNat count * percentileShare)

/-- The samples in order of their gas, with the statistics over them. -/
def finalize (r : FunctionReport) : FunctionReport :=
  let sorted := r.samples.mergeSort cheaper
  match sorted.head?, sorted.getLast? with
  | some first, some last =>
    { r with
      samples := sorted
      min := first.cost
      max := last.cost
      avg := mean sorted
      p95 := (sorted[percentileRank sorted.length]?.map Sample.cost).getD last.cost }
  | _, _ =>
    { r with samples := sorted, min := 0, max := 0, avg := Decimal.ofNat 0, p95 := 0 }

def revertedCount (r : FunctionReport) : Nat := r.samples.countP Sample.reverted

/-- The lines that cost any gas, in ascending order. -/
def lines (r : FunctionReport) : List Line :=
  (r.costByLine.entries.filter fun e => decide (0 < e.1) && decide (0 < e.2)).map Prod.fst

end FunctionReport

/-! ### Validation -/

/-- What is wrong with the report of one function. -/
inductive ReportFault where
  | unsorted
  | extremes
  | average (avg : Float)
  | percentile (p95 : Nat)
  | statisticsWithoutSamples
  | nonPositiveLine
  | tooManyTraces
  | tooManyIterations (attempted requested : Nat)

def ReportFault.message : ReportFault → String
  | .unsorted => "samples are not sorted"
  | .extremes => "min/max disagree with samples"
  | .average avg => "avg " ++ Decimal.prose.write avg ++ " outside [min, max]"
  | .percentile p95 => "p95 " ++ natText p95 ++ " is not a sample"
  | .statisticsWithoutSamples => "statistics without samples"
  | .nonPositiveLine => "non-positive line key"
  | .tooManyTraces => "more traced iterations than samples"
  | .tooManyIterations attempted requested =>
    natText attempted ++ " iterations recorded, " ++ natText requested ++ " requested"

namespace FunctionReport

def isSorted : List Sample → Bool
  | a :: b :: r => decide (a.cost ≤ b.cost) && isSorted (b :: r)
  | _ => true

/-- How far the mean may lie outside the extremes, for the sake of rounding. -/
def averageSlack : Float := 1e-9

/-- Whether a mean is a number between two amounts of gas. -/
def isBetween (avg : Float) (min max : Nat) : Bool :=
  Decimal.isFinite avg && decide (Decimal.ofNat min ≤ avg + averageSlack) &&
    decide (avg ≤ Decimal.ofNat max + averageSlack)

def checkStatistics (r : FunctionReport) : Except ReportFault Unit :=
  match r.samples.head?, r.samples.getLast? with
  | some first, some last =>
    if r.min ≠ first.cost ∨ r.max ≠ last.cost then .error .extremes
    else if !isBetween r.avg r.min r.max then .error (.average r.avg)
    else if !r.samples.any (fun s => s.cost == r.p95) then .error (.percentile r.p95)
    else .ok ()
  | _, _ =>
    if r.min ≠ 0 ∨ r.max ≠ 0 ∨ r.p95 ≠ 0 ∨ (r.avg == Decimal.ofNat 0) = false then
      .error .statisticsWithoutSamples
    else .ok ()

def checkAlone (r : FunctionReport) : Except ReportFault Unit := do
  if !isSorted r.samples then throw .unsorted
  r.checkStatistics
  if r.costByLine.keys.any (fun line => decide (line ≤ 0)) then throw .nonPositiveLine
  if r.samples.length < r.traced then throw .tooManyTraces

def attempted (r : FunctionReport) : Checked Nat := Checked.add r.samples.length r.skipped

/-- All checks of one function. The number of invocations comes last, and is not worked out
before the other checks have passed. -/
def check (r : FunctionReport) (requested : Nat) : Checked (Except ReportFault Unit) :=
  match r.checkAlone with
  | .error e => some (.error e)
  | .ok () => do
    let attempted ← r.attempted
    return if requested < attempted then .error (.tooManyIterations attempted requested) else .ok ()

end FunctionReport

namespace ContractReport

/-- The checks of functions, one after another; a fault names its function. -/
def checkAll (requested : Nat) : List FunctionReport → Checked (Except Fault Unit)
  | [] => some (.ok ())
  | r :: rs =>
    match r.check requested with
    | none => none
    | some (.error e) => some (.error (.invalidReport (r.name ++ ": " ++ e.message)))
    | some (.ok ()) => checkAll requested rs

def validate (c : ContractReport) : Checked (Except Fault Unit) :=
  checkAll c.iterations c.functions

def function? (c : ContractReport) (name : String) : Option FunctionReport :=
  c.functions.find? fun f => f.name == name

end ContractReport

end GasLens
