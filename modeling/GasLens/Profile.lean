/-
  GasLens/Profile.lean
  ====================
  **Profiles** — the gas of one trace spread over the lines of the source.

  The gas of a step counts for the line of its program counter. Steps without a line count for
  the total and for their operation, and for no line.
-/
import GasLens.SortedMap
import GasLens.Trace.Basic
import GasLens.Source.PcLineMap

namespace GasLens

open GasLens.Source

structure LineCost where
  line : Line
  cost : Nat
  deriving DecidableEq, Repr

/-- The order of the most expensive lines: more gas first, then the smaller line. -/
def LineCost.before (a b : LineCost) : Bool :=
  decide (b.cost < a.cost) || (decide (a.cost = b.cost) && decide (a.line ≤ b.line))

/-- The most expensive lines, at most as many as the limit says. -/
def topLines (costs : SortedMap Line Nat) (limit : Nat) : List LineCost :=
  ((costs.entries.map fun e => LineCost.mk e.1 e.2).mergeSort LineCost.before).take limit

def topLineLimit : Nat := 20

/-- The gas of one trace by line and its operations by name. -/
structure Profile where
  totalCost : Nat
  costByLine : SortedMap Line Nat
  opcodeCounts : SortedMap String Nat
  mappedSteps : Nat
  unmappedSteps : Nat
  deriving DecidableEq

namespace Profile

def empty : Profile := ⟨0, .empty, .empty, 0, 0⟩

/-- A profile with one more step, which belongs to the given line. -/
def replayStep (p : Profile) (line : Line) (s : Step) : Checked Profile := do
  let totalCost ← Checked.add p.totalCost s.cost
  let opcodeCounts := p.opcodeCounts.count s.op
  if 0 < line then
    let costByLine ← p.costByLine.charge line s.cost
    return ⟨totalCost, costByLine, opcodeCounts, p.mappedSteps + 1, p.unmappedSteps⟩
  else
    return ⟨totalCost, p.costByLine, opcodeCounts, p.mappedSteps, p.unmappedSteps + 1⟩

/-- The profile of a trace, one step after another. -/
def replay (t : Trace) (map : PcLineMap) : Checked Profile :=
  t.steps.foldlM (fun p s => p.replayStep (map.lineFor s.pc) s) empty

def mappedCost (p : Profile) : Checked Nat := p.costByLine.sum

def costOfLine (p : Profile) (line : Line) : Nat := p.costByLine.getD line 0

def topLines (p : Profile) : List LineCost := GasLens.topLines p.costByLine topLineLimit

end Profile

end GasLens
