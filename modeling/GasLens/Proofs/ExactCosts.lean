/-
  GasLens/Proofs/ExactCosts.lean
  ==============================
  **Costs in whole numbers** — profiles, reports and heatmaps as they are if no sum is too large,
  and when that is so.

  What runs adds words and stops where a sum does not fit one. The definitions here add whole
  numbers. A profile is built exactly if the gas of its trace fits a word
  (`Profile.replay_eq_some_iff`), costs are charged to a report if all its lines still fit
  (`FunctionReport.charge_eq_some_iff`), and a heatmap is built if its total fits
  (`Heatmap.ofReport_eq_some_iff`); each is then the one over whole numbers. So whatever is shown
  for the latter holds of every profile, report and heatmap that there is.
-/
import GasLens.Proofs.Totals
import GasLens.Heatmap.Basic
import GasLens.Profile

namespace GasLens

open GasLens.Source GasLens.Text

/-! ### Profiles -/

namespace Profile

/-- A profile with one more step, which belongs to the given line. -/
def addStep (p : Profile) (line : Line) (s : Step) : Profile :=
  let mapped := decide (0 < line)
  { totalCost := p.totalCost + s.cost
    costByLine := if mapped then p.costByLine.add line s.cost else p.costByLine
    opcodeCounts := p.opcodeCounts.add s.op 1
    mappedSteps := if mapped then p.mappedSteps + 1 else p.mappedSteps
    unmappedSteps := if mapped then p.unmappedSteps else p.unmappedSteps + 1 }

def ofTrace (t : Trace) (map : PcLineMap) : Profile :=
  t.steps.foldl (fun p s => p.addStep (map.lineFor s.pc) s) empty

/-- The gas of a profile fits a word, and its lines hold no more than that. -/
structure IsHeld (p : Profile) : Prop where
  lines : p.costByLine.total ≤ p.totalCost
  word : p.totalCost ≤ maxU64

theorem isHeld_empty : empty.IsHeld := ⟨Nat.le_refl _, Nat.zero_le _⟩

theorem total_addStep_le {p : Profile} (h : p.costByLine.total ≤ p.totalCost) (line : Line)
    (s : Step) : (p.addStep line s).costByLine.total ≤ (p.addStep line s).totalCost := by
  unfold addStep
  by_cases hline : 0 < line
  · simp only [hline, decide_true, if_true, SortedMap.total_add]
    omega
  · simp only [hline, decide_false, Bool.false_eq_true, if_false]
    omega

/-- The gas of a line is never more than all the gas, so the total decides. -/
theorem replayStep_eq_some_iff {p q : Profile} (h : p.IsHeld) {line : Line} {s : Step} :
    p.replayStep line s = some q ↔ p.totalCost + s.cost ≤ maxU64 ∧ q = p.addStep line s := by
  simp only [replayStep, Option.bind_eq_bind, Option.bind_eq_some_iff, Checked.add_eq_some_iff]
  by_cases hline : 0 < line
  · simp only [hline, if_true, Option.bind_eq_some_iff, SortedMap.charge_eq_some_iff]
    constructor
    · rintro ⟨_, ⟨hfits, rfl⟩, _, ⟨_, rfl⟩, hq⟩
      refine ⟨hfits, ?_⟩
      simpa [addStep, hline, SortedMap.count_eq_add] using hq.symm
    · rintro ⟨hfits, rfl⟩
      have hkey := p.costByLine.getD_le_total line
      have hlines := h.lines
      refine ⟨_, ⟨hfits, rfl⟩, _, ⟨by omega, rfl⟩, ?_⟩
      simp [addStep, hline, SortedMap.count_eq_add]
  · simp only [hline, if_false]
    constructor
    · rintro ⟨_, ⟨hfits, rfl⟩, hq⟩
      refine ⟨hfits, ?_⟩
      simpa [addStep, hline, SortedMap.count_eq_add] using hq.symm
    · rintro ⟨hfits, rfl⟩
      refine ⟨_, ⟨hfits, rfl⟩, ?_⟩
      simp [addStep, hline, SortedMap.count_eq_add]

/-- No line holds more gas than all steps together, so their sum alone decides whether a trace fits.
-/
theorem foldlM_replayStep_eq_some_iff (map : PcLineMap) {steps : List Step} {p q : Profile}
    (h : p.IsHeld) :
    steps.foldlM (fun p s => p.replayStep (map.lineFor s.pc) s) p = some q ↔
      p.totalCost + (steps.map Step.cost).sum ≤ maxU64 ∧
        q = steps.foldl (fun p s => p.addStep (map.lineFor s.pc) s) p := by
  induction steps generalizing p with
  | nil => simp [h.word, eq_comm]
  | cons s steps ih =>
    rw [List.foldlM_cons, List.foldl_cons, Option.bind_eq_bind, Option.bind_eq_some_iff,
      List.map_cons, List.sum_cons, ← Nat.add_assoc]
    have hheld (hfits : p.totalCost + s.cost ≤ maxU64) :
        (p.addStep (map.lineFor s.pc) s).IsHeld := ⟨total_addStep_le h.lines _ s, hfits⟩
    constructor
    · rintro ⟨_, hstep, hrest⟩
      obtain ⟨hfits, rfl⟩ := (replayStep_eq_some_iff h).1 hstep
      exact (ih (hheld hfits)).1 hrest
    · rintro ⟨hsum, heq⟩
      have hfits : p.totalCost + s.cost ≤ maxU64 :=
        Nat.le_trans (Nat.le_add_right _ _) hsum
      exact ⟨_, (replayStep_eq_some_iff h).2 ⟨hfits, rfl⟩, (ih (hheld hfits)).2 ⟨hsum, heq⟩⟩

theorem replay_eq_some_iff {t : Trace} {map : PcLineMap} {p : Profile} :
    replay t map = some p ↔ (t.steps.map Step.cost).sum ≤ maxU64 ∧ p = ofTrace t map := by
  have hrun : replay t map = some p ↔
      empty.totalCost + (t.steps.map Step.cost).sum ≤ maxU64 ∧ p = ofTrace t map :=
    foldlM_replayStep_eq_some_iff map isHeld_empty
  rwa [show empty.totalCost = 0 from rfl, Nat.zero_add] at hrun

end Profile

/-! ### Reports -/

namespace FunctionReport

/-- A report with the costs of one more trace. -/
def accumulate (r : FunctionReport) (costs : SortedMap Line Nat) : FunctionReport :=
  { r with
    costByLine := (costs.entries.filter fun e => decide (0 < e.1)).foldl
      (fun m e => m.add e.1 e.2) r.costByLine
    traced := r.traced + 1 }

theorem charge_eq_some_iff {r r' : FunctionReport} (h : r.costByLine.Fits)
    {costs : SortedMap Line Nat} :
    r.charge costs = some r' ↔ r'.costByLine.Fits ∧ r' = r.accumulate costs := by
  simp only [charge, Option.bind_eq_bind, Option.bind_eq_some_iff,
    SortedMap.foldlM_charge_eq_some_iff h, Option.pure_def, Option.some.injEq]
  constructor
  · rintro ⟨m, ⟨hfits, rfl⟩, rfl⟩
    exact ⟨hfits, rfl⟩
  · rintro ⟨hfits, rfl⟩
    exact ⟨_, ⟨hfits, rfl⟩, rfl⟩

end FunctionReport

/-! ### Heatmaps -/

/-- The gas of the lines, over all functions. -/
def mergedCosts (lines : List (List Char)) (c : ContractReport) : SortedMap Line Nat :=
  (countedEntries lines c).foldl (fun m e => m.add e.1 e.2) .empty

def Heatmap.build (c : ContractReport) (source : String) : Heatmap :=
  let lines := sourceLines source
  let costs := mergedCosts lines c
  ⟨c.name, costs.total, heatmapLinesFrom costs costs.total lines.length 1 lines,
    c.functions.map FunctionSummary.ofReport⟩

theorem Heatmap.ofReport_eq_some_iff {c : ContractReport} {source : String} {h : Heatmap} :
    Heatmap.ofReport c source = some h ↔ h.totalCost ≤ maxU64 ∧ h = Heatmap.build c source := by
  simp only [Heatmap.ofReport, mergeCosts, Option.bind_eq_bind, Option.bind_eq_some_iff,
    SortedMap.foldlM_charge_eq_some_iff SortedMap.fits_empty, SortedMap.sum_eq_word,
    Checked.word_eq_some_iff, Option.pure_def, Option.some.injEq]
  constructor
  · rintro ⟨m, ⟨_, rfl⟩, total, ⟨htotal, rfl⟩, rfl⟩
    exact ⟨htotal, rfl⟩
  · rintro ⟨htotal, rfl⟩
    exact ⟨_, ⟨SortedMap.fits_of_total_le htotal, rfl⟩, _, ⟨htotal, rfl⟩, rfl⟩

end GasLens
