/-
  GasLens/Proofs/CostByLine.lean
  ==============================
  **Costs by line from steps to heatmaps** — the gas that a kind of lines holds after each stage.

  A profile, a report and the merged costs of a heatmap are all maps from lines to gas. Each
  stage is measured by `SortedMap.totalWhere` against `gasWhere`, the gas of the steps themselves,
  so a stage that lost gas, moved it to another line or counted it twice would break its equation.
  The same measures say when there is a report at all: the gas of every trace and that of every
  line have to fit a word (`TracesFit`).
-/
import GasLens.Proofs.ExactCosts
import Mathlib.Data.List.Forall2

namespace GasLens

open GasLens.Source GasLens.Text

/-- The gas of the steps whose line is of a kind. -/
def gasWhere (map : PcLineMap) (p : Line → Bool) (steps : List Step) : Nat :=
  ((steps.filter fun s => p (map.lineFor s.pc)).map Step.cost).sum

/-- What each step costs, at the line it belongs to. -/
def charges (map : PcLineMap) (steps : List Step) : List (Line × Nat) :=
  steps.map fun s => (map.lineFor s.pc, s.cost)

theorem gasWhere_eq_sumWhere (map : PcLineMap) (p : Line → Bool) (steps : List Step) :
    gasWhere map p steps = sumWhere p (charges map steps) := by
  rw [gasWhere, sumWhere, charges, List.filter_map, List.map_map]
  rfl

theorem gasWhere_append (map : PcLineMap) (p : Line → Bool) (ss ts : List Step) :
    gasWhere map p (ss ++ ts) = gasWhere map p ss + gasWhere map p ts := by
  simp [gasWhere]

theorem gasWhere_cons (map : PcLineMap) (p : Line → Bool) (s : Step) (ss : List Step) :
    gasWhere map p (s :: ss) =
      (if p (map.lineFor s.pc) then s.cost else 0) + gasWhere map p ss := by
  rw [gasWhere_eq_sumWhere, gasWhere_eq_sumWhere, charges, List.map_cons, sumWhere_cons]
  rfl

theorem gasWhere_eq_sum (map : PcLineMap) (p : Line → Bool) (steps : List Step) :
    gasWhere map p steps =
      (steps.map fun s => if p (map.lineFor s.pc) then s.cost else 0).sum := by
  induction steps with
  | nil => rfl
  | cons s steps ih => rw [gasWhere_cons, ih, List.map_cons, List.sum_cons]

/-- A kind of lines and all others share out the gas. -/
theorem gasWhere_add_gasWhere_not (map : PcLineMap) (p : Line → Bool) (steps : List Step) :
    gasWhere map p steps + gasWhere map (fun l => !p l) steps = (steps.map Step.cost).sum := by
  induction steps with
  | nil => rfl
  | cons s steps ih =>
    rw [gasWhere_cons, gasWhere_cons, List.map_cons, List.sum_cons, ← ih]
    cases p (map.lineFor s.pc) <;> simp <;> omega

/-- A kind of lines less everything that is no line of a source. -/
def positive (p : Line → Bool) (line : Line) : Bool := decide (0 < line) && p line

theorem positive_eq_of_pos {line : Line} (h : 0 < line) :
    (positive fun l => decide (l = line)) = fun l => decide (l = line) := by
  funext l
  by_cases hl : l = line
  · simp [positive, hl, h]
  · simp [positive, hl]

/-- Traces whose gas can be held in words: that of each trace, and that of each line over all of
them. -/
structure TracesFit (map : PcLineMap) (ts : List Trace) : Prop where
  traces : ∀ t ∈ ts, (t.steps.map Step.cost).sum ≤ maxU64
  lines : ∀ line, 0 < line →
    gasWhere map (fun l => decide (l = line)) (ts.flatMap Trace.steps) ≤ maxU64

/-- Traces that fit a word all together fit in every way. -/
theorem tracesFit_of_sum_le {map : PcLineMap} {ts : List Trace}
    (h : ((ts.flatMap Trace.steps).map Step.cost).sum ≤ maxU64) : TracesFit map ts where
  traces := by
    intro t ht
    obtain ⟨before, behind, rfl⟩ := List.append_of_mem ht
    simp only [List.flatMap_append, List.flatMap_cons, List.map_append, List.sum_append] at h
    omega
  lines := by
    intro line _
    rw [← gasWhere_add_gasWhere_not map fun l => decide (l = line)] at h
    exact Nat.le_trans (Nat.le_add_right _ _) h

/-! ### Profiles -/

namespace Profile

/-- A step counts at its line, if that is a line of a source. -/
theorem totalWhere_addStep (p : Line → Bool) (profile : Profile) (line : Line) (s : Step) :
    (profile.addStep line s).costByLine.totalWhere p =
      profile.costByLine.totalWhere p + if positive p line then s.cost else 0 := by
  unfold addStep positive
  by_cases h : 0 < line
  · simp [h, SortedMap.totalWhere_add]
  · simp [h]

/-- A measure that grows by a weight for each step is the sum of the weights. -/
theorem measure_ofTrace (measure : Profile → Nat) {map : PcLineMap} {weight : Step → Nat}
    (hempty : measure empty = 0)
    (hstep : ∀ p s, measure (p.addStep (map.lineFor s.pc) s) = measure p + weight s) (t : Trace) :
    measure (ofTrace t map) = (t.steps.map weight).sum := by
  have hrun : ∀ (steps : List Step) (p : Profile),
      measure (steps.foldl (fun q s => q.addStep (map.lineFor s.pc) s) p) =
        measure p + (steps.map weight).sum := by
    intro steps
    induction steps with
    | nil => exact fun p => rfl
    | cons s steps ih =>
      intro p
      rw [List.foldl_cons, ih, hstep, List.map_cons, List.sum_cons, Nat.add_assoc]
  rw [ofTrace, hrun, hempty, Nat.zero_add]

/-- A profile holds the gas of the steps that have a line, at their lines. -/
theorem totalWhere_ofTrace (p : Line → Bool) (t : Trace) (map : PcLineMap) :
    (ofTrace t map).costByLine.totalWhere p = gasWhere map (positive p) t.steps := by
  rw [gasWhere_eq_sum]
  exact measure_ofTrace (fun q => q.costByLine.totalWhere p) rfl
    (fun q s => totalWhere_addStep p q (map.lineFor s.pc) s) t

end Profile

/-! ### Reports -/

namespace FunctionReport

/-- Accumulated costs count where they stand, if that is a line of a source. -/
theorem totalWhere_accumulate (p : Line → Bool) (r : FunctionReport)
    (costs : SortedMap Line Nat) :
    (r.accumulate costs).costByLine.totalWhere p =
      r.costByLine.totalWhere p + costs.totalWhere (positive p) := by
  simp only [accumulate, SortedMap.totalWhere_foldl_add]
  rw [sumWhere_filter p fun line => decide (0 < line)]
  rfl

theorem costByLine_finalize (r : FunctionReport) : r.finalize.costByLine = r.costByLine := by
  simp only [finalize]
  split <;> rfl

/-- Reports filled with the profiles of traces: those that a campaign builds, where samples,
invocations without a receipt and closings may stand anywhere between the traces. -/
inductive Collected (map : PcLineMap) : FunctionReport → List Trace → Prop where
  | start (name : String) : Collected map (ofName name) []
  | record {r : FunctionReport} {ts : List Trace} (s : Sample) :
      Collected map r ts → Collected map (r.record s) ts
  | skip {r : FunctionReport} {ts : List Trace} : Collected map r ts → Collected map r.skip ts
  | finalize {r : FunctionReport} {ts : List Trace} :
      Collected map r ts → Collected map r.finalize ts
  | charge {r r' : FunctionReport} {ts : List Trace} {t : Trace} {p : Profile} :
      Collected map r ts → Profile.replay t map = some p → r.charge p.costByLine = some r' →
        Collected map r' (ts ++ [t])

section

variable {map : PcLineMap} {r r' : FunctionReport} {ts : List Trace} {t : Trace}

theorem Collected.fits (h : Collected map r ts) : r.costByLine.Fits := by
  induction h with
  | start name => exact SortedMap.fits_empty
  | record s _ ih => exact ih
  | skip _ ih => exact ih
  | finalize _ ih => rwa [costByLine_finalize]
  | charge _ _ hcharge ih => exact ((charge_eq_some_iff ih).1 hcharge).1

theorem Collected.eq_accumulate (h : Collected map r ts) {p : Profile}
    (hp : Profile.replay t map = some p) (hcharge : r.charge p.costByLine = some r') :
    r' = r.accumulate (Profile.ofTrace t map).costByLine := by
  obtain ⟨_, rfl⟩ := Profile.replay_eq_some_iff.1 hp
  exact ((charge_eq_some_iff h.fits).1 hcharge).2

/-- One more trace brings the gas of its steps, at their lines. -/
theorem totalWhere_accumulate_ofTrace {p : Line → Bool}
    (h : r.costByLine.totalWhere p = gasWhere map (positive p) (ts.flatMap Trace.steps)) :
    (r.accumulate (Profile.ofTrace t map).costByLine).costByLine.totalWhere p =
      gasWhere map (positive p) ((ts ++ [t]).flatMap Trace.steps) := by
  -- a trace that is profiled has passed over the steps without a line already
  have hpositive : positive (positive p) = positive p := by
    funext line
    simp [positive]
  rw [totalWhere_accumulate, h, Profile.totalWhere_ofTrace, hpositive, List.flatMap_append,
    gasWhere_append, List.flatMap_singleton]

/-- A report holds the gas of the steps of its traces, at their lines. -/
theorem Collected.totalWhere_costByLine (h : Collected map r ts) (p : Line → Bool) :
    r.costByLine.totalWhere p = gasWhere map (positive p) (ts.flatMap Trace.steps) := by
  induction h with
  | start name => rfl
  | record s _ ih => exact ih
  | skip _ ih => exact ih
  | finalize _ ih => rw [costByLine_finalize, ih]
  | charge hr hp hcharge ih => rw [hr.eq_accumulate hp hcharge, totalWhere_accumulate_ofTrace ih]

/-- Whether a report is held in words is decided by the gas of each line on its own. -/
theorem fits_iff_of_totalWhere
    (h : ∀ p, r.costByLine.totalWhere p = gasWhere map (positive p) (ts.flatMap Trace.steps)) :
    r.costByLine.Fits ↔ ∀ line, 0 < line →
      gasWhere map (fun l => decide (l = line)) (ts.flatMap Trace.steps) ≤ maxU64 := by
  simp only [SortedMap.Fits, SortedMap.getD_eq_totalWhere, h]
  constructor
  · intro hfits line hpos
    rw [← positive_eq_of_pos hpos]
    exact hfits line
  · intro hlines line
    by_cases hpos : 0 < line
    · rw [positive_eq_of_pos hpos]
      exact hlines line hpos
    · -- nothing is held where there is no line of a source
      have hnone : (positive fun l => decide (l = line)) = fun _ => false := by
        funext l
        simp only [positive, Bool.and_eq_false_iff, decide_eq_false_iff_not]
        by_cases hl : l = line
        · exact Or.inl (hl ▸ hpos)
        · exact Or.inr hl
      rw [hnone, gasWhere_eq_sumWhere, sumWhere_eq_zero fun _ _ => rfl]
      exact Nat.zero_le _

theorem Collected.tracesFit (h : Collected map r ts) : TracesFit map ts where
  traces := by
    induction h with
    | start name => exact fun t ht => absurd ht List.not_mem_nil
    | record s _ ih => exact ih
    | skip _ ih => exact ih
    | finalize _ ih => exact ih
    | charge _ hp _ ih =>
      intro t ht
      rcases List.mem_append.1 ht with ht | ht
      · exact ih t ht
      · rw [List.mem_singleton.1 ht]
        exact (Profile.replay_eq_some_iff.1 hp).1
  lines := (fits_iff_of_totalWhere h.totalWhere_costByLine).1 h.fits

/-- **When one more trace can be entered**: exactly if its gas and that of its lines can be held
in words together with what is held already. -/
theorem Collected.exists_charge_iff (h : Collected map r ts) :
    (∃ p r', Profile.replay t map = some p ∧ r.charge p.costByLine = some r') ↔
      TracesFit map (ts ++ [t]) := by
  constructor
  · rintro ⟨p, r', hp, hcharge⟩
    exact (h.charge hp hcharge).tracesFit
  · intro hfits
    have htrace := hfits.traces t (List.mem_append_right ts (List.mem_singleton_self t))
    have hlines := (fits_iff_of_totalWhere fun p =>
      totalWhere_accumulate_ofTrace (t := t) (h.totalWhere_costByLine p)).2 hfits.lines
    exact ⟨_, _, Profile.replay_eq_some_iff.2 ⟨htrace, rfl⟩,
      (charge_eq_some_iff h.fits).2 ⟨hlines, rfl⟩⟩

end

/-- Reports of several functions together hold the gas of the steps of all their traces. -/
theorem sum_totalWhere_of_collected {map : PcLineMap} {rs : List FunctionReport}
    {runs : List (List Trace)} (h : List.Forall₂ (Collected map) rs runs) (p : Line → Bool) :
    (rs.map fun r => r.costByLine.totalWhere p).sum =
      gasWhere map (positive p) (runs.flatten.flatMap Trace.steps) := by
  induction h with
  | nil => rfl
  | cons hcollected _ ih =>
    rw [List.map_cons, List.sum_cons, hcollected.totalWhere_costByLine, ih, List.flatten_cons,
      List.flatMap_append, gasWhere_append]

end FunctionReport

/-! ### Heatmaps -/

/-- The merged costs hold what the functions hold on the lines that count. -/
theorem totalWhere_mergedCosts (p : Line → Bool) (lines : List (List Char))
    (c : ContractReport) :
    (mergedCosts lines c).totalWhere p =
      (c.functions.map fun f =>
        f.costByLine.totalWhere fun line => countsAt lines line && p line).sum := by
  rw [mergedCosts, SortedMap.totalWhere_foldl_add, SortedMap.totalWhere_empty, Nat.zero_add,
    countedEntries, sumWhere_flatMap]
  apply congrArg List.sum
  apply List.map_congr_left
  intro f _
  exact sumWhere_filter p (countsAt lines) f.costByLine.entries

/-- The merged costs of collected reports hold the gas of the steps whose lines count. -/
theorem totalWhere_mergedCosts_of_collected {map : PcLineMap} {c : ContractReport}
    {runs : List (List Trace)} (h : List.Forall₂ (FunctionReport.Collected map) c.functions runs)
    (p : Line → Bool) (lines : List (List Char)) :
    (mergedCosts lines c).totalWhere p =
      gasWhere map (fun line => countsAt lines line && p line)
        (runs.flatten.flatMap Trace.steps) := by
  -- a line that counts is a line of a source
  have hcounts : (positive fun line => countsAt lines line && p line) =
      fun line => countsAt lines line && p line := by
    funext line
    by_cases hline : 0 < line <;> simp [positive, countsAt, hline]
  rw [totalWhere_mergedCosts, FunctionReport.sum_totalWhere_of_collected h, hcounts]

/-- The lines of a heatmap are the lines of the source, numbered in a row. -/
theorem getElem?_heatmapLinesFrom (costs : SortedMap Line Nat) (total count number i : Nat)
    (lines : List (List Char)) :
    (heatmapLinesFrom costs total count number lines)[i]? =
      lines[i]?.map (heatmapLine costs total count (number + i)) := by
  induction lines generalizing number i with
  | nil => rfl
  | cons text lines ih =>
    cases i with
    | zero => rfl
    | succ i =>
      rw [heatmapLinesFrom, List.getElem?_cons_succ, List.getElem?_cons_succ, ih]
      congr 2
      omega

theorem number_heatmapLine (costs : SortedMap Line Nat) (total count number : Nat)
    (text : List Char) : (heatmapLine costs total count number text).number = number := by
  simp only [heatmapLine]
  split <;> rfl

/-- Every line but the last one shows what the merged costs hold there. -/
theorem cost_heatmapLine_of_ne {number count : Nat} (h : number ≠ count)
    (costs : SortedMap Line Nat) (total : Nat) (text : List Char) :
    (heatmapLine costs total count number text).cost = costs.getD number 0 := by
  simp [heatmapLine, h]

end GasLens
