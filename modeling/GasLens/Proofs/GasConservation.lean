/-
  GasLens/Proofs/GasConservation.lean
  ===================================
  **No gas is lost between a trace and the heatmap** — the gas of all executed steps is shown in
  the total of the heatmap, or belongs to steps without a line, or to lines that hold no code.

  The lines of the steps come from the index of the source, the lines of the heatmap from its
  text. A line of the one is a line of the other (`lineFor_cases`), so every step is of exactly
  one of the three kinds (`toNat_countsAt_add`) and the sums follow from the measures of
  `CostByLine`. Where all the gas fits a word, nothing on the way is missing: every trace can be
  entered and there is a heatmap.
-/
import GasLens.Proofs.CostByLine
import GasLens.Proofs.PcAlignment
import Mathlib

namespace GasLens

open GasLens.Source GasLens.Text

/-- Whether a program counter that is given this line has none. -/
def isUnmapped (line : Line) : Bool := decide (line = unmappedLine)

/-- Whether a line of the source is not the last one and holds no code. -/
def isPassedOver (lines : List (List Char)) (line : Line) : Bool :=
  decide (0 < line) && decide (line.toNat ≠ lines.length) &&
    lines[line.toNat - 1]?.any isNonExecutable

/-- Whatever has no line or one of the lines counts, has no line, or is passed over, and only
one of these. -/
theorem toNat_countsAt_add {lines : List (List Char)} {line : Line}
    (h : line = unmappedLine ∨ 0 < line ∧ line ≤ lines.length) :
    (countsAt lines line).toNat + (isUnmapped line).toNat + (isPassedOver lines line).toNat =
      1 := by
  rcases h with rfl | ⟨hpos, hle⟩
  · rfl
  · have hne : isUnmapped line = false := by
      apply decide_eq_false
      intro heq
      rw [heq] at hpos
      exact absurd hpos (by decide)
    have hnat : line.toNat - 1 < lines.length := by
      have hcast := Int.toNat_le_toNat hle
      rw [Int.toNat_natCast] at hcast
      have hone : 0 < line.toNat := Int.pos_iff_toNat_pos.1 hpos
      omega
    rw [hne, countsAt, isPassedOver, List.getElem?_eq_getElem hnat]
    by_cases hlast : line.toNat = lines.length
    · simp [hpos, hlast]
    · cases hexec : isNonExecutable lines[line.toNat - 1] <;> simp [hpos, hlast, hexec]

/-- The line of a number counts if it is not the last one and holds code. -/
theorem countsAt_of_executable {lines : List (List Char)} {i : Nat} {text : List Char}
    (hget : lines[i]? = some text) (hexec : isNonExecutable text = false) :
    countsAt lines ((i + 1 : Nat) : Int) = true := by
  have hindex : ((i + 1 : Nat) : Int).toNat - 1 = i := by omega
  rw [countsAt, hindex, hget]
  simp [hexec]

/-- Steps whose lines are lines of the source, or none, share out their gas to the three kinds. -/
theorem sum_cost_eq_gasWhere {map : PcLineMap} {lines : List (List Char)}
    (hlines : ∀ pc, map.lineFor pc = unmappedLine ∨
      0 < map.lineFor pc ∧ map.lineFor pc ≤ lines.length) (steps : List Step) :
    (steps.map Step.cost).sum =
      gasWhere map (countsAt lines) steps + gasWhere map isUnmapped steps +
        gasWhere map (isPassedOver lines) steps := by
  have hcharges : steps.map Step.cost = (charges map steps).map Prod.snd := by
    rw [charges, List.map_map]
    rfl
  rw [hcharges, gasWhere_eq_sumWhere, gasWhere_eq_sumWhere, gasWhere_eq_sumWhere]
  apply sum_eq_sumWhere_add
  intro e he
  obtain ⟨s, _, rfl⟩ := List.mem_map.1 he
  exact toNat_countsAt_add (hlines s.pc)

section Heatmaps

variable {map : PcLineMap} {report : ContractReport} {runs : List (List Trace)}

theorem totalCost_build (hruns : List.Forall₂ (FunctionReport.Collected map) report.functions runs)
    (source : String) :
    (Heatmap.build report source).totalCost =
      gasWhere map (countsAt (sourceLines source)) (runs.flatten.flatMap Trace.steps) := by
  have htotal := totalWhere_mergedCosts_of_collected hruns (fun _ => true) (sourceLines source)
  simp only [Bool.and_true] at htotal
  rw [← SortedMap.total_eq_totalWhere] at htotal
  exact htotal

/-- A line that holds code and is not the last one shows the gas of its steps. -/
theorem exists_line_build
    (hruns : List.Forall₂ (FunctionReport.Collected map) report.functions runs) {source : String}
    {i : Nat} {text : List Char} (hget : (sourceLines source)[i]? = some text)
    (hlast : i + 1 ≠ (sourceLines source).length) (hexec : isNonExecutable text = false) :
    ∃ shown, (Heatmap.build report source).lines[i]? = some shown ∧ shown.number = i + 1 ∧
      shown.cost = gasWhere map (fun line => decide (line = (i + 1 : Nat)))
        (runs.flatten.flatMap Trace.steps) := by
  have hshown := getElem?_heatmapLinesFrom (mergedCosts (sourceLines source) report)
    (mergedCosts (sourceLines source) report).total (sourceLines source).length 1 i
    (sourceLines source)
  rw [hget, Option.map_some, Nat.add_comm 1 i] at hshown
  refine ⟨_, hshown, ?_, ?_⟩
  · exact number_heatmapLine _ _ _ (i + 1) text
  · rw [cost_heatmapLine_of_ne hlast, SortedMap.getD_eq_totalWhere,
      totalWhere_mergedCosts_of_collected hruns]
    -- at this one line, to count says nothing more
    congr 1
    funext line
    by_cases hline : line = ((i + 1 : Nat) : Int)
    · rw [hline, countsAt_of_executable hget hexec, Bool.true_and]
    · rw [decide_eq_false hline, Bool.and_false]

end Heatmaps

/-- **Gas is conserved.** Over reports that are filled with the profiles of traces through a map
of this source, the gas of all steps is the total of the heatmap, the gas of the steps without a
line, and the gas of the steps on lines that are passed over. No line is outside the source, and
every line that holds code and is not the last one shows the gas of exactly its steps. As long as
the gas of all steps fits a word, traces can be entered and there is a heatmap. -/
theorem gas_conserved {sourceMap code : Option String} {source : String}
    {policy : EmptyFieldPolicy} {map : PcLineMap} {report : ContractReport}
    {runs : List (List Trace)} (hmap : buildPcLineMap sourceMap code source policy = .ok map)
    (hruns : List.Forall₂ (FunctionReport.Collected map) report.functions runs) :
    let steps := runs.flatten.flatMap Trace.steps
    let lines := sourceLines source
    (∀ heatmap, Heatmap.ofReport report source = some heatmap →
      (steps.map Step.cost).sum =
          heatmap.totalCost + gasWhere map isUnmapped steps +
            gasWhere map (isPassedOver lines) steps ∧
        ∀ i text, lines[i]? = some text → i + 1 ≠ lines.length → isNonExecutable text = false →
          ∃ shown, heatmap.lines[i]? = some shown ∧ shown.number = i + 1 ∧
            shown.cost = gasWhere map (fun line => decide (line = (i + 1 : Nat))) steps) ∧
      (∀ pc, map.lineFor pc ≤ lines.length) ∧
      ((steps.map Step.cost).sum ≤ maxU64 → (Heatmap.ofReport report source).isSome) ∧
      ∀ r ts t, FunctionReport.Collected map r ts →
        (((ts ++ [t]).flatMap Trace.steps).map Step.cost).sum ≤ maxU64 →
          ∃ p r', Profile.replay t map = some p ∧ r.charge p.costByLine = some r' := by
  intro steps lines
  have hlines : ∀ pc, map.lineFor pc = unmappedLine ∨
      0 < map.lineFor pc ∧ map.lineFor pc ≤ lines.length := lineFor_cases hmap
  have hsum : (steps.map Step.cost).sum =
      (Heatmap.build report source).totalCost + gasWhere map isUnmapped steps +
        gasWhere map (isPassedOver lines) steps := by
    rw [totalCost_build hruns source]
    exact sum_cost_eq_gasWhere hlines steps
  refine ⟨?_, ?_, ?_, ?_⟩
  · intro heatmap hbuilt
    obtain ⟨_, rfl⟩ := Heatmap.ofReport_eq_some_iff.1 hbuilt
    exact ⟨hsum, fun i text hget hlast hexec => exists_line_build hruns hget hlast hexec⟩
  · intro pc
    rcases hlines pc with h | ⟨_, h⟩
    · rw [h]
      exact Int.le_trans (by decide : (-1 : Int) ≤ 0) (Int.natCast_nonneg _)
    · exact h
  · intro hfits
    exact Option.isSome_iff_exists.2 ⟨_, Heatmap.ofReport_eq_some_iff.2 ⟨by omega, rfl⟩⟩
  · intro r ts t hcollected hfits
    exact hcollected.exists_charge_iff.2 (tracesFit_of_sum_le hfits)

/-- Four steps, on a line of code, on a comment, on another line of code, and without a line: of
fifteen units of gas two and eight are not in the total, and the first line shows its own. -/
theorem gas_conserved_four_steps :
    let source := "A;\n// b\nC;\nD"
    let map : PcLineMap := ⟨[(0, 1), (1, 2), (2, 3), (3, -1)]⟩
    let trace := Trace.ofSteps
      [⟨0, "ADD", 1, 1⟩, ⟨1, "ADD", 2, 1⟩, ⟨2, "ADD", 4, 1⟩, ⟨3, "ADD", 8, 1⟩]
    buildPcLineMap (some "0:1;3:1;8:1;-1:1") (some "01010101") source .absent = .ok map ∧
      ∃ p filled heatmap, Profile.replay trace map = some p ∧
        (FunctionReport.ofName "f").charge p.costByLine = some filled ∧
        FunctionReport.Collected map filled [trace] ∧
        Heatmap.ofReport ⟨"C", 1, [filled]⟩ source = some heatmap ∧ heatmap.totalCost = 5 ∧
        ∃ shown, heatmap.lines[0]? = some shown ∧ shown.number = 1 ∧ shown.cost = 1 := by
  intro source map trace
  have hmap : buildPcLineMap (some "0:1;3:1;8:1;-1:1") (some "01010101") source .absent =
      .ok map := by cbv
  have hnone : List.Forall₂ (FunctionReport.Collected map) (ContractReport.mk "C" 1 []).functions
      [] := .nil
  obtain ⟨_, _, _, henter⟩ := gas_conserved hmap hnone
  obtain ⟨p, filled, hp, hcharge⟩ := henter _ _ trace (.start "f") (by decide)
  have hfilled : FunctionReport.Collected map filled [trace] := .charge (.start "f") hp hcharge
  have hruns : List.Forall₂ (FunctionReport.Collected map)
      (ContractReport.mk "C" 1 [filled]).functions [[trace]] := .cons hfilled .nil
  obtain ⟨hheatmap, _, hbuilt, _⟩ := gas_conserved hmap hruns
  obtain ⟨heatmap, hheat⟩ := Option.isSome_iff_exists.1 (hbuilt (by decide))
  obtain ⟨hsum, hline⟩ := hheatmap heatmap hheat
  have hlines : sourceLines source = [['A', ';'], "// b".toList, ['C', ';'], ['D']] := by cbv
  have hfirst : (sourceLines source)[0]? = some ['A', ';'] := by rw [hlines]; rfl
  have hlast : 0 + 1 ≠ (sourceLines source).length := by rw [hlines]; decide
  refine ⟨hmap, p, filled, heatmap, hp, hcharge, hfilled, hheat, ?_,
    hline 0 ['A', ';'] hfirst hlast (by decide)⟩
  have hover : gasWhere map (isPassedOver (sourceLines source))
      ([[trace]].flatten.flatMap Trace.steps) = 2 := by rw [hlines]; decide
  rw [hover] at hsum
  have hsum' : 15 = heatmap.totalCost + 8 + 2 := hsum
  omega

end GasLens
