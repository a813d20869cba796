/-
  GasLens/Proofs/CostKeys.lean
  ============================
  **Which lines have a cost** — the costs of a report have an entry for a line exactly if a step
  of one of its traces belongs to that line, and also if all these steps are free.

  Together with the sums of `CostByLine` this says what every lookup gives
  (`get?_costByLine_eq_some_iff`).
-/
import GasLens.Proofs.CostByLine
import GasLens.Proofs.Maps

namespace GasLens

open GasLens.Source

/-- Some step belongs to a line, and it is a line of a source. -/
def IsCharged (map : PcLineMap) (steps : List Step) (line : Line) : Prop :=
  0 < line ∧ ∃ s ∈ steps, map.lineFor s.pc = line

theorem isCharged_append {map : PcLineMap} {ss ts : List Step} {line : Line} :
    IsCharged map (ss ++ ts) line ↔ IsCharged map ss line ∨ IsCharged map ts line := by
  simp only [IsCharged, List.mem_append, or_and_right, exists_or, and_or_left]

theorem isCharged_cons {map : PcLineMap} {s : Step} {ss : List Step} {line : Line} :
    IsCharged map (s :: ss) line ↔
      0 < line ∧ map.lineFor s.pc = line ∨ IsCharged map ss line := by
  simp only [IsCharged, List.exists_mem_cons_iff, and_or_left]

namespace Profile

/-- A step brings its own line, if it has one, even if it costs nothing. -/
theorem mem_keys_addStep {profile : Profile} {line line' : Line} {s : Step} :
    line ∈ (profile.addStep line' s).costByLine.keys ↔
      0 < line ∧ line' = line ∨ line ∈ profile.costByLine.keys := by
  unfold addStep
  by_cases h : 0 < line'
  · simp only [h, decide_true, if_true, SortedMap.mem_keys_add]
    constructor
    · rintro (rfl | hmem)
      · exact Or.inl ⟨h, rfl⟩
      · exact Or.inr hmem
    · rintro (⟨_, rfl⟩ | hmem)
      · exact Or.inl rfl
      · exact Or.inr hmem
  · have hnot : ¬ (0 < line ∧ line' = line) := by
      rintro ⟨hpos, rfl⟩
      exact h hpos
    simp [h, hnot]

theorem mem_keys_foldl_addStep (map : PcLineMap) (steps : List Step) (profile : Profile)
    (line : Line) :
    line ∈ (steps.foldl (fun q s => q.addStep (map.lineFor s.pc) s) profile).costByLine.keys ↔
      IsCharged map steps line ∨ line ∈ profile.costByLine.keys := by
  induction steps generalizing profile with
  | nil => simp [IsCharged]
  | cons s steps ih =>
    rw [List.foldl_cons, ih, mem_keys_addStep, isCharged_cons, or_left_comm, or_assoc]

/-- A profile has an entry for the lines of its steps, whether or not they cost anything. -/
theorem mem_keys_ofTrace {t : Trace} {map : PcLineMap} {line : Line} :
    line ∈ (ofTrace t map).costByLine.keys ↔ IsCharged map t.steps line := by
  rw [ofTrace, mem_keys_foldl_addStep]
  simp [empty, SortedMap.keys, SortedMap.empty]

end Profile

namespace FunctionReport

theorem mem_keys_accumulate {r : FunctionReport} {costs : SortedMap Line Nat} {line : Line} :
    line ∈ (r.accumulate costs).costByLine.keys ↔
      0 < line ∧ line ∈ costs.keys ∨ line ∈ r.costByLine.keys := by
  have hfilter : line ∈ (costs.entries.filter fun e => decide (0 < e.1)).map Prod.fst ↔
      0 < line ∧ line ∈ costs.keys := by
    simp only [SortedMap.keys, List.mem_map, List.mem_filter, decide_eq_true_eq]
    constructor
    · rintro ⟨e, ⟨hmem, hpos⟩, rfl⟩
      exact ⟨hpos, e, hmem, rfl⟩
    · rintro ⟨hpos, e, hmem, rfl⟩
      exact ⟨e, ⟨hmem, hpos⟩, rfl⟩
  simp only [accumulate, SortedMap.mem_keys_foldl_add, hfilter]

variable {map : PcLineMap} {r : FunctionReport} {ts : List Trace}

theorem Collected.mem_keys_costByLine (h : Collected map r ts) (line : Line) :
    line ∈ r.costByLine.keys ↔ IsCharged map (ts.flatMap Trace.steps) line := by
  induction h with
  | start name => simp [ofName, SortedMap.keys, SortedMap.empty, IsCharged]
  | record s _ ih => exact ih
  | skip _ ih => exact ih
  | finalize _ ih => rw [costByLine_finalize, ih]
  | @charge _ _ _ t _ hr hp hcharge ih =>
    rw [hr.eq_accumulate hp hcharge, mem_keys_accumulate, ih, Profile.mem_keys_ofTrace,
      List.flatMap_append, isCharged_append, List.flatMap_singleton]
    have hpos : 0 < line ∧ IsCharged map t.steps line ↔ IsCharged map t.steps line :=
      and_iff_right_of_imp And.left
    rw [hpos, or_comm]

/-- **The costs of a report line by line**: what stands at a line is the gas of its steps, and
nothing stands at a line without steps. -/
theorem Collected.get?_costByLine_eq_some_iff (h : Collected map r ts) (line : Line) (cost : Nat) :
    r.costByLine.get? line = some cost ↔
      IsCharged map (ts.flatMap Trace.steps) line ∧
        cost = gasWhere map (fun l => decide (l = line)) (ts.flatMap Trace.steps) := by
  rw [SortedMap.get?_eq_some_iff, h.mem_keys_costByLine, SortedMap.getD_eq_totalWhere,
    h.totalWhere_costByLine]
  exact and_congr_right fun hcharged => by rw [positive_eq_of_pos hcharged.1]

end FunctionReport

end GasLens
