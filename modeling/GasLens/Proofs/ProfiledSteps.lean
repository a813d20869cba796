/-
  GasLens/Proofs/ProfiledSteps.lean
  =================================
  **Profiles and their steps** — what a profile says of the steps of a trace, whatever their order.

  A profile is filled one step at a time. Every number in it is a measure that grows by a weight
  of the step, so it is the sum of the weights (`measure_ofTrace`); a map in it holds a key
  exactly if a step brought it. Measures and keys together are the whole of a profile
  (`SortedMap.ext_get?`). They see neither the order of the steps nor where one trace ends and the
  next one begins, and neither does the profile.

  All this is shown for profiles over whole numbers. There is a profile in words exactly if the
  gas of the trace fits a word, and then it is the same one.
-/
import GasLens.Proofs.CostKeys

namespace GasLens

open GasLens.Source GasLens.Text

/-! ### Counts -/

theorem sum_map_ite_one {α : Type} (p : α → Bool) (xs : List α) :
    (xs.map fun x => if p x then 1 else 0).sum = xs.countP p := by
  induction xs with
  | nil => rfl
  | cons x xs ih =>
    rw [List.map_cons, List.sum_cons, ih, List.countP_cons, Nat.add_comm]

namespace Profile

/-! ### Measures of a profile -/

theorem totalCost_ofTrace (t : Trace) (map : PcLineMap) :
    (ofTrace t map).totalCost = (t.steps.map Step.cost).sum :=
  measure_ofTrace totalCost rfl (fun _ _ => rfl) t

/-- A step has a line of the source. -/
def isMapped (map : PcLineMap) (s : Step) : Bool := decide (0 < map.lineFor s.pc)

theorem mappedSteps_ofTrace (t : Trace) (map : PcLineMap) :
    (ofTrace t map).mappedSteps = t.steps.countP (isMapped map) := by
  rw [← sum_map_ite_one]
  refine measure_ofTrace mappedSteps rfl (fun p s => ?_) t
  by_cases h : 0 < map.lineFor s.pc <;> simp [addStep, isMapped, h]

theorem unmappedSteps_ofTrace (t : Trace) (map : PcLineMap) :
    (ofTrace t map).unmappedSteps = t.steps.countP fun s => !isMapped map s := by
  rw [← sum_map_ite_one]
  refine measure_ofTrace unmappedSteps rfl (fun p s => ?_) t
  by_cases h : 0 < map.lineFor s.pc <;> simp [addStep, isMapped, h]

/-! ### Operations -/

theorem opcodeCounts_ofTrace (t : Trace) (map : PcLineMap) :
    (ofTrace t map).opcodeCounts =
      (t.steps.map fun s => (s.op, 1)).foldl (fun m e => m.add e.1 e.2) .empty := by
  rw [List.foldl_map, ofTrace]
  exact (List.foldl_hom opcodeCounts fun _ _ => rfl).symm

theorem totalWhere_opcodeCounts (p : String → Bool) (t : Trace) (map : PcLineMap) :
    (ofTrace t map).opcodeCounts.totalWhere p = t.steps.countP fun s => p s.op := by
  rw [← sum_map_ite_one]
  exact measure_ofTrace (fun q => q.opcodeCounts.totalWhere p) rfl
    (fun q s => SortedMap.totalWhere_add p q.opcodeCounts s.op 1) t

theorem mem_keys_opcodeCounts {op : String} {t : Trace} {map : PcLineMap} :
    op ∈ (ofTrace t map).opcodeCounts.keys ↔ ∃ s ∈ t.steps, s.op = op := by
  rw [opcodeCounts_ofTrace, SortedMap.mem_keys_foldl_add]
  simp [SortedMap.keys, SortedMap.empty]

/-! ### What a profile says of its steps -/

/-- What a profile says of steps whose lines are given by a map. -/
structure Attributes (map : PcLineMap) (steps : List Step) (p : Profile) : Prop where
  totalCost : p.totalCost = (steps.map Step.cost).sum
  /-- A line has an entry if a step belongs to it, though the step may be free. -/
  costByLine : ∀ line cost, p.costByLine.get? line = some cost ↔
    IsCharged map steps line ∧ cost = gasWhere map (fun l => decide (l = line)) steps
  /-- The gas of the steps without a line is all that is on no line. -/
  mappedCost :
    p.mappedCost.map (· + gasWhere map (fun l => decide (l ≤ 0)) steps) = some p.totalCost
  opcodeCounts : ∀ op n, p.opcodeCounts.get? op = some n ↔
    0 < n ∧ n = steps.countP fun s => decide (s.op = op)
  mappedSteps : p.mappedSteps = steps.countP (isMapped map)
  total_opcodeCounts : p.opcodeCounts.total = p.mappedSteps + p.unmappedSteps
  length_steps : p.mappedSteps + p.unmappedSteps = steps.length

theorem get?_costByLine_ofTrace {t : Trace} {map : PcLineMap} {line : Line} {cost : Nat} :
    (ofTrace t map).costByLine.get? line = some cost ↔
      IsCharged map t.steps line ∧ cost = gasWhere map (fun l => decide (l = line)) t.steps := by
  rw [SortedMap.get?_eq_some_iff, mem_keys_ofTrace, SortedMap.getD_eq_totalWhere,
    totalWhere_ofTrace]
  exact and_congr_right fun hcharged => by rw [positive_eq_of_pos hcharged.1]

theorem get?_opcodeCounts_ofTrace {t : Trace} {map : PcLineMap} {op : String} {n : Nat} :
    (ofTrace t map).opcodeCounts.get? op = some n ↔
      0 < n ∧ n = t.steps.countP fun s => decide (s.op = op) := by
  have hkey : op ∈ (ofTrace t map).opcodeCounts.keys ↔
      0 < t.steps.countP fun s => decide (s.op = op) := by
    rw [mem_keys_opcodeCounts, List.countP_pos_iff]
    simp only [decide_eq_true_eq]
  rw [SortedMap.get?_eq_some_iff, hkey, SortedMap.getD_eq_totalWhere, totalWhere_opcodeCounts]
  exact and_congr_left fun hn => by rw [hn]

theorem mappedSteps_add_unmappedSteps (t : Trace) (map : PcLineMap) :
    (ofTrace t map).mappedSteps + (ofTrace t map).unmappedSteps = t.steps.length := by
  rw [mappedSteps_ofTrace, unmappedSteps_ofTrace, List.length_eq_countP_add_countP (isMapped map)]
  simp only [Bool.not_eq_true, Bool.decide_eq_false]

theorem total_opcodeCounts_ofTrace (t : Trace) (map : PcLineMap) :
    (ofTrace t map).opcodeCounts.total = t.steps.length := by
  rw [SortedMap.total_eq_totalWhere, totalWhere_opcodeCounts, List.countP_true]

theorem total_costByLine_add_gasWhere (t : Trace) (map : PcLineMap) :
    (ofTrace t map).costByLine.total + gasWhere map (fun l => decide (l ≤ 0)) t.steps =
      (ofTrace t map).totalCost := by
  have hmapped : (positive fun _ => true) = fun l => decide (0 < l) := by
    funext l
    rw [positive, Bool.and_true]
  have hrest : (fun l : Line => decide (l ≤ 0)) = fun l => !decide (0 < l) := by
    funext l
    rw [← decide_not, decide_eq_decide, Int.not_lt]
  rw [SortedMap.total_eq_totalWhere, totalWhere_ofTrace, totalCost_ofTrace, hmapped, hrest,
    gasWhere_add_gasWhere_not]

/-- Each step counts once: in the total, in its operation, and at its line or among those without
one. -/
theorem attributes_ofTrace {t : Trace} (h : (t.steps.map Step.cost).sum ≤ maxU64)
    (map : PcLineMap) : (ofTrace t map).Attributes map t.steps where
  totalCost := totalCost_ofTrace t map
  costByLine := fun _ _ => get?_costByLine_ofTrace
  mappedCost := by
    have hsum := total_costByLine_add_gasWhere t map
    have hfits : (ofTrace t map).costByLine.total ≤ maxU64 := by
      rw [totalCost_ofTrace] at hsum
      omega
    rw [mappedCost, SortedMap.sum_eq_word, Checked.word_eq_some_iff.2 ⟨hfits, rfl⟩,
      Option.map_some, hsum]
  opcodeCounts := fun _ _ => get?_opcodeCounts_ofTrace
  mappedSteps := mappedSteps_ofTrace t map
  total_opcodeCounts :=
    (total_opcodeCounts_ofTrace t map).trans (mappedSteps_add_unmappedSteps t map).symm
  length_steps := mappedSteps_add_unmappedSteps t map

/-! ### The order of the steps -/

theorem gasWhere_of_perm {map : PcLineMap} {ss ts : List Step} (h : ss.Perm ts)
    (p : Line → Bool) : gasWhere map p ss = gasWhere map p ts :=
  ((h.filter _).map Step.cost).sum_nat

theorem isCharged_of_perm {map : PcLineMap} {ss ts : List Step} (h : ss.Perm ts) (line : Line) :
    IsCharged map ss line ↔ IsCharged map ts line := by
  simp only [IsCharged, h.mem_iff]

/-- Two profiles that say the same of the same steps are one, in whatever order these stand. -/
theorem Attributes.eq_of_perm {map : PcLineMap} {ss ts : List Step} {p q : Profile}
    (hp : p.Attributes map ss) (hq : q.Attributes map ts) (h : ss.Perm ts) : p = q := by
  have htotal : p.totalCost = q.totalCost := by
    rw [hp.totalCost, hq.totalCost, (h.map Step.cost).sum_nat]
  have hcosts : p.costByLine = q.costByLine := by
    refine SortedMap.ext_get? fun line => Option.ext fun cost => ?_
    rw [hp.costByLine, hq.costByLine, isCharged_of_perm h, gasWhere_of_perm h]
  have hcounts : p.opcodeCounts = q.opcodeCounts := by
    refine SortedMap.ext_get? fun op => Option.ext fun n => ?_
    rw [hp.opcodeCounts, hq.opcodeCounts, h.countP_eq]
  have hmapped : p.mappedSteps = q.mappedSteps := by
    rw [hp.mappedSteps, hq.mappedSteps, h.countP_eq]
  have hunmapped : p.unmappedSteps = q.unmappedSteps := by
    have hlength := hp.length_steps
    rw [h.length_eq, ← hq.length_steps, hmapped] at hlength
    exact Nat.add_left_cancel hlength
  cases p
  cases q
  simp only at htotal hcosts hcounts hmapped hunmapped
  rw [htotal, hcosts, hcounts, hmapped, hunmapped]

/-! ### Traces one after another -/

/-- A profile is the sum of two others, field by field and entry by entry. -/
structure IsSum (p q r : Profile) : Prop where
  totalCost : r.totalCost = p.totalCost + q.totalCost
  costByLine : ∀ line, r.costByLine.get? line =
    (p.costByLine.get? line).merge (· + ·) (q.costByLine.get? line)
  opcodeCounts : ∀ op, r.opcodeCounts.get? op =
    (p.opcodeCounts.get? op).merge (· + ·) (q.opcodeCounts.get? op)
  mappedSteps : r.mappedSteps = p.mappedSteps + q.mappedSteps
  unmappedSteps : r.unmappedSteps = p.unmappedSteps + q.unmappedSteps

/-- A trace in two parts is profiled part by part. -/
theorem isSum_ofTrace {t₁ t₂ t : Trace} (h : t.steps = t₁.steps ++ t₂.steps) (map : PcLineMap) :
    IsSum (ofTrace t₁ map) (ofTrace t₂ map) (ofTrace t map) where
  totalCost := by
    rw [totalCost_ofTrace, totalCost_ofTrace, totalCost_ofTrace, h, List.map_append,
      List.sum_append]
  costByLine := by
    intro line
    apply SortedMap.get?_eq_merge
    · rw [mem_keys_ofTrace, mem_keys_ofTrace, mem_keys_ofTrace, h, isCharged_append]
    · simp only [SortedMap.getD_eq_totalWhere, totalWhere_ofTrace, h, gasWhere_append]
  opcodeCounts := by
    intro op
    apply SortedMap.get?_eq_merge
    · simp only [mem_keys_opcodeCounts, h, List.mem_append, or_and_right, exists_or]
    · simp only [SortedMap.getD_eq_totalWhere, totalWhere_opcodeCounts, h, List.countP_append]
  mappedSteps := by
    rw [mappedSteps_ofTrace, mappedSteps_ofTrace, mappedSteps_ofTrace, h, List.countP_append]
  unmappedSteps := by
    rw [unmappedSteps_ofTrace, unmappedSteps_ofTrace, unmappedSteps_ofTrace, h,
      List.countP_append]

/-- **A profile counts every step once.** There is one exactly if the gas of the trace fits a
word. It says of the steps what `Attributes` lists; the steps of another order give the same
profile, and with it the same most expensive lines; and if the steps are those of two traces in a
row, these have profiles and it is the sum of them. -/
theorem replay_counts_steps (t : Trace) (map : PcLineMap) :
    ((replay t map).isSome ↔ (t.steps.map Step.cost).sum ≤ maxU64) ∧
      (∀ p, replay t map = some p → p.Attributes map t.steps) ∧
      (∀ t', t'.steps.Perm t.steps → replay t' map = replay t map) ∧
      ∀ t₁ t₂ p, t.steps = t₁.steps ++ t₂.steps → replay t map = some p →
        ∃ p₁ p₂, replay t₁ map = some p₁ ∧ replay t₂ map = some p₂ ∧ IsSum p₁ p₂ p := by
  refine ⟨?_, ?_, ?_, ?_⟩
  · simp only [Option.isSome_iff_exists, replay_eq_some_iff, exists_and_left, exists_eq, and_true]
  · intro p hp
    obtain ⟨hfits, rfl⟩ := replay_eq_some_iff.1 hp
    exact attributes_ofTrace hfits map
  · intro t' hperm
    have hsum := (hperm.map Step.cost).sum_nat
    refine Option.ext fun p => ?_
    rw [replay_eq_some_iff, replay_eq_some_iff, hsum]
    refine and_congr_right fun hfits => ?_
    rw [(attributes_ofTrace (hsum.trans_le hfits) map).eq_of_perm (attributes_ofTrace hfits map)
      hperm]
  · intro t₁ t₂ p happend hp
    obtain ⟨hfits, rfl⟩ := replay_eq_some_iff.1 hp
    rw [happend, List.map_append, List.sum_append] at hfits
    exact ⟨_, _, replay_eq_some_iff.2 ⟨by omega, rfl⟩, replay_eq_some_iff.2 ⟨by omega, rfl⟩,
      isSum_ofTrace happend map⟩

/-- A loop over a free step, and a step without a line. -/
theorem replay_counts_steps_loop :
    let map : PcLineMap := ⟨[(0, 1), (2, 3)]⟩
    let push : Step := ⟨0, "PUSH1", 3, 1⟩
    let free : Step := ⟨2, "JUMPDEST", 0, 1⟩
    let stray : Step := ⟨7, "STOP", 5, 1⟩
    let trace (steps : List Step) : Trace := ⟨0, false, "", steps⟩
    ([stray, push, free, push].Perm [push, free, push, stray] ∧
        replay (trace [stray, push, free, push]) map =
          replay (trace [push, free, push, stray]) map) ∧
      ∃ p, replay (trace [push, free, push, stray]) map = some p ∧
        p.Attributes map [push, free, push, stray] ∧ p.costByLine.entries = [(1, 6), (3, 0)] ∧
        ∃ p₁ p₂, replay (trace [push, free]) map = some p₁ ∧
          replay (trace [push, stray]) map = some p₂ ∧ IsSum p₁ p₂ p := by
  intro map push free stray trace
  have hperm : [stray, push, free, push].Perm [push, free, push, stray] := by decide
  obtain ⟨hsome, hattributes, horder, hsum⟩ :=
    replay_counts_steps (trace [push, free, push, stray]) map
  obtain ⟨p, hp⟩ := Option.isSome_iff_exists.1 (hsome.2 (by decide))
  have hentries : (replay (trace [push, free, push, stray]) map).map
      (fun p => p.costByLine.entries) = some [(1, 6), (3, 0)] := by decide
  rw [hp, Option.map_some, Option.some.injEq] at hentries
  exact ⟨⟨hperm, horder (trace [stray, push, free, push]) hperm⟩, p, hp, hattributes p hp,
    hentries, hsum (trace [push, free]) (trace [push, stray]) p rfl hp⟩

end Profile

end GasLens
