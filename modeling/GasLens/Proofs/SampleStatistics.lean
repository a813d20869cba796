/-
  GasLens/Proofs/SampleStatistics.lean
  ====================================
  **Statistics of samples** — closing a report sorts its samples and computes everything else from
  their costs.

  The sort is stable (`filter_mergeSort_cheaper`), so a sample keeps its mark of a revert and its
  place among those that cost the same. The statistics are a function of the costs in ascending
  order (`finalize_eq`), and the costs of the same samples in another order are the same list once
  they ascend (`map_cost_eq_of_perm`). What is sorted already is not changed by a second sort, so a
  closed report stays as it is when it is closed again.
-/
import GasLens.Proofs.FinalizedReports

namespace GasLens

namespace FunctionReport

/-! ### Sorted samples -/

/-- Samples of one cost stand in the order in which they were recorded. -/
theorem filter_mergeSort_cheaper (samples : List Sample) (cost : Nat) :
    ((samples.mergeSort cheaper).filter fun s => decide (s.cost = cost)) =
      samples.filter fun s => decide (s.cost = cost) := by
  have hsame : (samples.filter fun s => decide (s.cost = cost)).Pairwise
      fun a b => cheaper a b = true := by
    rw [List.pairwise_filter]
    refine List.pairwise_of_forall fun a b ha hb => ?_
    rw [cheaper, decide_eq_true_eq, of_decide_eq_true ha, of_decide_eq_true hb]
  have hsublist := List.sublist_mergeSort cheaper_trans cheaper_total hsame List.filter_sublist
  have hsublist' := hsublist.filter fun s => decide (s.cost = cost)
  rw [List.filter_filter] at hsublist'
  simp only [Bool.and_self] at hsublist'
  exact (hsublist'.eq_of_length
    ((List.mergeSort_perm samples cheaper).filter _).length_eq.symm).symm

/-- Ascending costs are one list, whatever the order of the samples. -/
theorem map_cost_eq_of_perm {xs ys : List Sample} (h : xs.Perm ys)
    (hx : xs.Pairwise fun a b => a.cost ≤ b.cost) (hy : ys.Pairwise fun a b => a.cost ≤ b.cost) :
    xs.map Sample.cost = ys.map Sample.cost :=
  (h.map Sample.cost).eq_of_pairwise (fun _ _ _ _ => Nat.le_antisymm) (List.pairwise_map.2 hx)
    (List.pairwise_map.2 hy)

theorem mergeSort_finalize (r : FunctionReport) :
    r.finalize.samples.mergeSort cheaper = r.finalize.samples := by
  apply List.mergeSort_of_pairwise
  exact (samples_finalize_sorted r).imp fun hle => decide_eq_true hle

/-! ### Statistics of costs -/

structure Statistics where
  min : Nat
  max : Nat
  avg : Float
  p95 : Nat

def Statistics.ofCosts (costs : List Nat) : Statistics :=
  match costs.head?, costs.getLast? with
  | some first, some last =>
    { min := first
      max := last
      avg := Decimal.ofNat costs.sum / Decimal.ofNat costs.length
      p95 := costs[percentileRank costs.length]?.getD last }
  | _, _ => ⟨0, 0, Decimal.ofNat 0, 0⟩

def statistics (r : FunctionReport) : Statistics := ⟨r.min, r.max, r.avg, r.p95⟩

/-- A report with other samples and other statistics. -/
def withStatistics (r : FunctionReport) (samples : List Sample) (s : Statistics) : FunctionReport :=
  { r with samples, min := s.min, max := s.max, avg := s.avg, p95 := s.p95 }

/-- Closing a report sorts the samples and takes the statistics of their costs. -/
theorem finalize_eq (r : FunctionReport) :
    r.finalize = r.withStatistics (r.samples.mergeSort cheaper)
      (.ofCosts ((r.samples.mergeSort cheaper).map Sample.cost)) := by
  simp only [finalize, withStatistics, Statistics.ofCosts, List.head?_map, List.getLast?_map,
    List.getElem?_map, List.length_map]
  cases (r.samples.mergeSort cheaper).head? <;> cases (r.samples.mergeSort cheaper).getLast? <;> rfl

theorem statistics_finalize (r : FunctionReport) :
    r.finalize.statistics = .ofCosts (r.finalize.samples.map Sample.cost) := by
  rw [samples_finalize, finalize_eq]
  rfl

theorem finalize_finalize (r : FunctionReport) : r.finalize.finalize = r.finalize := by
  calc r.finalize.finalize = r.finalize.withStatistics r.finalize.samples
        (.ofCosts (r.finalize.samples.map Sample.cost)) := by
        rw [finalize_eq r.finalize, mergeSort_finalize]
    _ = r.finalize.withStatistics r.finalize.samples r.finalize.statistics := by
        rw [statistics_finalize]
    _ = r.finalize := rfl

theorem map_cost_finalize_of_perm {r r' : FunctionReport} (h : r'.samples.Perm r.samples) :
    r'.finalize.samples.map Sample.cost = r.finalize.samples.map Sample.cost := by
  have hperm := (samples_finalize_perm r').trans (h.trans (samples_finalize_perm r).symm)
  exact map_cost_eq_of_perm hperm (samples_finalize_sorted r') (samples_finalize_sorted r)

/-! ### Closed reports -/

/-- A report is another one that was closed. -/
structure IsClosingOf (f r : FunctionReport) : Prop where
  perm : f.samples.Perm r.samples
  sorted : f.samples.Pairwise fun a b => a.cost ≤ b.cost
  /-- Samples of one cost keep their order. -/
  stable : ∀ cost, (f.samples.filter fun s => decide (s.cost = cost)) =
    r.samples.filter fun s => decide (s.cost = cost)
  least : r.samples ≠ [] →
    f.min ∈ r.samples.map Sample.cost ∧ ∀ s ∈ r.samples, f.min ≤ s.cost
  greatest : r.samples ≠ [] →
    f.max ∈ r.samples.map Sample.cost ∧ ∀ s ∈ r.samples, s.cost ≤ f.max
  percentile : r.samples ≠ [] →
    f.p95 ∈ r.samples.map Sample.cost ∧ f.min ≤ f.p95 ∧ f.p95 ≤ f.max
  average : r.samples ≠ [] → f.avg = mean r.samples
  nothing : r.samples = [] → f.min = 0 ∧ f.max = 0 ∧ f.p95 = 0 ∧ f.avg = Decimal.ofNat 0
  untouched : f.name = r.name ∧ f.costByLine = r.costByLine ∧ f.skipped = r.skipped ∧
    f.traced = r.traced

theorem mean_of_perm {xs ys : List Sample} (h : xs.Perm ys) : mean xs = mean ys := by
  rw [mean, mean, totalCost, totalCost, (h.map Sample.cost).sum_nat, h.length_eq]

/-- Closing a report sorts its samples and works out the statistics from them alone. -/
theorem isClosingOf_finalize (r : FunctionReport) : r.finalize.IsClosingOf r := by
  have hperm := samples_finalize_perm r
  have hne : r.samples ≠ [] → r.finalize.samples ≠ [] := fun h hnil =>
    h (List.nil_perm.1 (hnil ▸ hperm))
  have hcosts : ∀ n, n ∈ r.finalize.samples.map Sample.cost ↔ n ∈ r.samples.map Sample.cost :=
    fun n => (hperm.map Sample.cost).mem_iff
  refine {
    perm := hperm
    sorted := samples_finalize_sorted r
    stable := fun cost => by rw [samples_finalize, filter_mergeSort_cheaper]
    least := fun h => ?_
    greatest := fun h => ?_
    percentile := fun h => ?_
    average := fun h => ?_
    nothing := fun h => finalize_of_nil (List.perm_nil.1 (h ▸ hperm))
    untouched := ⟨name_finalize r, costByLine_finalize r, skipped_finalize r, traced_finalize r⟩ }
  · obtain ⟨⟨hmem, hle⟩, _, _⟩ := finalize_extremes (hne h)
    exact ⟨(hcosts _).1 hmem, fun s hs => hle s (hperm.mem_iff.2 hs)⟩
  · obtain ⟨_, ⟨hmem, hle⟩, _⟩ := finalize_extremes (hne h)
    exact ⟨(hcosts _).1 hmem, fun s hs => hle s (hperm.mem_iff.2 hs)⟩
  · obtain ⟨⟨_, hmin⟩, ⟨_, hmax⟩, hmem⟩ := finalize_extremes (hne h)
    obtain ⟨s, hs, hcost⟩ := List.mem_map.1 hmem
    exact ⟨(hcosts _).1 hmem, hcost ▸ hmin s hs, hcost ▸ hmax s hs⟩
  · rw [avg_finalize (hne h), mean_of_perm hperm]

/-- **Closing a report.** The samples are sorted and none is lost or parted from its mark, the
statistics are those of all samples, and nothing else is touched; a second time changes nothing;
and the same samples recorded in another order give the same statistics and the same costs. -/
theorem finalize_closes (r : FunctionReport) :
    r.finalize.IsClosingOf r ∧ r.finalize.finalize = r.finalize ∧
      ∀ r' : FunctionReport, r'.samples.Perm r.samples →
        r'.finalize.statistics = r.finalize.statistics ∧
          r'.finalize.samples.map Sample.cost = r.finalize.samples.map Sample.cost := by
  refine ⟨isClosingOf_finalize r, finalize_finalize r, ?_⟩
  intro r' hperm
  have hcosts := map_cost_finalize_of_perm hperm
  refine ⟨?_, hcosts⟩
  rw [statistics_finalize, statistics_finalize, hcosts]

/-- Two samples of one cost, of which one was reverted, in both orders. -/
theorem finalize_closes_tie :
    let first : FunctionReport := ((ofName "f").record ⟨7, true⟩).record ⟨7, false⟩
    let second : FunctionReport := ((ofName "f").record ⟨7, false⟩).record ⟨7, true⟩
    second.samples.Perm first.samples ∧ second.finalize.statistics = first.finalize.statistics := by
  intro first second
  have hperm : second.samples.Perm first.samples := by decide
  exact ⟨hperm, ((finalize_closes first).2.2 second hperm).1⟩

end FunctionReport

end GasLens
