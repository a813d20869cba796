/-
  GasLens/Proofs/FinalizedReports.lean
  ====================================
  **Closed reports before their own checks** — the statistics that closing a report computes, and
  what the checks say of them.

  Everything that is checked in whole numbers holds of a closed report (`IsFinalized.agrees`), so
  the mean alone can be refused. The mean is a quotient of two doubles, rounded once more. While
  the gas of all samples and their number are doubles themselves it lies between the extremes:
  rounding keeps the order, and the extremes are doubles (`averageHolds_of_total_le`). A greater
  amount is rounded before it is divided, and the quotient may leave the extremes by more than
  the slack (`validate_refuses_three_equal`).
-/
import GasLens.Proofs.Doubles
import GasLens.Proofs.ReportChecks
import GasLens.Proofs.Tallies

namespace GasLens

open GasLens.Source GasLens.Text

namespace FunctionReport

open Decimal

/-! ### Closed reports -/

/-- Reports that are being filled, in any order, with any costs as long as the sums fit. -/
inductive Filled : FunctionReport → Prop where
  | start (name : String) : Filled (ofName name)
  | record {r : FunctionReport} (s : Sample) : Filled r → Filled (r.record s)
  | charge {r r' : FunctionReport} {costs : SortedMap Line Nat} :
      Filled r → r.charge costs = some r' → Filled r'
  | skip {r : FunctionReport} : Filled r → Filled r.skip

theorem Filled.fits {r : FunctionReport} (h : Filled r) : r.costByLine.Fits := by
  induction h with
  | start name => exact SortedMap.fits_empty
  | record s _ ih => exact ih
  | skip _ ih => exact ih
  | charge _ hcharge ih => exact ((charge_eq_some_iff ih).1 hcharge).1

theorem Filled.lines_pos {r : FunctionReport} (h : Filled r) :
    ∀ line ∈ r.costByLine.keys, 0 < line := by
  induction h with
  | start name => exact fun line hline => absurd hline List.not_mem_nil
  | record s _ ih => exact ih
  | skip _ ih => exact ih
  | charge hfilled hcharge ih =>
    intro line hline
    obtain ⟨-, rfl⟩ := (charge_eq_some_iff hfilled.fits).1 hcharge
    rcases mem_keys_accumulate.1 hline with ⟨hpos, _⟩ | hold
    · exact hpos
    · exact ih line hold

/-- Reports that were filled and closed. No more traces count in the lines than there are samples,
as when each is fetched for one of them. -/
def IsFinalized (f : FunctionReport) : Prop :=
  ∃ r, Filled r ∧ r.traced ≤ r.samples.length ∧ f = r.finalize

theorem finalize_of_nil {r : FunctionReport} (h : r.finalize.samples = []) :
    r.finalize.min = 0 ∧ r.finalize.max = 0 ∧ r.finalize.p95 = 0 ∧
      r.finalize.avg = Decimal.ofNat 0 := by
  rw [samples_finalize] at h
  simp only [finalize, h, List.head?_nil, and_self]

theorem finalize_of_ends {r : FunctionReport} {first last : Sample}
    (hfirst : r.finalize.samples.head? = some first)
    (hlast : r.finalize.samples.getLast? = some last) :
    r.finalize.min = first.cost ∧ r.finalize.max = last.cost ∧
      r.finalize.avg = mean r.finalize.samples ∧
      r.finalize.p95 ∈ r.finalize.samples.map Sample.cost := by
  rw [samples_finalize] at hfirst hlast ⊢
  simp only [finalize, hfirst, hlast, true_and]
  cases hrank : (r.samples.mergeSort cheaper)[
      percentileRank (r.samples.mergeSort cheaper).length]? with
  | none => exact List.mem_map_of_mem (List.mem_of_getLast? hlast)
  | some s => exact List.mem_map_of_mem (List.mem_of_getElem? hrank)

/-- The extremes of a closed report are those of its samples, and the percentile is one of them. -/
theorem finalize_extremes {r : FunctionReport} (hne : r.finalize.samples ≠ []) :
    (r.finalize.min ∈ r.finalize.samples.map Sample.cost ∧
        ∀ s ∈ r.finalize.samples, r.finalize.min ≤ s.cost) ∧
      (r.finalize.max ∈ r.finalize.samples.map Sample.cost ∧
        ∀ s ∈ r.finalize.samples, s.cost ≤ r.finalize.max) ∧
      r.finalize.p95 ∈ r.finalize.samples.map Sample.cost := by
  have hsorted := samples_finalize_sorted r
  obtain ⟨first, last, hfirst, hlast⟩ := exists_ends hne
  obtain ⟨hmin, hmax, _, hp95⟩ := finalize_of_ends hfirst hlast
  exact ⟨(eq_cost_head_iff hsorted hfirst).1 hmin, (eq_cost_getLast_iff hsorted hlast).1 hmax, hp95⟩

theorem avg_finalize {r : FunctionReport} (hne : r.finalize.samples ≠ []) :
    r.finalize.avg = mean r.finalize.samples := by
  obtain ⟨first, last, hfirst, hlast⟩ := exists_ends hne
  exact (finalize_of_ends hfirst hlast).2.2.1

section Closed

variable {f : FunctionReport}

/-- A closed report agrees with its samples. -/
theorem IsFinalized.agrees (h : f.IsFinalized) : f.Agrees := by
  obtain ⟨r, hfilled, htraced, rfl⟩ := h
  have hsorted := samples_finalize_sorted r
  have hlines : ∀ line ∈ r.finalize.costByLine.keys, 0 < line := by
    rw [costByLine_finalize]
    exact hfilled.lines_pos
  have htraced' : r.finalize.traced ≤ r.finalize.samples.length := by
    rw [traced_finalize, (samples_finalize_perm r).length_eq]
    exact htraced
  by_cases hnil : r.finalize.samples = []
  · obtain ⟨hmin, hmax, hp95, _⟩ := finalize_of_nil hnil
    have hnone : ∀ s, s ∉ r.finalize.samples := by
      intro s hs
      rw [hnil] at hs
      cases hs
    exact {
      sorted := hsorted
      min_le := fun s hs => absurd hs (hnone s)
      le_max := fun s hs => absurd hs (hnone s)
      mem_costs := fun hne => absurd hnil hne
      eq_zero := fun _ => ⟨hmin, hmax, hp95⟩
      lines_pos := hlines
      traced_le := htraced' }
  · obtain ⟨⟨hminmem, hminle⟩, ⟨hmaxmem, hlemax⟩, hp95⟩ := finalize_extremes hnil
    exact {
      sorted := hsorted
      min_le := hminle
      le_max := hlemax
      mem_costs := by
        intro _ n hn
        simp only [List.mem_cons, List.not_mem_nil, or_false] at hn
        rcases hn with rfl | rfl | rfl
        · exact hminmem
        · exact hmaxmem
        · exact hp95
      eq_zero := fun hempty => absurd hempty hnil
      lines_pos := hlines
      traced_le := htraced' }

/-! ### The mean -/

theorem IsFinalized.avg_eq (h : f.IsFinalized) (hne : f.samples ≠ []) :
    f.avg = mean f.samples := by
  obtain ⟨r, _, _, rfl⟩ := h
  exact avg_finalize hne

theorem IsFinalized.averageHolds_of_nil (h : f.IsFinalized) (hnil : f.samples = []) :
    f.AverageHolds := by
  obtain ⟨r, _, _, rfl⟩ := h
  rw [AverageHolds, if_pos hnil, (finalize_of_nil hnil).2.2.2]
  decide +kernel

end Closed

theorem unpack_averageSlack :
    averageSlack.toModel.unpack = .finite .positive 4835703278458517 (-82) (by norm_num) := rfl

theorem isDouble_averageSlack : ∃ s : ℚ, 0 ≤ s ∧ s ≤ 1 ∧ IsDouble averageSlack s := by
  refine ⟨(4835703278458517 : ℕ) * 2 ^ (-82 : ℤ), by positivity, by norm_num, ?_⟩
  exact isDouble_of_unpack unpack_averageSlack (by norm_num) (by norm_num) (by norm_num)
    (by norm_num)

/-- Adding the slack does not lead below what it is added to. -/
theorem exists_add_averageSlack {a : Float} {x : ℚ} (ha : IsDouble a x) (hx : x ≤ 2 ^ 53) :
    ∃ y, x ≤ y ∧ IsDouble (a + averageSlack) y := by
  obtain ⟨s, hs, hsmall, hslack⟩ := isDouble_averageSlack
  have hplace : placeOf (x + s) ≤ 970 := by
    refine placeOf_le_of_lt (n := 54) (add_nonneg ha.nonneg hs) ?_ (by norm_num)
    linarith
  have hmono := rounded_mono ha.nonneg (le_add_of_nonneg_right hs : x ≤ x + s)
  rw [ha.rounded_eq] at hmono
  exact ⟨rounded (x + s), hmono, ha.add hslack hplace⟩

/-- A fraction between two whole numbers is rounded to a double that is found between them. -/
theorem isBetween_of_isDouble_rounded {avg : Float} {q : ℚ} {min max : ℕ}
    (havg : IsDouble avg (rounded q)) (hmin : min ≤ q) (hmax : q ≤ max) (hlarge : max ≤ 2 ^ 53) :
    isBetween avg min max = true := by
  have hle : min ≤ max := by exact_mod_cast hmin.trans hmax
  have hlow : (min : ℚ) ≤ rounded q := by
    rw [← rounded_natCast (hle.trans hlarge)]
    exact rounded_mono (Nat.cast_nonneg min) hmin
  have hhigh : rounded q ≤ max := by
    rw [← rounded_natCast hlarge]
    exact rounded_mono ((Nat.cast_nonneg min).trans hmin) hmax
  have hlarge' : (max : ℚ) ≤ 2 ^ 53 := by exact_mod_cast hlarge
  obtain ⟨lifted, hlifted, havgsum⟩ := exists_add_averageSlack havg (hhigh.trans hlarge')
  obtain ⟨top, htop, hmaxsum⟩ := exists_add_averageSlack (isDouble_ofNat hlarge) hlarge'
  rw [isBetween, havg.isFinite, Bool.true_and, Bool.and_eq_true, decide_eq_true_eq,
    decide_eq_true_eq]
  constructor
  · exact (isDouble_ofNat (hle.trans hlarge)).le havgsum (hlow.trans hlifted)
  · exact havg.le hmaxsum (hhigh.trans htop)

/-- The mean is the double nearest to the quotient, as long as its parts are doubles. -/
theorem isDouble_mean {samples : List Sample} (hne : samples ≠ [])
    (htotal : totalCost samples ≤ 2 ^ 53) (hlength : samples.length ≤ 2 ^ 53) :
    IsDouble (mean samples) (rounded (totalCost samples / samples.length)) :=
  isDouble_ofNat_div htotal hlength (List.length_pos_iff.2 hne)

theorem cost_le_totalCost {samples : List Sample} {s : Sample} (hs : s ∈ samples) :
    s.cost ≤ totalCost samples :=
  List.le_sum_of_mem (List.mem_map_of_mem hs)

/-- **The mean lies between the extremes** while the gas of all samples is a double. -/
theorem IsFinalized.averageHolds_of_total_le {f : FunctionReport} (h : f.IsFinalized)
    (htotal : totalCost f.samples ≤ 2 ^ 53) (hlength : f.samples.length ≤ 2 ^ 53) :
    f.AverageHolds := by
  by_cases hne : f.samples = []
  · exact h.averageHolds_of_nil hne
  have hagrees := h.agrees
  have hpos : (0 : ℚ) < f.samples.length := Nat.cast_pos.2 (List.length_pos_iff.2 hne)
  have hmin : f.samples.length * f.min ≤ totalCost f.samples := by
    have hsum := List.card_nsmul_le_sum (f.samples.map Sample.cost) f.min
      (List.forall_mem_map.2 hagrees.min_le)
    rwa [List.length_map, smul_eq_mul] at hsum
  have hmax : totalCost f.samples ≤ f.samples.length * f.max := by
    have hsum := List.sum_le_card_nsmul (f.samples.map Sample.cost) f.max
      (List.forall_mem_map.2 hagrees.le_max)
    rwa [List.length_map, smul_eq_mul] at hsum
  have hlarge : f.max ≤ 2 ^ 53 := by
    obtain ⟨s, hs, heq⟩ := List.mem_map.1 (hagrees.mem_costs hne f.max (by simp))
    exact heq ▸ (cost_le_totalCost hs).trans htotal
  rw [AverageHolds, if_neg hne, h.avg_eq hne]
  refine isBetween_of_isDouble_rounded (isDouble_mean hne htotal hlength) ?_ ?_ hlarge
  · rw [le_div_iff₀ hpos, mul_comm]
    exact_mod_cast hmin
  · rw [div_le_iff₀ hpos, mul_comm]
    exact_mod_cast hmax

/-! ### The checks -/

/-- Of a report that agrees with its samples only the mean is refused. -/
theorem check_of_agrees {requested : Nat} {r : FunctionReport} (h : r.Agrees)
    (hne : r.samples ≠ []) (haverage : ¬ r.AverageHolds) :
    r.check requested = some (.error (.average r.avg)) := by
  obtain ⟨first, last, hfirst, hlast⟩ := exists_ends hne
  have hcosts := h.mem_costs hne
  have hmin : r.min = first.cost :=
    (eq_cost_head_iff h.sorted hfirst).2 ⟨hcosts r.min (by simp), h.min_le⟩
  have hmax : r.max = last.cost :=
    (eq_cost_getLast_iff h.sorted hlast).2 ⟨hcosts r.max (by simp), h.le_max⟩
  have hbetween : isBetween r.avg r.min r.max = false := by
    rw [AverageHolds, if_neg hne] at haverage
    exact Bool.eq_false_iff.2 haverage
  have hstatistics : r.checkStatistics = .error (.average r.avg) := by
    simp only [checkStatistics, hfirst, hlast, hbetween]
    rw [if_neg (by simp [hmin, hmax])]
    rfl
  have halone : r.checkAlone = .error (.average r.avg) := by
    rw [checkAlone_eq_steps, (isSorted_iff _).2 h.sorted, hstatistics]
    rfl
  rw [check, halone]

end FunctionReport

namespace ContractReport

open FunctionReport

/-- Reports of a contract whose functions are closed, with no more invocations of each than were
asked for, which is a number that a word holds. -/
structure IsFinalized (c : ContractReport) : Prop where
  iterations_le : c.iterations ≤ maxU64
  closed : ∀ f ∈ c.functions, f.IsFinalized
  attempted_le : ∀ f ∈ c.functions, f.samples.length + f.skipped ≤ c.iterations

theorem IsFinalized.passes_of_averageHolds {c : ContractReport} (h : c.IsFinalized)
    {f : FunctionReport} (hf : f ∈ c.functions) (haverage : f.AverageHolds) :
    f.Passes c.iterations where
  agrees := (h.closed f hf).agrees
  average := haverage
  attempted_fits := (h.attempted_le f hf).trans h.iterations_le
  attempted_le := h.attempted_le f hf

/-- **Closed reports before their checks.** The mean of a function is all that is ever refused,
and it is accepted while the gas of all samples of the function is a double. -/
theorem validate_of_isFinalized {c : ContractReport} (h : c.IsFinalized) :
    (c.validate = some (.ok ()) ∨
      ∃ f ∈ c.functions, f.samples ≠ [] ∧ isBetween f.avg f.min f.max = false ∧
        c.validate =
          some (.error (.invalidReport (f.name ++ ": " ++ (ReportFault.average f.avg).message)))) ∧
    ((∀ f ∈ c.functions, totalCost f.samples ≤ 2 ^ 53 ∧ f.samples.length ≤ 2 ^ 53) →
      c.validate = some (.ok ()) ∧
        ∀ f ∈ c.functions, f.samples ≠ [] → isBetween f.avg f.min f.max = true) := by
  constructor
  · rcases checkAll_cases c.iterations c.functions with
      ⟨_, hok⟩ | ⟨before, f, after, hsplit, _, hfails, hverdict⟩
    · exact Or.inl hok
    · right
      have hf : f ∈ c.functions := hsplit ▸ List.mem_append_right before List.mem_cons_self
      have hclosed := h.closed f hf
      have haverage : ¬ f.AverageHolds := fun havg => hfails (h.passes_of_averageHolds hf havg)
      have hne : f.samples ≠ [] := fun hnil => haverage (hclosed.averageHolds_of_nil hnil)
      rcases hverdict with ⟨hfull, _⟩ | ⟨_, reason, hreason, herror⟩
      · exact absurd hfull.average haverage
      · rw [check_of_agrees hclosed.agrees hne haverage] at hreason
        cases hreason
        refine ⟨f, hf, hne, ?_, herror⟩
        rw [AverageHolds, if_neg hne] at haverage
        exact Bool.eq_false_iff.2 haverage
  · intro hsmall
    have haverage : ∀ f ∈ c.functions, f.AverageHolds := fun f hf =>
      (h.closed f hf).averageHolds_of_total_le (hsmall f hf).1 (hsmall f hf).2
    constructor
    · exact validate_eq_ok_iff.2 fun f hf => h.passes_of_averageHolds hf (haverage f hf)
    · intro f hf hne
      have havg := haverage f hf
      rwa [AverageHolds, if_neg hne] at havg

/-- Two samples, one of them reverted, and an invocation without a receipt. -/
def twoSamples : FunctionReport :=
  (((ofName "deposit").record ⟨21000, false⟩).record ⟨42001, true⟩).skip

theorem validate_of_isFinalized_two_samples :
    (ContractReport.mk "Vault" 3 [twoSamples.finalize]).validate = some (.ok ()) := by
  have hperm := samples_finalize_perm twoSamples
  have hfinalized : (ContractReport.mk "Vault" 3 [twoSamples.finalize]).IsFinalized := by
    refine ⟨by decide, List.forall_mem_singleton.2 ?_, List.forall_mem_singleton.2 ?_⟩
    · exact ⟨twoSamples, ((Filled.start "deposit").record _ |>.record _).skip, by decide, rfl⟩
    · rw [hperm.length_eq, skipped_finalize]
      decide
  refine ((validate_of_isFinalized hfinalized).2 (List.forall_mem_singleton.2 ?_)).1
  have htotal : totalCost twoSamples.finalize.samples = totalCost twoSamples.samples :=
    (hperm.map Sample.cost).sum_eq
  rw [htotal, hperm.length_eq]
  decide

/-- Three samples of one more than the greatest amount up to which all amounts are doubles. -/
def threeEqual : FunctionReport :=
  (((ofName "f").record ⟨2 ^ 53 + 1, false⟩).record ⟨2 ^ 53 + 1, false⟩).record ⟨2 ^ 53 + 1, false⟩

/-- Three times the amount is rounded up, and a third of that is the next double. -/
theorem validate_refuses_three_equal :
    ∃ c : ContractReport, c.IsFinalized ∧ c.validate =
      some (.error (.invalidReport "f: avg 9007199254740994 outside [min, max]")) := by
  refine ⟨⟨"c", 3, [threeEqual.finalize]⟩,
    ⟨by decide, List.forall_mem_singleton.2 ?_, List.forall_mem_singleton.2 ?_⟩, ?_⟩
  · exact ⟨threeEqual, (((Filled.start "f").record _).record _).record _, by decide, rfl⟩
  · rw [(samples_finalize_perm threeEqual).length_eq, skipped_finalize]
    decide
  · have hsorted : threeEqual.samples.mergeSort cheaper = threeEqual.samples :=
      List.mergeSort_of_pairwise (by decide)
    rw [finalize, hsorted]
    decide +kernel

end ContractReport

end GasLens
