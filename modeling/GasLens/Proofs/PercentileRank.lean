/-
  GasLens/Proofs/PercentileRank.lean
  ==================================
  **The rank of the percentile** — the sample that the percentile is read from, in whole numbers.

  The rank is the whole part of a product of doubles, of which one is a little below nineteen
  twentieths. Where nineteen twentieths of the number of samples are whole, the product lies below
  that number, and it has to be rounded up to it; it is, because it lies closer to it than half
  the distance of two doubles (`natCast_le_rounded`). Everywhere else the product is far enough
  from the next whole number. Up to `2 ^ 48` samples the doubles are dense enough for both.
-/
import GasLens.Proofs.SampleStatistics

namespace GasLens.FunctionReport

open GasLens.Decimal

/-! ### The product -/

/-- The fraction that the double nearest to nineteen twentieths is. -/
def percentileFraction : ℚ := (8556839292003942 : ℕ) * 2 ^ (-53 : ℤ)

theorem isDouble_percentileShare : IsDouble percentileShare percentileFraction := by
  have hunpack : percentileShare.toModel.unpack =
      .finite .positive 8556839292003942 (-53) (by norm_num) := rfl
  exact isDouble_of_unpack hunpack (by norm_num) (by norm_num) (by norm_num) (by norm_num)

theorem percentileFraction_pos : 0 < percentileFraction := by norm_num [percentileFraction]

theorem percentileFraction_le : percentileFraction ≤ 19 / 20 := by norm_num [percentileFraction]

/-- It is nearer to nineteen twentieths than half the distance of two doubles. -/
theorem le_percentileFraction_add : 19 / 20 ≤ percentileFraction + percentileFraction / 2 ^ 54 := by
  norm_num [percentileFraction]

section Rank

variable {n : ℕ}

theorem isDouble_percentile (h : n < 2 ^ 48) :
    IsDouble (ofNat n * percentileShare) (rounded (n * percentileFraction)) := by
  refine (isDouble_ofNat (by omega)).mul isDouble_percentileShare ?_
  have hn : (n : ℚ) < 2 ^ 48 := by exact_mod_cast h
  have hle := percentileFraction_le
  refine placeOf_le_of_lt (n := 48) (mul_nonneg (Nat.cast_nonneg n) percentileFraction_pos.le) ?_
    (by norm_num)
  nlinarith

theorem le_rounded_percentile (hpos : 0 < n) (h : n < 2 ^ 48) :
    ((19 * n / 20 : ℕ) : ℚ) ≤ rounded (n * percentileFraction) := by
  have hn : (0 : ℚ) < n := Nat.cast_pos.2 hpos
  have hn' : (n : ℚ) < 2 ^ 48 := by exact_mod_cast h
  have hle := percentileFraction_le
  have hwhole : ((19 * n / 20 : ℕ) : ℚ) ≤ n * (19 / 20) := by
    have hdiv : ((19 * n / 20 : ℕ) : ℚ) ≤ ((19 * n : ℕ) : ℚ) / (20 : ℕ) := Nat.cast_div_le
    push_cast at hdiv
    linarith
  refine natCast_le_rounded (mul_pos hn percentileFraction_pos) (by nlinarith) ?_
  calc ((19 * n / 20 : ℕ) : ℚ) ≤ n * (19 / 20) := hwhole
    _ ≤ n * (percentileFraction + percentileFraction / 2 ^ 54) :=
        mul_le_mul_of_nonneg_left le_percentileFraction_add hn.le
    _ = n * percentileFraction + n * percentileFraction / 2 ^ 54 := by ring

/-- The share is a little below nineteen twentieths, but rounding does not lead to the next rank. -/
theorem rounded_percentile_lt (h : n < 2 ^ 48) :
    rounded (n * percentileFraction) < ((19 * n / 20 + 1 : ℕ) : ℚ) := by
  have hn : (0 : ℚ) ≤ n := Nat.cast_nonneg n
  have hnonneg : 0 ≤ n * percentileFraction := mul_nonneg hn percentileFraction_pos.le
  -- the greatest double with five binary places below the next whole number
  have hbelow : n * percentileFraction ≤ ((32 * (19 * n / 20) + 31 : ℕ) : ℚ) * 2 ^ (-5 : ℤ) := by
    have hrest : 19 * n ≤ 20 * (19 * n / 20) + 19 := by omega
    have hrest' : (19 * n : ℚ) ≤ 20 * ((19 * n / 20 : ℕ) : ℚ) + 19 := by exact_mod_cast hrest
    have hproduct : n * percentileFraction ≤ n * (19 / 20) :=
      mul_le_mul_of_nonneg_left percentileFraction_le hn
    have hplaces : ((32 * (19 * n / 20) + 31 : ℕ) : ℚ) * 2 ^ (-5 : ℤ) =
        ((19 * n / 20 : ℕ) : ℚ) + 31 / 32 := by
      push_cast
      norm_num
      ring
    rw [hplaces]
    linarith
  calc rounded (n * percentileFraction)
      ≤ rounded (((32 * (19 * n / 20) + 31 : ℕ) : ℚ) * 2 ^ (-5 : ℤ)) :=
        rounded_mono hnonneg hbelow
    _ = ((32 * (19 * n / 20) + 31 : ℕ) : ℚ) * 2 ^ (-5 : ℤ) :=
        rounded_of_lt (by omega) (by norm_num)
    _ < ((19 * n / 20 + 1 : ℕ) : ℚ) := by
        push_cast
        norm_num
        linarith

/-- **The rank is the exact one.** -/
theorem percentileRank_eq (hpos : 0 < n) (h : n < 2 ^ 48) : percentileRank n = 19 * n / 20 := by
  have hlow := le_rounded_percentile hpos h
  have hfloor : ⌊rounded (n * percentileFraction)⌋₊ = 19 * n / 20 :=
    (Nat.floor_eq_iff (rounded_nonneg _)).2 ⟨hlow, by exact_mod_cast rounded_percentile_lt h⟩
  rw [percentileRank, (isDouble_percentile h).truncated_eq (by omega), hfloor]

end Rank

/-! ### The sample -/

/-- With a place for the rank, the percentile is the cost at that place. -/
theorem Statistics.getElem?_percentileRank (costs : List Nat)
    (h : percentileRank costs.length < costs.length) :
    costs[percentileRank costs.length]? = some (ofCosts costs).p95 := by
  have hne : costs ≠ [] := List.ne_nil_of_length_pos (Nat.zero_lt_of_lt h)
  obtain ⟨first, last, hfirst, hlast⟩ := exists_ends hne
  simp only [ofCosts, hfirst, hlast]
  rw [List.getElem?_eq_getElem h, Option.getD_some]

/-- **The percentile is read at the exact rank.** With one sample at least, and fewer than
`2 ^ 48`, the rank is that of nineteen twentieths of the samples in whole numbers, it is the place
of a sample, and the percentile is the cost at this place in the closed report, and in every other
arrangement of the samples by cost. -/
theorem percentile_at_exact_rank (r : FunctionReport) (hpos : 0 < r.samples.length)
    (hsmall : r.samples.length < 2 ^ 48) :
    percentileRank r.finalize.samples.length = 19 * r.samples.length / 20 ∧
      19 * r.samples.length / 20 < r.finalize.samples.length ∧
      (r.finalize.samples[19 * r.samples.length / 20]?).map Sample.cost = some r.finalize.p95 ∧
      ∀ sorted : List Sample, sorted.Perm r.samples →
        (sorted.Pairwise fun a b => a.cost ≤ b.cost) →
          (sorted[19 * r.samples.length / 20]?).map Sample.cost = some r.finalize.p95 := by
  have hlength := (samples_finalize_perm r).length_eq
  have hrank : percentileRank r.finalize.samples.length = 19 * r.samples.length / 20 := by
    rw [hlength, percentileRank_eq hpos hsmall]
  have hlt : 19 * r.samples.length / 20 < r.finalize.samples.length := by omega
  have hp95 : (r.finalize.samples.map Sample.cost)[19 * r.samples.length / 20]? =
      some r.finalize.p95 := by
    have hstatistics : r.finalize.p95 =
        (Statistics.ofCosts (r.finalize.samples.map Sample.cost)).p95 :=
      congrArg Statistics.p95 (statistics_finalize r)
    have hplace := Statistics.getElem?_percentileRank (r.finalize.samples.map Sample.cost)
    rw [List.length_map, hrank] at hplace
    rw [hstatistics, hplace hlt]
  refine ⟨hrank, hlt, by rw [← List.getElem?_map, hp95], ?_⟩
  intro sorted hperm hsorted
  have hcosts : sorted.map Sample.cost = r.finalize.samples.map Sample.cost :=
    map_cost_eq_of_perm (hperm.trans (samples_finalize_perm r).symm) hsorted
      (samples_finalize_sorted r)
  rw [← List.getElem?_map, hcosts, hp95]

/-- Twenty samples, where nineteen twentieths are whole: the percentile is the last of them. -/
theorem percentile_at_exact_rank_twenty :
    let r : FunctionReport :=
      { ofName "f" with samples := (List.range 20).map fun i => ⟨i + 1, false⟩ }
    0 < r.samples.length ∧ r.samples.length < 2 ^ 48 ∧ r.finalize.p95 = 20 := by
  intro r
  have hpos : 0 < r.samples.length := by decide
  have hsmall : r.samples.length < 2 ^ 48 := by decide
  have hsorted : r.samples.Pairwise fun a b => a.cost ≤ b.cost := by decide
  have hcost := (percentile_at_exact_rank r hpos hsmall).2.2.2 r.samples (.refl _) hsorted
  have hlast : (r.samples[19 * r.samples.length / 20]?).map Sample.cost = some 20 := by decide
  exact ⟨hpos, hsmall, Option.some.inj (hcost.symm.trans hlast)⟩

end GasLens.FunctionReport
