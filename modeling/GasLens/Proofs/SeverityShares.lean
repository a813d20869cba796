/-
  GasLens/Proofs/SeverityShares.lean
  ==================================
  **Severities in whole numbers** — how severe the gas of a line is, without a double.

  The share of a line is a quotient rounded to a double, and the limits it is compared with are
  doubles a little above two fifths and one tenth. Below a total of `2 ^ 51` a quotient that is
  above such a fraction is above it by more than the next double is (`IsLimit`), and rounding
  keeps the order. So every comparison comes out as that of the fractions, which needs whole
  numbers only (`IsLimit.lt_shareOf_iff`), and a line with more gas is never less severe.
-/
import GasLens.Proofs.HeatmapLines

namespace GasLens

open GasLens.Decimal

/-! ### Shares and limits -/

theorem isDouble_shareOf {cost total : ℕ} (hle : cost ≤ total) (hsmall : total < 2 ^ 51) :
    IsDouble (shareOf cost total) (rounded (cost / total)) := by
  rcases Nat.eq_zero_or_pos total with rfl | hpos
  · rw [shareOf, if_pos rfl, Nat.cast_zero, div_zero, rounded_zero]
    exact isDouble_ofNat (Nat.zero_le _)
  · rw [shareOf, if_neg hpos.ne']
    exact isDouble_ofNat_div (by omega) (by omega) hpos

/-- A double that stands for a part of a whole: it is not below it, and the next double is not
above it by as much as the parts of a smaller total than `2 ^ 51` lie apart. -/
def IsLimit (limit : Float) (part whole : ℕ) : Prop :=
  0 < whole ∧ ∃ (m : ℕ) (e : ℤ), IsDouble limit (m * 2 ^ e) ∧ m + 1 < 2 ^ 53 ∧ -1074 ≤ e ∧
    (part : ℚ) / whole ≤ m * 2 ^ e ∧
    ((m + 1 : ℕ) : ℚ) * 2 ^ e ≤ part / whole + 1 / (whole * 2 ^ 51)

/-- A share is above a limit exactly if the amount is above that part of the total. -/
theorem IsLimit.lt_shareOf_iff {limit : Float} {part whole : ℕ} (h : IsLimit limit part whole)
    {cost total : ℕ} (hle : cost ≤ total) (hsmall : total < 2 ^ 51) :
    limit < shareOf cost total ↔ part * total < whole * cost := by
  obtain ⟨hwhole, m, e, hlimit, hm, he, hbelow, habove⟩ := h
  have hwhole' : (0 : ℚ) < whole := Nat.cast_pos.2 hwhole
  rcases Nat.eq_zero_or_pos total with rfl | hpos
  · obtain rfl : cost = 0 := Nat.le_zero.1 hle
    have hnot : ¬ (m : ℚ) * 2 ^ e < 0 :=
      not_lt.2 (mul_nonneg (Nat.cast_nonneg m) (two_zpow_pos e).le)
    have hzero := isDouble_shareOf hle hsmall
    rw [Nat.cast_zero, div_zero, rounded_zero] at hzero
    rw [hlimit.lt_iff hzero]
    simp [hnot]
  have hpos' : (0 : ℚ) < total := Nat.cast_pos.2 hpos
  have hquotient : (part : ℚ) / whole < cost / total ↔ part * total < whole * cost := by
    rw [div_lt_div_iff₀ hwhole' hpos', mul_comm (cost : ℚ)]
    exact_mod_cast Iff.rfl
  -- above the part there is at least one unit of the common denominator
  have hgap : (part : ℚ) / whole < cost / total → ((m + 1 : ℕ) : ℚ) * 2 ^ e ≤ cost / total := by
    intro hlt
    have hunit : (part * total + 1 : ℚ) ≤ whole * cost := by exact_mod_cast hquotient.1 hlt
    have hsmall' : (total : ℚ) ≤ 2 ^ 51 := by exact_mod_cast hsmall.le
    calc ((m + 1 : ℕ) : ℚ) * 2 ^ e ≤ part / whole + 1 / (whole * 2 ^ 51) := habove
      _ ≤ part / whole + 1 / (whole * total) := by gcongr
      _ = (part * total + 1) / (whole * total) := by field_simp
      _ ≤ whole * cost / (whole * total) := by gcongr
      _ = cost / total := mul_div_mul_left _ _ hwhole'.ne'
  rw [hlimit.lt_iff (isDouble_shareOf hle hsmall),
    lt_rounded_iff hm he (by positivity) hbelow hgap, hquotient]

theorem isDouble_highShare :
    IsDouble Severity.highShare ((7205759403792794 : ℕ) * 2 ^ (-54 : ℤ)) := by
  have hunpack : Severity.highShare.toModel.unpack =
      .finite .positive 7205759403792794 (-54) (by norm_num) := rfl
  exact isDouble_of_unpack hunpack (by norm_num) (by norm_num) (by norm_num) (by norm_num)

theorem isDouble_mediumShare :
    IsDouble Severity.mediumShare ((7205759403792794 : ℕ) * 2 ^ (-56 : ℤ)) := by
  have hunpack : Severity.mediumShare.toModel.unpack =
      .finite .positive 7205759403792794 (-56) (by norm_num) := rfl
  exact isDouble_of_unpack hunpack (by norm_num) (by norm_num) (by norm_num) (by norm_num)

theorem isLimit_highShare : IsLimit Severity.highShare 2 5 :=
  ⟨by norm_num, _, _, isDouble_highShare, by norm_num, by norm_num, by norm_num, by norm_num⟩

theorem isLimit_mediumShare : IsLimit Severity.mediumShare 1 10 :=
  ⟨by norm_num, _, _, isDouble_mediumShare, by norm_num, by norm_num, by norm_num, by norm_num⟩

theorem isLimit_zero : IsLimit (ofNat 0) 0 1 := by
  refine ⟨Nat.one_pos, 0, -1074, ?_, by norm_num, le_rfl, by norm_num, ?_⟩
  · rw [Nat.cast_zero, zero_mul]
    exact_mod_cast isDouble_ofNat (Nat.zero_le _)
  · calc (((0 + 1 : ℕ) : ℚ)) * 2 ^ (-1074 : ℤ) ≤ 1 * 2 ^ (-51 : ℤ) := by
          rw [zero_add, Nat.cast_one]
          gcongr <;> norm_num
      _ = ((0 : ℕ) : ℚ) / (1 : ℕ) + 1 / ((1 : ℕ) * 2 ^ 51) := by norm_num

/-! ### Severities -/

namespace Severity

/-- The place of a severity in their order. -/
def rank : Severity → ℕ
  | .none => 0
  | .low => 1
  | .medium => 2
  | .high => 3
  | .boilerplate => 4

/-- The severity of an amount of gas in a total, in whole numbers. -/
def ofCost (cost total : ℕ) : Severity :=
  if 2 * total < 5 * cost then .high
  else if total < 10 * cost then .medium
  else if 0 < cost then .low
  else .none

theorem ofShare_shareOf {cost total : ℕ} (hle : cost ≤ total) (hsmall : total < 2 ^ 51) :
    ofShare (shareOf cost total) = ofCost cost total := by
  have hhigh := isLimit_highShare.lt_shareOf_iff hle hsmall
  have hmedium := isLimit_mediumShare.lt_shareOf_iff hle hsmall
  have hlow := isLimit_zero.lt_shareOf_iff hle hsmall
  rw [one_mul] at hmedium
  rw [zero_mul, one_mul] at hlow
  simp only [ofShare, ofCost, hhigh, hmedium, hlow]

theorem rank_ofCost_mono {cost cost' : ℕ} (h : cost ≤ cost') (total : ℕ) :
    (ofCost cost total).rank ≤ (ofCost cost' total).rank := by
  unfold ofCost
  split_ifs <;> first | omega | decide

end Severity

/-- The severity of a line of ordinary code in a total. -/
structure HeatmapLine.IsRated (line : HeatmapLine) (total : ℕ) : Prop where
  high : line.severity = .high ↔ 2 * total < 5 * line.cost
  medium : line.severity = .medium ↔ total < 10 * line.cost ∧ ¬ 2 * total < 5 * line.cost
  low : line.severity = .low ↔ 0 < line.cost ∧ ¬ total < 10 * line.cost
  none : line.severity = .none ↔ line.cost = 0

theorem HeatmapLine.isRated_of_severity {line : HeatmapLine} {total : ℕ}
    (hle : line.cost ≤ total) (h : line.severity = .ofCost line.cost total) :
    line.IsRated total := by
  rw [Severity.ofCost] at h
  constructor <;> rw [h] <;> split_ifs <;> simp <;> omega

/-! ### Lines of a heatmap -/

section Lines

variable {c : ContractReport} {source : String}

theorem cost_le_totalCost_build {line : HeatmapLine} (h : line ∈ (Heatmap.build c source).lines) :
    line.cost ≤ (Heatmap.build c source).totalCost := by
  rw [totalCost_eq_shown]
  exact (List.le_sum_of_mem (List.mem_map_of_mem h)).trans (Nat.le_add_right _ _)

/-- All but the boilerplate is rated by its share. -/
theorem severity_of_line {line : HeatmapLine} (h : line ∈ (Heatmap.build c source).lines)
    (hordinary : line.isBoilerplate = false)
    (hsmall : (Heatmap.build c source).totalCost < 2 ^ 51) :
    line.severity = .ofCost line.cost (Heatmap.build c source).totalCost := by
  rw [← Severity.ofShare_shareOf (cost_le_totalCost_build h) hsmall]
  obtain ⟨k, hget⟩ := List.mem_iff_getElem?.1 h
  obtain ⟨segment, _, rfl⟩ := exists_segment_of_line hget
  simp only [heatmapLine] at hordinary ⊢
  split at hordinary
  · cases hordinary
  · rename_i hlast
    rw [if_neg hlast]
    rfl

/-- **Severities are decided by the exact shares.** In a heatmap with a total below `2 ^ 51` every
line but the last one is severe as its gas says in whole numbers, and of two lines that are no
boilerplate the one with more gas is not less severe. -/
theorem lines_rated_exactly {h : Heatmap} (hbuilt : Heatmap.ofReport c source = some h)
    (hsmall : h.totalCost < 2 ^ 51) :
    (∀ k line, h.lines[k]? = some line → k + 1 ≠ h.lines.length → line.IsRated h.totalCost) ∧
      ∀ line ∈ h.lines, ∀ line' ∈ h.lines, line.isBoilerplate = false →
        line'.isBoilerplate = false → line.cost ≤ line'.cost →
          line.severity.rank ≤ line'.severity.rank := by
  obtain ⟨_, rfl⟩ := Heatmap.ofReport_eq_some_iff.1 hbuilt
  constructor
  · intro k line hget hlast
    have hmem := List.mem_of_getElem? hget
    rw [(shows_build c source).length_lines] at hlast
    have hordinary := ((shows_build c source).ordinary k line hget hlast).2
    exact HeatmapLine.isRated_of_severity (cost_le_totalCost_build hmem)
      (severity_of_line hmem hordinary hsmall)
  · intro line hmem line' hmem' hordinary hordinary' hcost
    rw [severity_of_line hmem hordinary hsmall, severity_of_line hmem' hordinary' hsmall]
    exact Severity.rank_ofCost_mono hcost _

end Lines

/-- Two fifths and one tenth are not above themselves. -/
theorem lines_rated_exactly_limits :
    let source := "f();\ng();\n\x7d"
    let f : FunctionReport :=
      { FunctionReport.ofName "f" with
        costByLine := SortedMap.ofList [(1, 4), (2, 1), (3, 5)] }
    ∃ h, Heatmap.ofReport ⟨"Vault", 1, [f]⟩ source = some h ∧ h.totalCost < 2 ^ 51 ∧
      (∀ k line, h.lines[k]? = some line → k + 1 ≠ h.lines.length → line.IsRated h.totalCost) ∧
      h.lines.map HeatmapLine.severity = [.medium, .low, .boilerplate] := by
  intro source f
  have hsome : (Heatmap.ofReport ⟨"Vault", 1, [f]⟩ source).map
      (fun h => (h.totalCost, h.lines.map HeatmapLine.severity)) =
        some (10, [.medium, .low, .boilerplate]) := by decide +kernel
  obtain ⟨h, hbuilt, hshown⟩ := Option.map_eq_some_iff.1 hsome
  obtain ⟨htotal, hseverities⟩ := Prod.mk.inj hshown
  have hsmall : h.totalCost < 2 ^ 51 := by rw [htotal]; decide
  exact ⟨h, hbuilt, hsmall, (lines_rated_exactly hbuilt hsmall).1, hseverities⟩

end GasLens
