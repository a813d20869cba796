/-
  GasLens/Proofs/Rounding.lean
  ============================
  **Rounding to a double** — the double nearest to a fraction that is not negative, as a fraction.

  A double has 53 binary digits, the last of which stands for a power of two that depends on the
  size of the number (`placeOf`). Rounding takes the nearest multiple of that power, and of two
  equally near ones the even one. It keeps the order of fractions (`rounded_mono`), although the
  multiples get coarser as the fractions grow: between two fractions with different places there
  is a power of two, which neither is rounded past. Large numbers are left out: nothing here
  says where the doubles end.
-/
import GasLens.Arithmetic
import Mathlib

namespace GasLens.Decimal

/-! ### The nearest whole number -/

/-- The nearest natural number; halfway between two it is the even one. -/
def nearestEven (x : ℚ) : ℕ :=
  if x - ⌊x⌋₊ < 1 / 2 then ⌊x⌋₊
  else if 1 / 2 < x - ⌊x⌋₊ then ⌊x⌋₊ + 1
  else ⌊x⌋₊ + ⌊x⌋₊ % 2

theorem floor_le_nearestEven (x : ℚ) : ⌊x⌋₊ ≤ nearestEven x := by
  unfold nearestEven
  split_ifs <;> omega

theorem nearestEven_le_floor_add_one (x : ℚ) : nearestEven x ≤ ⌊x⌋₊ + 1 := by
  unfold nearestEven
  split_ifs <;> omega

/-- Less than a half below a whole number, nothing is rounded down past it. -/
theorem le_nearestEven_of_lt {n : ℕ} {x : ℚ} (h : n - 1 / 2 < x) : n ≤ nearestEven x := by
  rcases le_or_gt n ⌊x⌋₊ with hle | hlt
  · exact hle.trans (floor_le_nearestEven x)
  · have hfloor : (⌊x⌋₊ : ℚ) + 1 ≤ n := by exact_mod_cast hlt
    have hrest : 1 / 2 < x - ⌊x⌋₊ := by linarith
    have hup : nearestEven x = ⌊x⌋₊ + 1 := by
      rw [nearestEven, if_neg (not_lt.2 hrest.le), if_pos hrest]
    have hnext : (n : ℚ) < ((⌊x⌋₊ + 2 : ℕ) : ℚ) := by
      have := Nat.lt_floor_add_one x
      push_cast
      linarith
    rw [hup]
    exact Nat.lt_succ_iff.1 (by exact_mod_cast hnext)

theorem nearestEven_natCast (n : ℕ) : nearestEven n = n := by
  simp [nearestEven]

theorem nearestEven_mono {x y : ℚ} (h : x ≤ y) : nearestEven x ≤ nearestEven y := by
  rcases (Nat.floor_le_floor h).lt_or_eq with hlt | heq
  · calc nearestEven x ≤ ⌊x⌋₊ + 1 := nearestEven_le_floor_add_one x
      _ ≤ ⌊y⌋₊ := hlt
      _ ≤ nearestEven y := floor_le_nearestEven y
  · -- above the same whole number only the rests differ
    have hrest : x - ⌊y⌋₊ ≤ y - ⌊y⌋₊ := sub_le_sub_right h _
    unfold nearestEven
    rw [heq]
    split_ifs <;> first | omega | (exfalso; linarith)

/-! ### Binary digits -/

/-- The exponent of the last digit of the double nearest to a fraction. -/
def placeOf (x : ℚ) : ℤ := max (Int.log 2 x - 52) (-1074)

/-- The double nearest to a fraction. -/
def rounded (x : ℚ) : ℚ := nearestEven (x / 2 ^ placeOf x) * 2 ^ placeOf x

theorem two_zpow_pos (e : ℤ) : (0 : ℚ) < 2 ^ e := zpow_pos two_pos e

theorem placeOf_mono {x y : ℚ} (hx : 0 < x) (h : x ≤ y) : placeOf x ≤ placeOf y :=
  max_le_max_right _ (sub_le_sub_right (Int.log_mono_right hx h) 52)

theorem rounded_zero : rounded 0 = 0 := by
  have hzero : nearestEven 0 = 0 := by simpa using nearestEven_natCast 0
  rw [rounded, zero_div, hzero, Nat.cast_zero, zero_mul]

theorem rounded_nonneg (x : ℚ) : 0 ≤ rounded x :=
  mul_nonneg (Nat.cast_nonneg _) (two_zpow_pos _).le

/-- A fraction has 53 digits in front of its last place. -/
theorem lt_mul_two_zpow_placeOf (x : ℚ) : x < 2 ^ 53 * 2 ^ placeOf x := by
  have hlog : x < 2 ^ (Int.log 2 x + 1) := by
    simpa using Int.lt_zpow_succ_log_self (b := 2) one_lt_two x
  calc x < 2 ^ (Int.log 2 x + 1) := hlog
    _ ≤ 2 ^ (53 + placeOf x) := by
        refine zpow_le_zpow_right₀ one_le_two ?_
        have := le_max_left (Int.log 2 x - 52) (-1074)
        rw [placeOf]
        omega
    _ = 2 ^ 53 * 2 ^ placeOf x := by
        rw [zpow_add₀ two_ne_zero]
        norm_num

/-- It is not rounded past the next power. -/
theorem nearestEven_div_le (x : ℚ) : nearestEven (x / 2 ^ placeOf x) ≤ 2 ^ 53 := by
  have hle : x / 2 ^ placeOf x ≤ ((2 ^ 53 : ℕ) : ℚ) := by
    rw [div_le_iff₀ (two_zpow_pos _)]
    exact_mod_cast (lt_mul_two_zpow_placeOf x).le
  exact (nearestEven_mono hle).trans_eq (nearestEven_natCast _)

/-- Above the least place a fraction has all of its 53 digits. -/
theorem le_nearestEven_div {x : ℚ} (hx : 0 < x) (hplace : -1074 < placeOf x) :
    2 ^ 52 ≤ nearestEven (x / 2 ^ placeOf x) := by
  have hlog : (2 : ℚ) ^ Int.log 2 x ≤ x := by
    simpa using Int.zpow_log_le_self (b := 2) one_lt_two hx
  have heq : Int.log 2 x = 52 + placeOf x := by
    unfold placeOf at hplace ⊢
    omega
  have hle : ((2 ^ 52 : ℕ) : ℚ) * 2 ^ placeOf x ≤ x := by
    calc ((2 ^ 52 : ℕ) : ℚ) * 2 ^ placeOf x = 2 ^ (52 + placeOf x) := by
          rw [zpow_add₀ two_ne_zero]
          norm_num
      _ ≤ x := heq ▸ hlog
  calc 2 ^ 52 = nearestEven ((2 ^ 52 : ℕ) : ℚ) := (nearestEven_natCast _).symm
    _ ≤ nearestEven (x / 2 ^ placeOf x) :=
        nearestEven_mono ((le_div_iff₀ (two_zpow_pos _)).2 hle)

/-- **Rounding keeps the order.** -/
theorem rounded_mono {x y : ℚ} (hx : 0 ≤ x) (h : x ≤ y) : rounded x ≤ rounded y := by
  rcases hx.eq_or_lt with rfl | hpos
  · rw [rounded_zero]
    exact rounded_nonneg y
  rcases (placeOf_mono hpos h).lt_or_eq with hlt | heq
  · have hcoarse : -1074 < placeOf y := lt_of_le_of_lt (le_max_right _ _) hlt
    have hx53 : (nearestEven (x / 2 ^ placeOf x) : ℚ) ≤ 2 ^ 53 := by
      exact_mod_cast nearestEven_div_le x
    have hy52 : (2 ^ 52 : ℚ) ≤ nearestEven (y / 2 ^ placeOf y) := by
      exact_mod_cast le_nearestEven_div (lt_of_lt_of_le hpos h) hcoarse
    -- the power of two between the two fractions
    calc rounded x ≤ 2 ^ 53 * 2 ^ placeOf x :=
          mul_le_mul_of_nonneg_right hx53 (two_zpow_pos _).le
      _ = 2 ^ 52 * 2 ^ (placeOf x + 1) := by
          rw [zpow_add₀ two_ne_zero]
          ring
      _ ≤ 2 ^ 52 * 2 ^ placeOf y := by
          refine mul_le_mul_of_nonneg_left (zpow_le_zpow_right₀ one_le_two ?_) (by positivity)
          omega
      _ ≤ rounded y := mul_le_mul_of_nonneg_right hy52 (two_zpow_pos _).le
  · rw [rounded, rounded, heq]
    refine mul_le_mul_of_nonneg_right (Nat.cast_le.2 (nearestEven_mono ?_)) (two_zpow_pos _).le
    exact div_le_div_of_nonneg_right h (two_zpow_pos _).le

/-! ### What is a double already -/

/-- A multiple of the last place is not changed. -/
theorem rounded_of_le {x : ℚ} {m : ℕ} {e : ℤ} (hx : x = m * 2 ^ e) (he : placeOf x ≤ e) :
    rounded x = x := by
  obtain ⟨d, hd⟩ := Int.eq_ofNat_of_zero_le (sub_nonneg.2 he)
  have hpow : (2 : ℚ) ^ e = ((2 ^ d : ℕ) : ℚ) * 2 ^ placeOf x := by
    rw [show e = d + placeOf x by omega, zpow_add₀ two_ne_zero, zpow_natCast, Nat.cast_pow,
      Nat.cast_ofNat]
  have hquotient : x / 2 ^ placeOf x = ((m * 2 ^ d : ℕ) : ℚ) := by
    rw [div_eq_iff (two_zpow_pos _).ne']
    conv_lhs => rw [hx, hpow]
    push_cast
    ring
  rw [rounded, hquotient, nearestEven_natCast, ← hquotient,
    div_mul_cancel₀ _ (two_zpow_pos _).ne']

theorem log_two_lt_iff {x : ℚ} (hx : 0 < x) (e : ℤ) : Int.log 2 x < e ↔ x < 2 ^ e := by
  simpa using (Int.lt_zpow_iff_log_lt (b := 2) one_lt_two hx).symm

/-- Below `2 ^ 1023` the last place and the one in front of it are places of doubles. -/
theorem placeOf_le_of_lt {x : ℚ} {n : ℕ} (hx : 0 ≤ x) (h : x < 2 ^ n) (hn : n ≤ 1023) :
    placeOf x ≤ 970 := by
  rcases hx.eq_or_lt with rfl | hpos
  · simp [placeOf]
  · have hlog := (log_two_lt_iff hpos n).2 (by rwa [zpow_natCast])
    rw [placeOf]
    omega

/-- A number of 53 digits is not changed. -/
theorem rounded_of_lt {m : ℕ} {e : ℤ} (hm : m < 2 ^ 53) (he : -1074 ≤ e) :
    rounded (m * 2 ^ e) = m * 2 ^ e := by
  rcases Nat.eq_zero_or_pos m with rfl | hpos
  · rw [Nat.cast_zero, zero_mul, rounded_zero]
  refine rounded_of_le rfl (max_le ?_ he)
  have hx : (0 : ℚ) < m * 2 ^ e := mul_pos (Nat.cast_pos.2 hpos) (two_zpow_pos e)
  have hlt : (m : ℚ) * 2 ^ e < 2 ^ (53 + e) := by
    rw [zpow_add₀ two_ne_zero]
    refine mul_lt_mul_of_pos_right ?_ (two_zpow_pos e)
    exact_mod_cast hm
  have hlog := (log_two_lt_iff hx (53 + e)).2 hlt
  omega

theorem rounded_natCast {n : ℕ} (h : n ≤ 2 ^ 53) : rounded n = n := by
  rcases h.lt_or_eq with hlt | rfl
  · simpa using rounded_of_lt (e := 0) hlt (by norm_num)
  · have hpow : ((2 ^ 53 : ℕ) : ℚ) = ((2 ^ 52 : ℕ) : ℚ) * 2 ^ (1 : ℤ) := by norm_num
    rw [hpow]
    exact rounded_of_lt (by norm_num) (by norm_num)

/-! ### Rounding near a number -/

/-- A little below a whole number, closer than to the next double below it, a fraction is rounded
to that number or past it. -/
theorem natCast_le_rounded {q : ℕ} {x : ℚ} (hx : 0 < x) (hlarge : x < 2 ^ 53)
    (hclose : q ≤ x + x / 2 ^ 54) : q ≤ rounded x := by
  have hlog := (log_two_lt_iff hx 53).2 (by exact_mod_cast hlarge)
  have hplace : placeOf x ≤ 0 := max_le (by omega) (by norm_num)
  obtain ⟨d, hd⟩ := Int.eq_ofNat_of_zero_le (neg_nonneg.2 hplace)
  have hpow : ((2 ^ d : ℕ) : ℚ) * 2 ^ placeOf x = 1 := by
    rw [show placeOf x = -(d : ℤ) by omega, zpow_neg, zpow_natCast, Nat.cast_pow, Nat.cast_ofNat]
    exact mul_inv_cancel₀ (by positivity)
  -- the whole number is a multiple of the last place of the fraction
  have hmultiple : ((q * 2 ^ d : ℕ) : ℚ) * 2 ^ placeOf x = q := by
    rw [Nat.cast_mul, mul_assoc, hpow, mul_one]
  have hhalf : x / 2 ^ 54 < 1 / 2 * 2 ^ placeOf x := by
    have := lt_mul_two_zpow_placeOf x
    linarith
  have hnear : ((q * 2 ^ d : ℕ) : ℚ) - 1 / 2 < x / 2 ^ placeOf x := by
    rw [lt_div_iff₀ (two_zpow_pos _), sub_mul, hmultiple]
    linarith
  calc (q : ℚ) = ((q * 2 ^ d : ℕ) : ℚ) * 2 ^ placeOf x := hmultiple.symm
    _ ≤ rounded x :=
        mul_le_mul_of_nonneg_right (Nat.cast_le.2 (le_nearestEven_of_lt hnear))
          (two_zpow_pos _).le

/-- A double a little above a threshold, with no fraction in question between the threshold and
the next double, tells the same fractions apart as the threshold does, rounded or not. -/
theorem lt_rounded_iff {m : ℕ} {e : ℤ} {x t : ℚ} (hm : m + 1 < 2 ^ 53) (he : -1074 ≤ e)
    (hx : 0 ≤ x) (ht : t ≤ m * 2 ^ e) (hgap : t < x → ((m + 1 : ℕ) : ℚ) * 2 ^ e ≤ x) :
    m * 2 ^ e < rounded x ↔ t < x := by
  constructor
  · intro h
    by_contra hle
    have hdown := rounded_mono hx ((not_lt.1 hle).trans ht)
    rw [rounded_of_lt (by omega) he] at hdown
    exact absurd h (not_lt.2 hdown)
  · intro h
    calc (m : ℚ) * 2 ^ e < ((m + 1 : ℕ) : ℚ) * 2 ^ e := by
          refine mul_lt_mul_of_pos_right ?_ (two_zpow_pos e)
          exact_mod_cast Nat.lt_succ_self m
      _ = rounded (((m + 1 : ℕ) : ℚ) * 2 ^ e) := (rounded_of_lt hm he).symm
      _ ≤ rounded x := rounded_mono (mul_nonneg (Nat.cast_nonneg _) (two_zpow_pos e).le) (hgap h)

end GasLens.Decimal
