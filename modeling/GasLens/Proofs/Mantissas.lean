/-
  GasLens/Proofs/Mantissas.lean
  =============================
  **Mantissas** — what the steps of rounding a double compute, as fractions.

  A mantissa that was cut off keeps two bits that tell how far away the number is that it comes
  from (`Describes`). Shifting keeps them right, and from them the nearest mantissa is found
  (`Describes.roundedMantissa_eq`). A rounded mantissa may have got one digit too many; cut once
  more, it is that of a double (`Stands`), and of the one nearest to the number
  (`stands_roundWithAccuracy`).
-/
import GasLens.Proofs.Rounding

namespace GasLens.Decimal

open Float.Model

/-! ### Mantissas with residual bits -/

open UnpackedFloat in
/-- The bits behind a mantissa tell where between it and the next whole number a fraction lies. -/
def Describes (em : ExtendedMantissa) (x : ℚ) : Prop :=
  match em.roundBit, em.stickyBit with
  | false, false => x = em.mantissa
  | false, true => em.mantissa < x ∧ x < em.mantissa + 1 / 2
  | true, false => x = em.mantissa + 1 / 2
  | true, true => em.mantissa + 1 / 2 < x ∧ x < em.mantissa + 1

section Residual

open UnpackedFloat

variable {em : ExtendedMantissa} {x : ℚ}

theorem Describes.between (h : Describes em x) : em.mantissa ≤ x ∧ x < em.mantissa + 1 := by
  obtain ⟨m, r, s⟩ := em
  cases r <;> cases s <;> simp only [Describes] at h ⊢ <;> constructor <;> linarith

theorem Describes.floor_eq (h : Describes em x) : ⌊x⌋₊ = em.mantissa := by
  obtain ⟨hle, hlt⟩ := h.between
  exact (Nat.floor_eq_iff (le_trans (Nat.cast_nonneg _) hle)).2 ⟨hle, hlt⟩

theorem Describes.roundedMantissa_eq (h : Describes em x) :
    em.roundedMantissa = nearestEven x := by
  rw [nearestEven, h.floor_eq]
  obtain ⟨m, r, s⟩ := em
  cases r <;> cases s <;> simp only [Describes] at h <;>
    simp only [ExtendedMantissa.roundedMantissa, ExtendedMantissa.accuracy,
      Accuracy.roundToNearestEven]
  · rw [h, sub_self, if_pos (by norm_num)]
  · rw [if_pos (by linarith)]
  · rw [if_neg (by linarith), if_neg (by linarith)]
  · rw [if_neg (by linarith), if_pos (by linarith)]

theorem Describes.shiftRightOne (h : Describes em x) : Describes em.shiftRightOne (x / 2) := by
  obtain ⟨m, r, s⟩ := em
  obtain ⟨q, rfl | rfl⟩ := Nat.even_or_odd' m
  · have hdiv : 2 * q / 2 = q := by omega
    have hmod : (2 * q % 2 != 0) = false := by simp
    cases r <;> cases s <;>
      simp only [Describes, ExtendedMantissa.shiftRightOne, hdiv, hmod, Bool.or_false,
        Bool.or_true, Nat.cast_mul, Nat.cast_ofNat] at h ⊢ <;>
      first | linarith | (constructor <;> linarith)
  · have hdiv : (2 * q + 1) / 2 = q := by omega
    have hmod : ((2 * q + 1) % 2 != 0) = true := by simp
    cases r <;> cases s <;>
      simp only [Describes, ExtendedMantissa.shiftRightOne, hdiv, hmod, Bool.or_false,
        Bool.or_true, Nat.cast_mul, Nat.cast_add, Nat.cast_ofNat, Nat.cast_one] at h ⊢ <;>
      first | linarith | (constructor <;> linarith)

theorem Describes.shiftRight (h : Describes em x) (n : ℕ) :
    Describes (em >>> n) (x / 2 ^ n) := by
  induction n with
  | zero =>
    rw [pow_zero, div_one]
    exact h
  | succ n ih =>
    have hstep : em >>> (n + 1) = (em >>> n).shiftRightOne := rfl
    rw [hstep, pow_succ, ← div_div]
    exact ih.shiftRightOne

theorem mantissa_ofMantissaAndAccuracy (m : ℕ) (acc : Accuracy) :
    (ExtendedMantissa.ofMantissaAndAccuracy m acc).mantissa = m := by
  rcases acc with _ | _ | _ | _ <;> rfl

theorem describes_exact (m : ℕ) : Describes (.ofMantissaAndAccuracy m .exact) m := rfl

/-- A remainder becomes the bits behind a quotient. -/
theorem describes_quotient (n : ℕ) {d : ℕ} (hd : 0 < d) :
    Describes (.ofMantissaAndAccuracy (n / d) (accuracyOfFraction (n % d) d)) (n / d) := by
  have hd' : (0 : ℚ) < d := Nat.cast_pos.2 hd
  have hsplit : (n : ℚ) / d = (n / d : ℕ) + (n % d : ℕ) / d := by
    rw [div_eq_iff hd'.ne', add_mul, div_mul_cancel₀ _ hd'.ne', mul_comm]
    exact_mod_cast (Nat.div_add_mod n d).symm
  have hlt : ((n % d : ℕ) : ℚ) / d < 1 := by
    rw [div_lt_one hd']
    exact_mod_cast Nat.mod_lt n hd
  rw [hsplit, accuracyOfFraction]
  generalize n % d = r at hlt ⊢
  generalize n / d = q
  split
  · rename_i hr
    simp [hr, Describes, ExtendedMantissa.ofMantissaAndAccuracy]
  · rename_i hr
    have hpos : (0 : ℚ) < r / d := div_pos (Nat.cast_pos.2 (Nat.pos_of_ne_zero hr)) hd'
    cases hcompare : compare (2 * r) d with
    | lt =>
      have hhalf : (r : ℚ) / d < 1 / 2 := by
        rw [div_lt_div_iff₀ hd' two_pos, one_mul, mul_comm]
        exact_mod_cast Nat.compare_eq_lt.1 hcompare
      simp only [Describes, ExtendedMantissa.ofMantissaAndAccuracy]
      constructor <;> linarith
    | eq =>
      have hhalf : (r : ℚ) / d = 1 / 2 := by
        rw [div_eq_div_iff hd'.ne' two_ne_zero, one_mul, mul_comm]
        exact_mod_cast Nat.compare_eq_eq.1 hcompare
      simp only [Describes, ExtendedMantissa.ofMantissaAndAccuracy]
      linarith
    | gt =>
      have hhalf : 1 / 2 < (r : ℚ) / d := by
        rw [div_lt_div_iff₀ two_pos hd', one_mul, mul_comm]
        exact_mod_cast Nat.compare_eq_gt.1 hcompare
      simp only [Describes, ExtendedMantissa.ofMantissaAndAccuracy]
      constructor <;> linarith

end Residual

/-! ### Rounding a mantissa -/

/-- The doubles of fractions that are not negative: zero, and 53 digits in front of a place of
which the first is not zero, except at the least place. -/
inductive Stands : UnpackedFloat → ℚ → Prop
  | zero : Stands (.zero .positive) 0
  | finite {m : ℕ} {e : ℤ} (hpos : 0 < m) (hdigits : m < 2 ^ 53) (hleast : -1074 ≤ e)
      (hgreatest : e ≤ 971) (hfirst : 2 ^ 52 ≤ m ∨ e = -1074) :
      Stands (.finite .positive m e hpos) (m * 2 ^ e)

section Shifting

open UnpackedFloat

theorem log_mul_zpow {m : ℕ} {y : ℚ} (e : ℤ) (hm : 0 < m) (hle : m ≤ y) (hlt : y < m + 1) :
    Int.log 2 (y * 2 ^ e) = m.log2 + e := by
  have hy : 0 < y := lt_of_lt_of_le (Nat.cast_pos.2 hm) hle
  have hlow : (2 : ℚ) ^ (m.log2 : ℤ) ≤ y := by
    refine le_trans ?_ hle
    rw [zpow_natCast]
    exact_mod_cast Nat.log2_self_le hm.ne'
  have hhigh : y < 2 ^ ((m.log2 : ℤ) + 1) := by
    refine lt_of_lt_of_le hlt ?_
    rw [show (m.log2 : ℤ) + 1 = ((m.log2 + 1 : ℕ) : ℤ) by push_cast; rfl, zpow_natCast]
    exact_mod_cast Nat.lt_log2_self
  have hx : 0 < y * 2 ^ e := mul_pos hy (two_zpow_pos e)
  refine le_antisymm (Int.lt_add_one_iff.1 ((log_two_lt_iff hx _).2 ?_)) (not_lt.1 ?_)
  · rw [add_right_comm, zpow_add₀ two_ne_zero]
    exact mul_lt_mul_of_pos_right hhigh (two_zpow_pos e)
  · rw [log_two_lt_iff hx, not_lt, zpow_add₀ two_ne_zero]
    exact mul_le_mul_of_nonneg_right hlow (two_zpow_pos e).le

theorem targetExponent_eq (t : ℤ) :
    Format.binary64.targetExponent t = max (t - 53) (-1074) := rfl

theorem targetExponent_eq_placeOf {m : ℕ} {y : ℚ} (e : ℤ) (hm : 0 < m) (hle : m ≤ y)
    (hlt : y < m + 1) :
    Format.binary64.targetExponent (totalExponent m e) = placeOf (y * 2 ^ e) := by
  rw [targetExponent_eq, placeOf, log_mul_zpow e hm hle hlt, totalExponent]
  congr 1
  omega

theorem shiftToTargetExponent_of_lt {m : ℕ} {e : ℤ} (hm : m < 2 ^ 53) (he : -1074 ≤ e) :
    shiftToTargetExponent Format.binary64 m e .exact = (⟨m, false, false⟩, e) := by
  have hlog : m.log2 ≤ 52 := by
    rcases Nat.eq_zero_or_pos m with rfl | hpos
    · decide
    · exact Nat.lt_succ_iff.1 ((Nat.log2_lt hpos.ne').2 hm)
  have hshift : (Format.binary64.targetExponent (totalExponent m e) - e).toNat = 0 := by
    rw [targetExponent_eq, totalExponent]
    omega
  rw [shiftToTargetExponent, shiftToExponent, hshift]
  exact Prod.ext rfl (by simp)

theorem shiftToTargetExponent_of_eq {e : ℤ} (he : -1074 ≤ e) :
    shiftToTargetExponent Format.binary64 (2 ^ 53) e .exact =
      (⟨2 ^ 52, false, false⟩, e + 1) := by
  have hlog : (2 ^ 53).log2 = 53 := Nat.log2_two_pow
  have hshift : (Format.binary64.targetExponent (totalExponent (2 ^ 53) e) - e).toNat = 1 := by
    rw [targetExponent_eq, totalExponent, hlog]
    omega
  rw [shiftToTargetExponent, shiftToExponent, hshift]
  exact Prod.ext rfl (by simp)

/-- What is left when a rounded mantissa has got one digit more. -/
theorem exists_renormalized {k : ℕ} {e : ℤ} (hk : k ≤ 2 ^ 53) (hleast : -1074 ≤ e)
    (hfirst : 2 ^ 52 ≤ k ∨ e = -1074) :
    ∃ m e', shiftToTargetExponent Format.binary64 k e .exact = (⟨m, false, false⟩, e') ∧
      (m : ℚ) * 2 ^ e' = k * 2 ^ e ∧ m < 2 ^ 53 ∧ -1074 ≤ e' ∧ e' ≤ e + 1 ∧
      (2 ^ 52 ≤ m ∨ e' = -1074) := by
  rcases hk.lt_or_eq with hlt | rfl
  · exact ⟨k, e, shiftToTargetExponent_of_lt hlt hleast, rfl, hlt, hleast, by omega, hfirst⟩
  · refine ⟨2 ^ 52, e + 1, shiftToTargetExponent_of_eq hleast, ?_, by norm_num, by omega,
      le_rfl, Or.inl le_rfl⟩
    rw [zpow_add₀ two_ne_zero]
    push_cast
    ring

theorem Describes.shiftToExponent {m : ℕ} {e p : ℤ} {acc : Accuracy} {y : ℚ}
    (h : Describes (.ofMantissaAndAccuracy m acc) y) (he : e ≤ p) :
    ∃ em, UnpackedFloat.shiftToExponent m e acc p = (em, p) ∧ Describes em (y * 2 ^ e / 2 ^ p) := by
  obtain ⟨d, rfl⟩ := Int.le.dest he
  have hshift : (e + d - e).toNat = d := by omega
  refine ⟨_, Prod.ext rfl ?_, ?_⟩
  · simp only [UnpackedFloat.shiftToExponent, hshift]
  · have hquotient : y * 2 ^ e / 2 ^ (e + (d : ℤ)) = y / 2 ^ d := by
      rw [zpow_add₀ two_ne_zero, zpow_natCast, mul_comm, mul_div_mul_left _ _ (two_zpow_pos e).ne']
    rw [hquotient, UnpackedFloat.shiftToExponent, hshift]
    exact h.shiftRight d

/-- What rounding leaves: the nearest multiple of the last place, with 53 digits or fewer. -/
theorem exists_roundWithAccuracy {m : ℕ} {e : ℤ} {acc : Accuracy} {y : ℚ} (hm : 0 < m)
    (h : Describes (.ofMantissaAndAccuracy m acc) y) (hplace : e ≤ placeOf (y * 2 ^ e)) :
    ∃ (m' : ℕ) (e' : ℤ), rounded (y * 2 ^ e) = m' * 2 ^ e' ∧ m' < 2 ^ 53 ∧ -1074 ≤ e' ∧
      e' ≤ placeOf (y * 2 ^ e) + 1 ∧ (2 ^ 52 ≤ m' ∨ e' = -1074) ∧
      roundWithAccuracy Format.binary64 .positive m e acc =
        if hm' : m' = 0 then .zero .positive
        else .finite .positive m' e' (Nat.pos_of_ne_zero hm') := by
  obtain ⟨hle, hlt⟩ := h.between
  rw [mantissa_ofMantissaAndAccuracy] at hle hlt
  have hx : 0 < y * 2 ^ e := mul_pos (lt_of_lt_of_le (Nat.cast_pos.2 hm) hle) (two_zpow_pos e)
  obtain ⟨em, hfirst, hem⟩ := h.shiftToExponent hplace
  have hleast : -1074 ≤ placeOf (y * 2 ^ e) := le_max_right _ _
  have hdigits : 2 ^ 52 ≤ em.roundedMantissa ∨ placeOf (y * 2 ^ e) = -1074 := by
    rw [hem.roundedMantissa_eq]
    rcases hleast.lt_or_eq with hmore | heq
    · exact Or.inl (le_nearestEven_div hx hmore)
    · exact Or.inr heq.symm
  have hk : em.roundedMantissa ≤ 2 ^ 53 := hem.roundedMantissa_eq ▸ nearestEven_div_le _
  obtain ⟨m', e', hsecond, hvalue, hm', hleast', hgreatest', hfirst'⟩ :=
    exists_renormalized hk hleast hdigits
  refine ⟨m', e', ?_, hm', hleast', hgreatest', hfirst', ?_⟩
  · rw [hvalue, hem.roundedMantissa_eq, rounded]
  · rw [← targetExponent_eq_placeOf e hm hle hlt] at hfirst hsecond
    simp only [roundWithAccuracy, shiftToTargetExponent] at hfirst hsecond ⊢
    simp only [hfirst, hsecond]

/-- **Rounding gives the nearest double.** -/
theorem stands_roundWithAccuracy {m : ℕ} {e : ℤ} {acc : Accuracy} {y : ℚ} (hm : 0 < m)
    (h : Describes (.ofMantissaAndAccuracy m acc) y) (hplace : e ≤ placeOf (y * 2 ^ e))
    (hlarge : placeOf (y * 2 ^ e) ≤ 970) :
    Stands (roundWithAccuracy Format.binary64 .positive m e acc) (rounded (y * 2 ^ e)) := by
  obtain ⟨m', e', hrounded, hm', hleast', hgreatest', hfirst', hresult⟩ :=
    exists_roundWithAccuracy hm h hplace
  rw [hresult, hrounded]
  split
  · rename_i hzero
    rw [hzero, Nat.cast_zero, zero_mul]
    exact .zero
  · exact .finite _ hm' hleast' (by omega) hfirst'

/-- Lowered to a place, a mantissa stands for the same fraction. -/
theorem exists_decreaseExponent (m : ℕ) (e p : ℤ) :
    ∃ m', decreaseExponent m e p = (m', min e p) ∧ (m' : ℚ) * 2 ^ min e p = m * 2 ^ e := by
  generalize hd : (e - p).toNat = d
  have hmin : min e p = e - d := by omega
  refine ⟨m * 2 ^ d, ?_, ?_⟩
  · rw [decreaseExponent, hd, Nat.shiftLeft_eq, hmin]
  · rw [hmin, Nat.cast_mul, Nat.cast_pow, Nat.cast_ofNat, mul_assoc, ← zpow_natCast,
      ← zpow_add₀ two_ne_zero, add_sub_cancel]

/-- Rounding a mantissa of any length to a double is rounding the number it stands for. -/
theorem stands_round {m : ℕ} {e : ℤ} (hm : 0 < m) (hlarge : placeOf (m * 2 ^ e) ≤ 970) :
    Stands (UnpackedFloat.round Format.binary64 .positive m e) (rounded (m * 2 ^ e)) := by
  have htarget : Format.binary64.targetExponent (totalExponent m e) = placeOf (m * 2 ^ e) :=
    targetExponent_eq_placeOf e hm le_rfl (lt_add_one _)
  generalize hp : placeOf (m * 2 ^ e) = p at htarget hlarge
  obtain ⟨m', hlowered, hvalue⟩ := exists_decreaseExponent m e p
  have hm' : 0 < m' := by
    have hpos : (0 : ℚ) < m' * 2 ^ min e p := by
      rw [hvalue]
      exact mul_pos (Nat.cast_pos.2 hm) (two_zpow_pos e)
    exact Nat.cast_pos.1 (pos_of_mul_pos_left hpos (two_zpow_pos _).le)
  simp only [UnpackedFloat.round, htarget, hlowered]
  rw [← hvalue] at hp ⊢
  exact stands_roundWithAccuracy hm' (describes_exact m') ((min_le_right e p).trans_eq hp.symm)
    (hp.trans_le hlarge)

theorem stands_normalize {n : ℕ} {e : ℤ} (hlarge : placeOf (n * 2 ^ e) ≤ 970) :
    Stands (UnpackedFloat.normalize Format.binary64 n e .positive) (rounded (n * 2 ^ e)) := by
  rcases Nat.eq_zero_or_pos n with rfl | hn
  · have hzero : rounded (((0 : ℕ) : ℚ) * 2 ^ e) = 0 := by
      rw [Nat.cast_zero, zero_mul, rounded_zero]
    rw [hzero]
    exact .zero
  · have hcompare : compare (n : ℤ) 0 = .gt := by
      rw [Int.compare_eq_gt]
      exact_mod_cast hn
    simp only [UnpackedFloat.normalize, hcompare, Int.toNat_natCast]
    exact stands_round hn hlarge

end Shifting

end GasLens.Decimal
