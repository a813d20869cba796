/-
  GasLens/Proofs/Doubles.lean
  ===========================
  **Doubles** — arithmetic of doubles that are not negative, as fractions.

  `IsDouble` gives the fraction that a double is. The sum and the quotient of two doubles are
  the doubles nearest to the sum and the quotient of their fractions, and doubles are in the
  order of their fractions. The bits of a double hold the whole of it (`Stands.unpack_pack`), so
  that nothing is lost between two operations.
-/
import GasLens.Decimal.Binary64
import GasLens.Proofs.Mantissas

namespace GasLens.Decimal

open Float.Model

/-! ### Bits -/

theorem finite_congr {m m' : ℕ} {e e' : ℤ} (hm : m = m') (he : e = e') (h : 0 < m) (h' : 0 < m') :
    UnpackedFloat.finite .positive m e h = .finite .positive m' e' h' := by
  subst hm he
  rfl

section Bits

open UnpackedFloat

theorem unpack_normal {m : ℕ} {e : ℤ} (hpos : 0 < m) (hdigits : m < 2 ^ 53) (hleast : -1074 ≤ e)
    (hgreatest : e ≤ 971) (hfirst : 2 ^ 52 ≤ m) :
    UnpackedFloat.unpack Format.binary64 (packComponents Format.binary64 .positive
      (BitVec.ofNat 11 (e + 1075).toNat) (BitVec.ofNat 52 m)) = .finite .positive m e hpos := by
  have hfield : (BitVec.ofNat 11 (e + 1075).toNat).toNat = (e + 1075).toNat := by
    rw [BitVec.toNat_ofNat, Nat.mod_eq_of_lt (by omega)]
  have hones : BitVec.ofNat 11 (e + 1075).toNat ≠ -1#11 := by
    rw [ne_eq, ← BitVec.toNat_inj, hfield]
    simp
    omega
  have hzero : BitVec.ofNat 11 (e + 1075).toNat ≠ 0#11 := by
    rw [ne_eq, ← BitVec.toNat_inj, hfield]
    simp
    omega
  simp only [UnpackedFloat.unpack, unpackExponent_packComponents, unpackMantissa_packComponents,
    unpackSign_packComponents, Sign.ofBitVec_toBitVec, hfield]
  rw [if_neg hones, if_neg hzero]
  refine finite_congr ?_ ?_ _ _
  · have hrest : m % 2 ^ 52 < 2 ^ 52 := Nat.mod_lt _ (by norm_num)
    have hsplit : 2 ^ 52 * 1 + m % 2 ^ 52 = m := by omega
    rw [BitVec.toNat_append, BitVec.toNat_ofNat, BitVec.toNat_ofNat, Nat.shiftLeft_eq, mul_comm,
      ← Nat.two_pow_add_eq_or_of_lt hrest]
    exact hsplit
  · simp [Format.exponentBias]
    omega

theorem unpack_subnormal {m : ℕ} (hpos : 0 < m) (hdigits : m < 2 ^ 52) :
    UnpackedFloat.unpack Format.binary64 (packComponents Format.binary64 .positive
      0#11 (BitVec.ofNat 52 m)) = .finite .positive m (-1074) hpos := by
  have hmantissa : (BitVec.ofNat 52 m).toNat = m := by
    rw [BitVec.toNat_ofNat, Nat.mod_eq_of_lt hdigits]
  have hzero : BitVec.ofNat 52 m ≠ 0#52 := by
    rw [ne_eq, ← BitVec.toNat_inj, hmantissa]
    exact hpos.ne'
  simp only [UnpackedFloat.unpack, unpackExponent_packComponents, unpackMantissa_packComponents,
    unpackSign_packComponents, Sign.ofBitVec_toBitVec]
  rw [if_neg (by decide), if_pos trivial, dif_neg hzero]
  exact finite_congr hmantissa rfl _ _

end Bits

/-- The bits of a double hold all of it. -/
theorem Stands.unpack_pack {u : UnpackedFloat} {x : ℚ} (h : Stands u x) :
    UnpackedFloat.unpack Format.binary64 (UnpackedFloat.pack Format.binary64 u) = u := by
  cases h with
  | zero => exact UnpackedFloat.unpack_packedZero
  | @finite m e hpos hdigits hleast hgreatest hfirst =>
    have hbiased : e + (Format.binary64.exponentBias : ℤ) +
        Format.binary64.mantissaBitsWithoutImplicit = e + 1075 := by
      simp only [Format.exponentBias]
      norm_num
      ring
    have hfits : ¬ 2 ^ Format.binary64.exponentBits ≤ (e + 1075).toNat + 1 := by
      show ¬ 2 ^ 11 ≤ (e + 1075).toNat + 1
      omega
    simp only [UnpackedFloat.pack, hbiased]
    rw [if_neg hfits]
    by_cases hnormal : 2 ^ 52 ≤ m
    · have hlog : m.log2 + 1 = Format.binary64.mantissaBits := by
        have : m.log2 = 52 := (Nat.log2_eq_iff hpos.ne').2 ⟨hnormal, hdigits⟩
        rw [this]
        rfl
      rw [if_pos hlog]
      exact unpack_normal hpos hdigits hleast hgreatest hnormal
    · have hlog : m.log2 + 1 ≠ Format.binary64.mantissaBits := by
        have : m.log2 < 52 := (Nat.log2_lt hpos.ne').2 (not_le.1 hnormal)
        show m.log2 + 1 ≠ 1 + 52
        omega
      obtain rfl : e = -1074 := hfirst.resolve_left hnormal
      rw [if_neg hlog]
      exact unpack_subnormal hpos (not_le.1 hnormal)

/-! ### Operations -/

theorem Stands.nonneg {u : UnpackedFloat} {x : ℚ} (h : Stands u x) : 0 ≤ x := by
  cases h with
  | zero => exact le_rfl
  | finite => exact mul_nonneg (Nat.cast_nonneg _) (two_zpow_pos _).le

theorem Stands.rounded_eq {u : UnpackedFloat} {x : ℚ} (h : Stands u x) : rounded x = x := by
  cases h with
  | zero => exact rounded_zero
  | finite _ hdigits hleast => exact rounded_of_lt hdigits hleast

/-- With a lower last place a mantissa stands for less. -/
theorem mul_zpow_lt_of_lt {m₁ m₂ : ℕ} {e₁ e₂ : ℤ} (hdigits : m₁ < 2 ^ 53) (hfirst : 2 ^ 52 ≤ m₂)
    (h : e₁ < e₂) : (m₁ : ℚ) * 2 ^ e₁ < m₂ * 2 ^ e₂ := by
  have hsmall : (m₁ : ℚ) < 2 ^ 53 := by exact_mod_cast hdigits
  have hnormal : (2 ^ 52 : ℚ) ≤ m₂ := by exact_mod_cast hfirst
  calc (m₁ : ℚ) * 2 ^ e₁ < 2 ^ 53 * 2 ^ e₁ := mul_lt_mul_of_pos_right hsmall (two_zpow_pos e₁)
    _ = 2 ^ 52 * 2 ^ (e₁ + 1) := by
        rw [zpow_add₀ two_ne_zero]
        ring
    _ ≤ 2 ^ 52 * 2 ^ e₂ := by
        refine mul_le_mul_of_nonneg_left ?_ (by positivity)
        exact zpow_le_zpow_right₀ one_le_two (by omega)
    _ ≤ m₂ * 2 ^ e₂ := mul_le_mul_of_nonneg_right hnormal (two_zpow_pos e₂).le

/-- Doubles are compared as their fractions are. -/
theorem Stands.compare_eq {u v : UnpackedFloat} {x y : ℚ} (hu : Stands u x) (hv : Stands v y) :
    u.compare v = some (compare x y) := by
  cases hu with
  | zero =>
    cases hv with
    | zero => rw [compare_eq_iff_eq.2 rfl]; rfl
    | @finite m e hpos =>
      have hlt : (0 : ℚ) < m * 2 ^ e := mul_pos (Nat.cast_pos.2 hpos) (two_zpow_pos e)
      rw [compare_lt_iff_lt.2 hlt]
      rfl
  | @finite m₁ e₁ hpos₁ hdigits₁ hleast₁ hgreatest₁ hfirst₁ =>
    cases hv with
    | zero =>
      have hgt : (0 : ℚ) < m₁ * 2 ^ e₁ := mul_pos (Nat.cast_pos.2 hpos₁) (two_zpow_pos e₁)
      rw [compare_gt_iff_gt.2 hgt]
      rfl
    | @finite m₂ e₂ hpos₂ hdigits₂ hleast₂ hgreatest₂ hfirst₂ =>
      simp only [UnpackedFloat.compare, Option.some.injEq]
      rcases lt_trichotomy e₁ e₂ with hlt | rfl | hgt
      · have hvalue := mul_zpow_lt_of_lt hdigits₁ (hfirst₂.resolve_right (by omega)) hlt
        rw [compare_lt_iff_lt.2 hvalue, compare_lt_iff_lt.2 hlt]
        rfl
      · rw [compare_eq_iff_eq.2 rfl]
        rcases lt_trichotomy m₁ m₂ with hlt | rfl | hgt
        · have hvalue : (m₁ : ℚ) * 2 ^ e₁ < m₂ * 2 ^ e₁ :=
            mul_lt_mul_of_pos_right (Nat.cast_lt.2 hlt) (two_zpow_pos e₁)
          rw [compare_lt_iff_lt.2 hvalue, compare_lt_iff_lt.2 hlt]
          rfl
        · rw [compare_eq_iff_eq.2 rfl, compare_eq_iff_eq.2 rfl]
          rfl
        · have hvalue : (m₂ : ℚ) * 2 ^ e₁ < m₁ * 2 ^ e₁ :=
            mul_lt_mul_of_pos_right (Nat.cast_lt.2 hgt) (two_zpow_pos e₁)
          rw [compare_gt_iff_gt.2 hvalue, compare_gt_iff_gt.2 hgt]
          rfl
      · have hvalue := mul_zpow_lt_of_lt hdigits₂ (hfirst₁.resolve_right (by omega)) hgt
        rw [compare_gt_iff_gt.2 hvalue, compare_gt_iff_gt.2 hgt]
        rfl

/-- A sum of doubles is the exact sum, rounded once. -/
theorem Stands.add {u v : UnpackedFloat} {x y : ℚ} (hu : Stands u x) (hv : Stands v y)
    (hlarge : placeOf (x + y) ≤ 970) :
    Stands (UnpackedFloat.add Format.binary64 u v) (rounded (x + y)) := by
  cases hu with
  | zero =>
    rw [zero_add, hv.rounded_eq]
    cases hv with
    | zero => exact .zero
    | finite hpos hdigits hleast hgreatest hfirst =>
      exact .finite hpos hdigits hleast hgreatest hfirst
  | @finite m₁ e₁ hpos₁ hdigits₁ hleast₁ hgreatest₁ hfirst₁ =>
    have hu : Stands (.finite .positive m₁ e₁ hpos₁) (m₁ * 2 ^ e₁) :=
      .finite hpos₁ hdigits₁ hleast₁ hgreatest₁ hfirst₁
    cases hv with
    | zero =>
      rw [add_zero, hu.rounded_eq]
      exact hu
    | @finite m₂ e₂ hpos₂ hdigits₂ hleast₂ hgreatest₂ hfirst₂ =>
      obtain ⟨n₁, hlowered₁, hvalue₁⟩ := exists_decreaseExponent m₁ e₁ (min e₁ e₂)
      obtain ⟨n₂, hlowered₂, hvalue₂⟩ := exists_decreaseExponent m₂ e₂ (min e₁ e₂)
      rw [min_eq_right (min_le_left e₁ e₂)] at hvalue₁
      rw [min_eq_right (min_le_right e₁ e₂)] at hvalue₂
      have hsum : (m₁ : ℚ) * 2 ^ e₁ + m₂ * 2 ^ e₂ = ((n₁ + n₂ : ℕ) : ℚ) * 2 ^ min e₁ e₂ := by
        rw [← hvalue₁, ← hvalue₂, Nat.cast_add, add_mul]
      simp only [UnpackedFloat.add, UnpackedFloat.Sign.apply, hlowered₁, hlowered₂]
      rw [hsum] at hlarge ⊢
      exact stands_normalize hlarge

/-- The last place of a product is not below the product of the last places. -/
theorem add_le_placeOf_mul {m₁ m₂ : ℕ} {e₁ e₂ : ℤ} (hm₁ : 0 < m₁) (hm₂ : 0 < m₂)
    (hfirst₁ : 2 ^ 52 ≤ m₁ ∨ e₁ = -1074) (hfirst₂ : 2 ^ 52 ≤ m₂ ∨ e₂ = -1074) :
    e₁ + e₂ ≤ placeOf (((m₁ * m₂ : ℕ) : ℚ) * 2 ^ (e₁ + e₂)) := by
  by_cases hnormal : 2 ^ 52 ≤ m₁ * m₂
  · have hpos : 0 < m₁ * m₂ := Nat.mul_pos hm₁ hm₂
    have hlog := log_mul_zpow (e₁ + e₂) hpos le_rfl (lt_add_one _)
    have hdigits : 52 ≤ (m₁ * m₂).log2 := (Nat.le_log2 hpos.ne').2 hnormal
    rw [placeOf, hlog]
    omega
  · -- neither mantissa has its first digit, so both stand at the least place
    have hsmall₁ : e₁ = -1074 := hfirst₁.resolve_left fun h =>
      hnormal (h.trans (Nat.le_mul_of_pos_right m₁ hm₂))
    have hsmall₂ : e₂ = -1074 := hfirst₂.resolve_left fun h =>
      hnormal (h.trans (Nat.le_mul_of_pos_left m₂ hm₁))
    rw [placeOf]
    omega

/-- A product of doubles is the exact product, rounded once. -/
theorem Stands.mul {u v : UnpackedFloat} {x y : ℚ} (hu : Stands u x) (hv : Stands v y)
    (hlarge : placeOf (x * y) ≤ 970) :
    Stands (UnpackedFloat.mul Format.binary64 u v) (rounded (x * y)) := by
  cases hu with
  | zero =>
    rw [zero_mul, rounded_zero]
    cases hv <;> exact .zero
  | @finite m₁ e₁ hpos₁ _ _ _ hfirst₁ =>
    cases hv with
    | zero =>
      rw [mul_zero, rounded_zero]
      exact .zero
    | @finite m₂ e₂ hpos₂ _ _ _ hfirst₂ =>
      have hproduct : (m₁ : ℚ) * 2 ^ e₁ * (m₂ * 2 ^ e₂) =
          ((m₁ * m₂ : ℕ) : ℚ) * 2 ^ (e₁ + e₂) := by
        rw [zpow_add₀ two_ne_zero, Nat.cast_mul]
        ring
      rw [hproduct] at hlarge ⊢
      exact stands_roundWithAccuracy (Nat.mul_pos hpos₁ hpos₂) (describes_exact _)
        (add_le_placeOf_mul hpos₁ hpos₂ hfirst₁ hfirst₂) hlarge

/-- The whole part of a double. -/
theorem Stands.toInt_eq {u : UnpackedFloat} {x : ℚ} (h : Stands u x) (low high : ℤ) :
    UnpackedFloat.toInt low high u = ⌊x⌋₊ := by
  cases h with
  | zero => simp [UnpackedFloat.toInt]
  | @finite m e =>
    obtain ⟨m', hlowered, hvalue⟩ := exists_decreaseExponent m e 0
    obtain ⟨em, hshifted, hem⟩ := (describes_exact m').shiftToExponent (min_le_right e 0)
    rw [zpow_zero, div_one, hvalue] at hem
    simp only [UnpackedFloat.toInt, UnpackedFloat.roundToInt, UnpackedFloat.Sign.apply, hlowered,
      hshifted, hem.floor_eq]

theorem zpow_totalExponent_le {m : ℕ} (e : ℤ) (hm : 0 < m) :
    (2 : ℚ) ^ (totalExponent m e - 1) ≤ m * 2 ^ e ∧ (m : ℚ) * 2 ^ e < 2 ^ totalExponent m e := by
  have hx : (0 : ℚ) < m * 2 ^ e := mul_pos (Nat.cast_pos.2 hm) (two_zpow_pos e)
  have hlog : Int.log 2 ((m : ℚ) * 2 ^ e) = m.log2 + e :=
    log_mul_zpow e hm le_rfl (lt_add_one _)
  rw [← not_lt, ← log_two_lt_iff hx, ← log_two_lt_iff hx, hlog, totalExponent]
  omega

/-- A quotient has at most one digit less in front of the point than its parts tell. -/
theorem zpow_sub_le_div {m₁ m₂ : ℕ} (e₁ e₂ : ℤ) (hm₁ : 0 < m₁) (hm₂ : 0 < m₂) :
    (2 : ℚ) ^ (totalExponent m₁ e₁ - totalExponent m₂ e₂ - 1) ≤
      (m₁ * 2 ^ e₁) / (m₂ * 2 ^ e₂) := by
  have hlow := (zpow_totalExponent_le e₁ hm₁).1
  have hhigh := (zpow_totalExponent_le e₂ hm₂).2
  have hy : (0 : ℚ) < m₂ * 2 ^ e₂ := mul_pos (Nat.cast_pos.2 hm₂) (two_zpow_pos e₂)
  rw [le_div_iff₀ hy]
  calc (2 : ℚ) ^ (totalExponent m₁ e₁ - totalExponent m₂ e₂ - 1) * (m₂ * 2 ^ e₂)
      ≤ 2 ^ (totalExponent m₁ e₁ - totalExponent m₂ e₂ - 1) * 2 ^ totalExponent m₂ e₂ :=
        mul_le_mul_of_nonneg_left hhigh.le (two_zpow_pos _).le
    _ = 2 ^ (totalExponent m₁ e₁ - 1) := by
        rw [← zpow_add₀ two_ne_zero]
        congr 1
        ring
    _ ≤ m₁ * 2 ^ e₁ := hlow

/-- A long division stops behind the last place of the quotient, and its rest tells how far
away the quotient is. -/
theorem exists_describes_divCore (m₁ : ℕ) (e₁ : ℤ) {m₂ : ℕ} (e₂ : ℤ) (hm₂ : 0 < m₂) :
    ∃ m p acc y, UnpackedFloat.divCore Format.binary64 m₁ e₁ m₂ e₂ = (m, p, acc) ∧
      Describes (.ofMantissaAndAccuracy m acc) y ∧
      y * 2 ^ p = (m₁ * 2 ^ e₁) / (m₂ * 2 ^ e₂) ∧
      p ≤ max (totalExponent m₁ e₁ - totalExponent m₂ e₂ - 53) (-1074) := by
  simp only [UnpackedFloat.divCore, targetExponent_eq, Nat.shiftLeft_eq]
  generalize totalExponent m₁ e₁ - totalExponent m₂ e₂ = t
  generalize hp : min (e₁ - e₂) (max (t - 53) (-1074)) = p
  obtain ⟨d, hd⟩ := Int.le.dest (hp ▸ min_le_left (e₁ - e₂) (max (t - 53) (-1074)))
  have hshift : (e₁ - e₂ - p).toNat = d := by omega
  have hvalue : ((m₁ * 2 ^ d : ℕ) : ℚ) / m₂ * 2 ^ p = (m₁ * 2 ^ e₁) / (m₂ * 2 ^ e₂) := by
    have hexponent : e₁ = e₂ + p + d := by omega
    rw [hexponent, zpow_add₀ two_ne_zero, zpow_add₀ two_ne_zero, zpow_natCast]
    push_cast
    field_simp
  rw [hshift]
  exact ⟨_, p, _, _, rfl, describes_quotient _ hm₂, hvalue, hp ▸ min_le_right _ _⟩

/-- A quotient of doubles is the exact quotient, rounded once, unless it lies below all doubles. -/
theorem Stands.div {u v : UnpackedFloat} {x y : ℚ} (hu : Stands u x) (hv : Stands v y)
    (hy : 0 < y) (hsmall : x = 0 ∨ 2 ^ (-1074 : ℤ) ≤ x / y) (hlarge : placeOf (x / y) ≤ 970) :
    Stands (UnpackedFloat.div Format.binary64 u v) (rounded (x / y)) := by
  cases hv with
  | zero => exact absurd hy (lt_irrefl 0)
  | @finite m₂ e₂ hm₂ =>
    cases hu with
    | zero =>
      rw [zero_div, rounded_zero]
      exact .zero
    | @finite m₁ e₁ hm₁ =>
      have hx : (0 : ℚ) < m₁ * 2 ^ e₁ := mul_pos (Nat.cast_pos.2 hm₁) (two_zpow_pos e₁)
      have hlow := zpow_sub_le_div e₁ e₂ hm₁ hm₂
      obtain ⟨m, p, acc, q, hcore, hdescribes, hvalue, hp⟩ :=
        exists_describes_divCore m₁ e₁ e₂ hm₂
      simp only [UnpackedFloat.div, hcore]
      rw [← hvalue] at hsmall hlarge hlow ⊢
      have hpos : 0 < q * 2 ^ p := lt_of_lt_of_le (two_zpow_pos _) hlow
      have hlog := not_lt.1 fun h => absurd ((log_two_lt_iff hpos _).1 h) (not_lt.2 hlow)
      -- the quotient has a digit in front of the place where the division stops
      have hstop : (2 : ℚ) ^ p ≤ q * 2 ^ p := by
        rcases le_max_iff.1 hp with h | h
        · exact le_trans (zpow_le_zpow_right₀ one_le_two (by omega)) hlow
        · exact le_trans (zpow_le_zpow_right₀ one_le_two h) (hsmall.resolve_left hx.ne')
      have hone : 1 ≤ q := le_of_mul_le_mul_right ((one_mul _).trans_le hstop) (two_zpow_pos p)
      refine stands_roundWithAccuracy ?_ hdescribes ?_ hlarge
      · have hlt := hdescribes.between.2
        rw [mantissa_ofMantissaAndAccuracy] at hlt
        exact_mod_cast (by linarith : (0 : ℚ) < m)
      · rw [placeOf]
        omega

/-! ### Doubles -/

/-- A double is that of a fraction. -/
def IsDouble (a : Float) (x : ℚ) : Prop := Stands a.toModel.unpack x

/-- A double whose 53 digits are known. -/
theorem isDouble_of_unpack {a : Float} {m : ℕ} {e : ℤ} {hpos : 0 < m}
    (h : a.toModel.unpack = .finite .positive m e hpos) (hfirst : 2 ^ 52 ≤ m) (hdigits : m < 2 ^ 53)
    (hleast : -1074 ≤ e) (hgreatest : e ≤ 971) : IsDouble a (m * 2 ^ e) := by
  rw [IsDouble, h]
  exact .finite hpos hdigits hleast hgreatest (Or.inl hfirst)

theorem isDouble_pack {u : UnpackedFloat} {x : ℚ} (h : Stands u x) :
    IsDouble (.ofModel (.pack u)) x := by
  have hunpack : (Float.Model.pack u).unpack = u := h.unpack_pack
  rw [IsDouble, hunpack]
  exact h

theorem isDouble_ofNat_of_lt {n : ℕ} (h : n < 2 ^ 64) : IsDouble (ofNat n) (rounded n) := by
  have hword : ofNat n = .ofModel (.pack (UnpackedFloat.ofNat Format.binary64 n)) := by
    have hn : n.toUInt64.toNat = n := Nat.mod_eq_of_lt h
    rw [ofNat, if_pos h]
    show Float.ofModel (.pack (UnpackedFloat.ofNat Format.binary64 n.toUInt64.toNat)) = _
    rw [hn]
  rw [hword]
  apply isDouble_pack
  have hplace : placeOf ((n : ℚ) * 2 ^ (0 : ℤ)) ≤ 970 := by
    rw [zpow_zero, mul_one]
    refine placeOf_le_of_lt (n := 64) (Nat.cast_nonneg n) ?_ (by norm_num)
    exact_mod_cast h
  have hstands := stands_normalize hplace
  rwa [zpow_zero, mul_one] at hstands

theorem isDouble_ofNat {n : ℕ} (h : n ≤ 2 ^ 53) : IsDouble (ofNat n) n := by
  have hdouble := isDouble_ofNat_of_lt (n := n) (by omega)
  rwa [rounded_natCast h] at hdouble

theorem IsDouble.le {a b : Float} {x y : ℚ} (ha : IsDouble a x) (hb : IsDouble b y) (h : x ≤ y) :
    a ≤ b := by
  have hle : a.toModel.unpack.le b.toModel.unpack = true := by
    rw [UnpackedFloat.le, Stands.compare_eq ha hb]
    exact Ordering.isLE_iff_ne_gt.2 (compare_le_iff_le.2 h)
  show (decide (a.toModel ≤ b.toModel)) = true
  exact decide_eq_true hle

theorem IsDouble.lt_iff {a b : Float} {x y : ℚ} (ha : IsDouble a x) (hb : IsDouble b y) :
    a < b ↔ x < y := by
  have hlt : a.toModel.unpack.lt b.toModel.unpack = true ↔ x < y := by
    rw [UnpackedFloat.lt, Stands.compare_eq ha hb, ← compare_lt_iff_lt]
    simp
  show (decide (a.toModel < b.toModel)) = true ↔ x < y
  rw [decide_eq_true_eq]
  exact hlt

theorem IsDouble.add {a b : Float} {x y : ℚ} (ha : IsDouble a x) (hb : IsDouble b y)
    (hlarge : placeOf (x + y) ≤ 970) : IsDouble (a + b) (rounded (x + y)) :=
  isDouble_pack (Stands.add ha hb hlarge)

theorem IsDouble.div {a b : Float} {x y : ℚ} (ha : IsDouble a x) (hb : IsDouble b y)
    (hy : 0 < y) (hsmall : x = 0 ∨ 2 ^ (-1074 : ℤ) ≤ x / y) (hlarge : placeOf (x / y) ≤ 970) :
    IsDouble (a / b) (rounded (x / y)) :=
  isDouble_pack (Stands.div ha hb hy hsmall hlarge)

theorem IsDouble.mul {a b : Float} {x y : ℚ} (ha : IsDouble a x) (hb : IsDouble b y)
    (hlarge : placeOf (x * y) ≤ 970) : IsDouble (a * b) (rounded (x * y)) :=
  isDouble_pack (Stands.mul ha hb hlarge)

/-- The quotient of two whole numbers that are doubles. -/
theorem isDouble_ofNat_div {n d : ℕ} (hn : n ≤ 2 ^ 53) (hd : d ≤ 2 ^ 53) (hpos : 0 < d) :
    IsDouble (ofNat n / ofNat d) (rounded (n / d)) := by
  have hpos' : (0 : ℚ) < d := Nat.cast_pos.2 hpos
  have hn' : (n : ℚ) ≤ 2 ^ 53 := by exact_mod_cast hn
  have hd' : (d : ℚ) ≤ 2 ^ 53 := by exact_mod_cast hd
  have hone : (1 : ℚ) ≤ d := by exact_mod_cast hpos
  refine (isDouble_ofNat hn).div (isDouble_ofNat hd) hpos' ?_ ?_
  · rcases Nat.eq_zero_or_pos n with hzero | hsome
    · left
      rw [hzero, Nat.cast_zero]
    · right
      have hsome' : (1 : ℚ) ≤ n := by exact_mod_cast hsome
      rw [le_div_iff₀ hpos']
      calc (2 : ℚ) ^ (-1074 : ℤ) * d ≤ 2 ^ (-53 : ℤ) * 2 ^ 53 :=
            mul_le_mul (zpow_le_zpow_right₀ one_le_two (by norm_num)) hd' hpos'.le
              (two_zpow_pos _).le
        _ = 1 := by norm_num
        _ ≤ n := hsome'
  · refine placeOf_le_of_lt (n := 54) (by positivity) ?_ (by norm_num)
    rw [div_lt_iff₀ hpos']
    nlinarith

/-- The whole part of a double that fits a word. -/
theorem IsDouble.truncated_eq {a : Float} {x : ℚ} (h : IsDouble a x) (hlarge : ⌊x⌋₊ < 2 ^ 64) :
    truncated a = ⌊x⌋₊ := by
  have hword : a.toUInt64 = UInt64.ofNatClamp ⌊x⌋₊ := by
    show UInt64.ofNatClamp (UnpackedFloat.toInt 0 _ a.toModel.unpack).toNat = _
    rw [Stands.toInt_eq h, Int.toNat_natCast]
  have hsize : ⌊x⌋₊ < UInt64.size := hlarge
  rw [truncated, hword, UInt64.ofNatClamp, dif_pos hsize, UInt64.toNat_ofNatLT]

/-! ### Dividing nothing -/

section Nothing

open UnpackedFloat

/-- A number above zero, which may be past the greatest double. -/
def IsPositive (u : UnpackedFloat) : Prop :=
  u = .infinity .positive ∨ ∃ m e, ∃ h : 0 < m, u = .finite .positive m e h

theorem one_le_rounded {x : ℚ} (h : 1 ≤ x) : 1 ≤ rounded x := by
  have hone : rounded 1 = 1 := by exact_mod_cast rounded_natCast (n := 1) (by norm_num)
  exact hone ▸ rounded_mono zero_le_one h

theorem isPositive_pack {m : ℕ} {e : ℤ} (hpos : 0 < m) (hfirst : 2 ^ 52 ≤ m)
    (hdigits : m < 2 ^ 53) (hleast : -1074 ≤ e) :
    IsPositive (UnpackedFloat.unpack Format.binary64
      (UnpackedFloat.pack Format.binary64 (.finite .positive m e hpos))) := by
  by_cases hgreatest : e ≤ 971
  · have hstands := Stands.finite hpos hdigits hleast hgreatest (Or.inl hfirst)
    rw [hstands.unpack_pack]
    exact Or.inr ⟨m, e, hpos, rfl⟩
  · left
    have hbiased : e + (Format.binary64.exponentBias : ℤ) +
        Format.binary64.mantissaBitsWithoutImplicit = e + 1075 := by
      simp only [Format.exponentBias]
      norm_num
      ring
    have hpast : 2 ^ Format.binary64.exponentBits ≤ (e + 1075).toNat + 1 := by
      show 2 ^ 11 ≤ (e + 1075).toNat + 1
      omega
    simp only [UnpackedFloat.pack, hbiased]
    rw [if_pos hpast]
    rfl

/-- Rounding keeps a large number above zero. -/
theorem isPositive_roundWithAccuracy {m : ℕ} {e : ℤ} (hm : 0 < m) (h : 1 ≤ (m : ℚ) * 2 ^ e)
    (hplace : e ≤ placeOf (m * 2 ^ e)) :
    IsPositive (UnpackedFloat.unpack Format.binary64 (UnpackedFloat.pack Format.binary64
      (roundWithAccuracy Format.binary64 .positive m e .exact))) := by
  obtain ⟨m', e', hrounded, hdigits, hleast, _, hfirst, hresult⟩ :=
    exists_roundWithAccuracy hm (describes_exact m) hplace
  have hone : 1 ≤ (m' : ℚ) * 2 ^ e' := hrounded ▸ one_le_rounded h
  have hnormal : 2 ^ 52 ≤ m' := by
    refine hfirst.resolve_right fun heq => absurd hone (not_le.2 ?_)
    have hsmall : (m' : ℚ) < 2 ^ 53 := by exact_mod_cast hdigits
    calc (m' : ℚ) * 2 ^ e' < 2 ^ 53 * 2 ^ e' := mul_lt_mul_of_pos_right hsmall (two_zpow_pos e')
      _ ≤ 2 ^ 53 * 2 ^ (-53 : ℤ) := by
          refine mul_le_mul_of_nonneg_left ?_ (by positivity)
          exact zpow_le_zpow_right₀ one_le_two (by omega)
      _ = 1 := by norm_num
  have hpos : 0 < m' := lt_of_lt_of_le (by norm_num) hnormal
  rw [hresult, dif_neg hpos.ne']
  exact isPositive_pack hpos hnormal hdigits hleast

/-- A number above zero has a double above zero, and past the greatest one an infinite one. -/
theorem isPositive_ofNat {n : ℕ} (hn : 0 < n) : IsPositive (ofNat n).toModel.unpack := by
  by_cases hword : n < 2 ^ 64
  · have hdouble : Stands (ofNat n).toModel.unpack (rounded n) := isDouble_ofNat_of_lt hword
    have hone : 1 ≤ rounded n := one_le_rounded (by exact_mod_cast hn)
    generalize (ofNat n).toModel.unpack = u at hdouble
    generalize rounded n = x at hdouble hone
    cases hdouble with
    | zero => exact absurd hone (by norm_num)
    | finite hpos => exact Or.inr ⟨_, _, hpos, rfl⟩
  · -- past the words the number is read from its decimal form
    have hdecimal : ofNat n = .ofModel (.ofScientific n (Int.ofNat 0)) := by
      rw [ofNat, if_neg hword]
      show Float.ofScientific n false 0 = _
      rw [Float.ofScientific, dif_neg (by omega)]
      rfl
    have hshifted : UnpackedFloat.ofScientific Format.binary64 n (Int.ofNat 0) =
        roundWithAccuracy Format.binary64 .positive (n * 2 ^ 53) (-53) .exact := by
      have hdown : ¬ Int.ofNat 0 < -(2 ^ Format.binary64.exponentBits + (n.log2 : ℤ)) := by
        rw [not_lt]
        exact Int.neg_nonpos_of_nonneg (by positivity)
      rw [UnpackedFloat.ofScientific, dif_neg hn.ne', if_neg (by decide), if_neg hdown,
        if_pos (by decide)]
      have hbits : Format.binary64.mantissaBits = 53 := rfl
      have hpower : 10 ^ (Int.ofNat 0).toNat = 1 := rfl
      simp only [UnpackedFloat.mul, hbits, hpower, Nat.shiftLeft_eq, mul_one]
      rfl
    have hvalue : ((n * 2 ^ 53 : ℕ) : ℚ) * 2 ^ (-53 : ℤ) = n := by
      push_cast
      rw [mul_assoc]
      norm_num
    rw [hdecimal]
    show IsPositive (UnpackedFloat.unpack Format.binary64 (UnpackedFloat.pack Format.binary64
      (UnpackedFloat.ofScientific Format.binary64 n (Int.ofNat 0))))
    rw [hshifted]
    refine isPositive_roundWithAccuracy (by positivity) ?_ ?_
    · rw [hvalue]
      exact_mod_cast hn
    · rw [hvalue]
      have hone : (1 : ℚ) ≤ n := by exact_mod_cast hn
      have hplace := placeOf_mono one_pos hone
      have hleast : placeOf 1 = -52 := by simp [placeOf]
      omega

theorem zero_div_ofNat {n : ℕ} (hn : 0 < n) : ofNat 0 / ofNat n = ofNat 0 := by
  have hquotient : UnpackedFloat.div Format.binary64 (ofNat 0).toModel.unpack
      (ofNat n).toModel.unpack = .zero .positive := by
    have hzero : (ofNat 0).toModel.unpack = .zero .positive := by rfl
    rw [hzero]
    rcases isPositive_ofNat hn with h | ⟨m, e, hm, h⟩
    · rw [h]
      rfl
    · rw [h]
      rfl
  show Float.ofModel (.pack (UnpackedFloat.div Format.binary64 (ofNat 0).toModel.unpack
      (ofNat n).toModel.unpack)) = _
  rw [hquotient]
  rfl

theorem not_zero_le_of_lt {x : Float} (h : x < ofNat 0) : ¬ ofNat 0 ≤ x := by
  intro h'
  have hzero : (ofNat 0).toModel.unpack = .zero .positive := by rfl
  have hlt : x.toModel.unpack.lt (ofNat 0).toModel.unpack = true := of_decide_eq_true h
  have hle : (ofNat 0).toModel.unpack.le x.toModel.unpack = true := of_decide_eq_true h'
  rw [hzero] at hlt hle
  generalize x.toModel.unpack = u at hlt hle
  cases u with
  | notANumber => cases hlt
  | zero sign => cases hlt
  | infinity sign =>
    cases sign with
    | positive => cases hlt
    | negative => cases hle
  | finite sign m e hm =>
    cases sign with
    | positive => cases hlt
    | negative => cases hle

end Nothing

theorem Stands.isFinite {u : UnpackedFloat} {x : ℚ} (h : Stands u x) : u.isFinite = true := by
  cases h <;> rfl

/-- The exponent of ones is kept for what is no number. -/
theorem isFinite_unpack_of_ones {b : BitVec 64} (h : b.toNat / 2 ^ 52 % 2 ^ 11 = 2047) :
    (UnpackedFloat.unpack Format.binary64 b).isFinite = false := by
  have hfield : @UnpackedFloat.unpackExponent Format.binary64 b = -1#11 := by
    rw [UnpackedFloat.unpackExponent_def, ← BitVec.toNat_inj, BitVec.extractLsb'_toNat,
      Nat.shiftRight_eq_div_pow]
    exact h
  rw [UnpackedFloat.unpack, hfield, if_pos rfl]
  split <;> rfl

theorem IsDouble.isFinite {a : Float} {x : ℚ} (h : IsDouble a x) : isFinite a = true := by
  have hones : a.toBits.toNat / 2 ^ 52 % 2 ^ 11 ≠ 2047 := by
    intro hbits
    have hnot := isFinite_unpack_of_ones (b := a.toBits.toBitVec) hbits
    have hfinite : a.toModel.unpack.isFinite = true := Stands.isFinite h
    exact absurd (hfinite.symm.trans hnot) (by decide)
  simp only [Decimal.isFinite, reading, readingOfBits, if_neg hones]
  by_cases hzero : a.toBits.toNat / 2 ^ 52 % 2 ^ 11 = 0
  · rw [if_pos hzero]
  · rw [if_neg hzero]

end GasLens.Decimal
