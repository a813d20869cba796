/-
  GasLens/Proofs/Numerals.lean
  ============================
  **Numerals** — a number that is written and read again is the same number, and what is read as
  a number at all.

  The value of decimal digits is the `Nat.ofDigitChars` of the library. Reading agrees with it as
  long as the value stays within the bound (`readDigits_of_isDigit`): the value read so far never
  decreases, so no digit before the last one can pass the bound either. For the same reason the
  texts of a base that are read are just those whose value is within it (`readNat_eq_ok_iff`), with
  a minus sign as well as without (`readInt64_eq_ok_iff`).
-/
import Mathlib.Data.List.Forall2
import Mathlib.Tactic.IntervalCases
import GasLens.Proofs.Readings
import GasLens.Text.Integer

namespace GasLens.Text

/-! ### Digits -/

theorem isDigit_of_mem_decimal {n : Nat} {c : Char} (h : c ∈ decimal n) : c.isDigit = true :=
  Nat.isDigit_of_mem_toDigits (by decide) (by decide) h

theorem decimal_ne_nil (n : Nat) : decimal n ≠ [] := Nat.toDigits_ne_nil

/-- A digit stands for its distance from the digit zero, which is below ten. -/
theorem digitValue?_of_isDigit {c : Char} (h : c.isDigit = true) :
    digitValue? 10 c = some (c.toNat - '0'.toNat) := by
  simp only [Char.isDigit, Bool.and_eq_true, decide_eq_true_eq] at h
  have hlow : '0' ≤ c := h.1
  have hhigh : c ≤ '9' := h.2
  have hval : c.toNat ≤ '9'.toNat := UInt32.le_iff_toNat_le.1 h.2
  have hlt : c.toNat - '0'.toNat < 10 := by
    have h9 : '9'.toNat = '0'.toNat + 9 := rfl
    omega
  rw [digitValue?, alphanumericValue?, if_pos ⟨hlow, hhigh⟩]
  exact Option.filter_some_pos (decide_eq_true hlt)

theorem le_ofDigitChars (value : Nat) (cs : List Char) : value ≤ Nat.ofDigitChars 10 cs value := by
  rw [Nat.ofDigitChars_eq_ofDigitChars_zero]
  have hpos : 0 < 10 ^ cs.length := Nat.pow_pos (by decide)
  have hle : value ≤ 10 ^ cs.length * value := Nat.le_mul_of_pos_left value hpos
  omega

/-! ### Reading -/

/-- Digits whose value is within the bound are read as that value. -/
theorem readDigits_of_isDigit {bound value : Nat} {cs : List Char}
    (hcs : ∀ c ∈ cs, c.isDigit = true) (hb : Nat.ofDigitChars 10 cs value ≤ bound) :
    readDigits 10 bound value cs = .ok (Nat.ofDigitChars 10 cs value) := by
  induction cs generalizing value with
  | nil => rfl
  | cons c cs ih =>
    rw [Nat.ofDigitChars_cons] at hb ⊢
    have hnext := le_ofDigitChars (10 * value + (c.toNat - '0'.toNat)) cs
    have hcomm : value * 10 + (c.toNat - '0'.toNat) = 10 * value + (c.toNat - '0'.toNat) := by
      omega
    simp only [readDigits, digitValue?_of_isDigit (hcs c List.mem_cons_self), hcomm]
    rw [if_pos (Nat.le_trans hnext hb)]
    exact ih (fun d hd => hcs d (List.mem_cons_of_mem c hd)) hb

theorem readDigits_decimal {n bound : Nat} (h : n ≤ bound) :
    readDigits 10 bound 0 (decimal n) = .ok n := by
  have hvalue : Nat.ofDigitChars 10 (decimal n) 0 = n := Nat.ofDigitChars_ten_toDigits
  have hread : readDigits 10 bound 0 (decimal n) = .ok (Nat.ofDigitChars 10 (decimal n) 0) :=
    readDigits_of_isDigit (fun _ hc => isDigit_of_mem_decimal hc)
      (Nat.le_trans (Nat.le_of_eq hvalue) h)
  rw [hread, hvalue]

/-- Without a sign in front, a number is its digits. -/
theorem readNat_cons_of_ne {base bound : Nat} {c : Char} {cs : List Char} (h : c ≠ '+') :
    readNat base bound (c :: cs) = readDigits base bound 0 (c :: cs) := by
  unfold readNat
  split <;> simp_all

theorem readNat_decimal {n bound : Nat} (h : n ≤ bound) : readNat 10 bound (decimal n) = .ok n := by
  cases hd : decimal n with
  | nil => exact absurd hd (decimal_ne_nil n)
  | cons c cs =>
    have hc : c.isDigit = true := isDigit_of_mem_decimal (hd ▸ List.mem_cons_self)
    have hplus : c ≠ '+' := fun heq => absurd (heq ▸ hc) (by decide)
    rw [readNat_cons_of_ne hplus, ← hd, readDigits_decimal h]

def IsInt64 (n : Int) : Prop := -2 ^ 63 ≤ n ∧ n < 2 ^ 63

instance (n : Int) : Decidable (IsInt64 n) := inferInstanceAs (Decidable (_ ∧ _))

theorem readInt64_minus {cs : List Char} (h : cs ≠ []) :
    readInt64 ('-' :: cs) =
      match readDigits 10 (2 ^ 63) 0 cs with
      | .ok n => .ok (-(n : Int))
      | .error .tooLarge => .error .tooSmall
      | .error e => .error e := by
  cases cs with
  | nil => exact absurd rfl h
  | cons c cs => rfl

theorem readInt64_of_isDigit {c : Char} {cs : List Char} (h : c.isDigit = true) :
    readInt64 (c :: cs) = (readDigits 10 maxI64 0 (c :: cs)).map Int.ofNat := by
  have hplus : c ≠ '+' := fun heq => absurd (heq ▸ h) (by decide)
  have hminus : c ≠ '-' := fun heq => absurd (heq ▸ h) (by decide)
  unfold readInt64
  split <;> simp_all

theorem readInt64_intText {n : Int} (h : IsInt64 n) : readInt64 (intText n).toList = .ok n := by
  unfold intText
  by_cases hneg : n < 0
  · have hbound : n.natAbs ≤ 2 ^ 63 := by
      have := h.1
      omega
    rw [if_pos hneg, String.toList_ofList, readInt64_minus (decimal_ne_nil n.natAbs),
      readDigits_decimal hbound]
    have hvalue : -(n.natAbs : Int) = n := by omega
    exact congrArg Except.ok hvalue
  · have hbound : n.natAbs ≤ maxI64 := by
      have := h.2
      unfold maxI64
      omega
    have hvalue : Int.ofNat n.natAbs = n := by
      rw [Int.ofNat_eq_natCast]
      omega
    rw [if_neg hneg, natText, String.toList_ofList]
    cases hd : decimal n.natAbs with
    | nil => exact absurd hd (decimal_ne_nil n.natAbs)
    | cons c cs =>
      have hc : c.isDigit = true := isDigit_of_mem_decimal (hd ▸ List.mem_cons_self)
      rw [readInt64_of_isDigit hc, ← hd, readDigits_decimal hbound]
      exact congrArg Except.ok hvalue

/-- The text of a number holds digits and signs only. -/
theorem isDigit_or_minus_of_mem_intText {n : Int} {c : Char} (h : c ∈ (intText n).toList) :
    c.isDigit = true ∨ c = '-' := by
  unfold intText at h
  split at h
  · rw [String.toList_ofList] at h
    rcases List.mem_cons.1 h with heq | hmem
    · exact Or.inr heq
    · exact Or.inl (isDigit_of_mem_decimal hmem)
  · rw [natText, String.toList_ofList] at h
    exact Or.inl (isDigit_of_mem_decimal h)

theorem intText_ne_nil (n : Int) : (intText n).toList ≠ [] := by
  unfold intText
  split
  · rw [String.toList_ofList]
    exact List.cons_ne_nil _ _
  · rw [natText, String.toList_ofList]
    exact decimal_ne_nil _

/-! ### Numerals in a base -/

/-- A character is the digit of a value, in either case if it is a letter. -/
def IsDigitOf (base : Nat) (c : Char) (d : Nat) : Prop :=
  d < base ∧ (c = d.digitChar ∨ c = d.digitChar.toUpper)

/-- The value of digits that follow a value. -/
def valueAfter (base value : Nat) (digits : List Nat) : Nat :=
  digits.foldl (fun value d => value * base + d) value

/-- A text of one or more digits in a base has a value. -/
def IsNumeral (base : Nat) (text : List Char) (n : Nat) : Prop :=
  text ≠ [] ∧ ∃ digits, List.Forall₂ (IsDigitOf base) text digits ∧ valueAfter base 0 digits = n

theorem IsDigitOf.isDigit {c : Char} {d : Nat} (h : IsDigitOf 10 c d) : c.isDigit = true := by
  obtain ⟨hd, hc⟩ := h
  interval_cases d <;> rcases hc with rfl | rfl <;> rfl

theorem IsNumeral.isDigit {text : List Char} {n : Nat} (h : IsNumeral 10 text n) :
    ∀ c ∈ text, c.isDigit = true := by
  obtain ⟨-, digits, hdigits, -⟩ := h
  clear n
  induction hdigits with
  | nil => exact fun _ hc => absurd hc List.not_mem_nil
  | cons hd _ ih => exact List.forall_mem_cons.2 ⟨hd.isDigit, ih⟩

section Bases

variable {base bound value n d : Nat} {c : Char} {cs : List Char}

theorem alphanumericValue?_of_isDigitOf (hbase : base ≤ 16) (h : IsDigitOf base c d) :
    alphanumericValue? c = some d := by
  obtain ⟨hd, hc⟩ := h
  have hlt : d < 16 := by omega
  clear hd
  interval_cases d <;> rcases hc with rfl | rfl <;> rfl

theorem isDigitOf_of_alphanumericValue? (hbase : base ≤ 16) (hd : d < base)
    (h : alphanumericValue? c = some d) : IsDigitOf base c d := by
  refine ⟨hd, ?_⟩
  have hlt : d < 16 := by omega
  -- from its lowest character on, a class of characters is counted up
  have hcount : ∀ least : Char, least ≤ c →
      c = Char.ofNat (least.toNat + (c.toNat - least.toNat)) := by
    intro least hleast
    have hle : least.toNat ≤ c.toNat := UInt32.le_iff_toNat_le.1 hleast
    rw [Nat.add_sub_cancel' hle, Char.ofNat_toNat]
  clear hbase hd
  unfold alphanumericValue? at h
  split at h
  · rename_i hdigit
    have hvalue : c.toNat - '0'.toNat = d := Option.some.inj h
    have hc := hcount '0' hdigit.1
    have hten : d < 10 := by
      have hhigh : c.toNat ≤ '9'.toNat := UInt32.le_iff_toNat_le.1 hdigit.2
      have hnine : '9'.toNat = '0'.toNat + 9 := rfl
      omega
    rw [hvalue] at hc
    left
    rw [hc]
    clear hc hvalue h
    interval_cases d <;> rfl
  split at h
  · rename_i hletter
    have hvalue : c.toNat - 'a'.toNat + 10 = d := Option.some.inj h
    have hc := hcount 'a' hletter.1
    rw [show c.toNat - 'a'.toNat = d - 10 by omega] at hc
    have hten : 10 ≤ d := by omega
    left
    rw [hc]
    clear hc hvalue h
    interval_cases d <;> rfl
  split at h
  · rename_i hletter
    have hvalue : c.toNat - 'A'.toNat + 10 = d := Option.some.inj h
    have hc := hcount 'A' hletter.1
    rw [show c.toNat - 'A'.toNat = d - 10 by omega] at hc
    have hten : 10 ≤ d := by omega
    right
    rw [hc]
    clear hc hvalue h
    interval_cases d <;> rfl
  · cases h

theorem digitValue?_eq_some_iff (hbase : base ≤ 16) :
    digitValue? base c = some d ↔ IsDigitOf base c d := by
  rw [digitValue?, Option.filter_eq_some_iff, decide_eq_true_eq]
  constructor
  · rintro ⟨hvalue, hd⟩
    exact isDigitOf_of_alphanumericValue? hbase hd hvalue
  · intro h
    exact ⟨alphanumericValue?_of_isDigitOf hbase h, h.1⟩

theorem le_valueAfter (hbase : 0 < base) (value : Nat) (digits : List Nat) :
    value ≤ valueAfter base value digits := by
  induction digits generalizing value with
  | nil => exact Nat.le_refl value
  | cons d digits ih =>
    have hstep : value ≤ value * base + d :=
      Nat.le_trans (Nat.le_mul_of_pos_right value hbase) (Nat.le_add_right _ d)
    exact Nat.le_trans hstep (ih (value * base + d))

/-- A text is read exactly if it consists of digits and its value is within the bound. -/
theorem readDigits_eq_ok_iff (hpos : 0 < base) (hbase : base ≤ 16) (hvalue : value ≤ bound) :
    readDigits base bound value cs = .ok n ↔
      ∃ digits, List.Forall₂ (IsDigitOf base) cs digits ∧ valueAfter base value digits = n ∧
        n ≤ bound := by
  induction cs generalizing value with
  | nil =>
    constructor
    · intro h
      cases h
      exact ⟨[], .nil, rfl, hvalue⟩
    · rintro ⟨digits, hdigits, hn, _⟩
      cases hdigits
      rw [← hn]
      rfl
  | cons c cs ih =>
    rw [readDigits]
    constructor
    · intro h
      cases hd : digitValue? base c with
      | none =>
        rw [hd] at h
        cases h
      | some d =>
        simp only [hd] at h
        split at h
        · rename_i hle
          obtain ⟨digits, hdigits, hn⟩ := (ih hle).1 h
          exact ⟨d :: digits, .cons ((digitValue?_eq_some_iff hbase).1 hd) hdigits, hn⟩
        · cases h
    · rintro ⟨digits, hdigits, hn, hle⟩
      cases hdigits with
      | @cons _ d _ digits hd hdigits =>
        have hnext : value * base + d ≤ bound := by
          have hvalue := le_valueAfter hpos (value * base + d) digits
          exact Nat.le_trans hvalue (Nat.le_trans (Nat.le_of_eq hn) hle)
        simp only [(digitValue?_eq_some_iff hbase).2 hd, if_pos hnext]
        exact (ih hnext).2 ⟨digits, hdigits, hn, hle⟩

theorem plus_ne_of_isDigitOf (hbase : base ≤ 16) (h : IsDigitOf base c d) : c ≠ '+' := by
  rintro rfl
  have hvalue := alphanumericValue?_of_isDigitOf hbase h
  cases hvalue

/-- One or more digits are read exactly if they have a value within the bound. -/
theorem readDigits_zero_eq_ok_iff (hpos : 0 < base) (hbase : base ≤ 16) (hcs : cs ≠ []) :
    readDigits base bound 0 cs = .ok n ↔ IsNumeral base cs n ∧ n ≤ bound := by
  rw [readDigits_eq_ok_iff hpos hbase (Nat.zero_le bound)]
  constructor
  · rintro ⟨digits, hdigits, hn, hle⟩
    exact ⟨⟨hcs, digits, hdigits, hn⟩, hle⟩
  · rintro ⟨⟨_, digits, hdigits, hn⟩, hle⟩
    exact ⟨digits, hdigits, hn, hle⟩

/-- A number is read with or without a plus sign in front of it. -/
theorem readNat_eq_ok_iff (hpos : 0 < base) (hbase : base ≤ 16) :
    readNat base bound cs = .ok n ↔
      ∃ text, (cs = text ∨ cs = '+' :: text) ∧ IsNumeral base text n ∧ n ≤ bound := by
  constructor
  · intro h
    unfold readNat at h
    split at h
    · cases h
    · cases h
    · rename_i text htext
      exact ⟨text, Or.inr rfl, (readDigits_zero_eq_ok_iff hpos hbase htext).1 h⟩
    · rename_i hne _ _
      exact ⟨cs, Or.inl rfl, (readDigits_zero_eq_ok_iff hpos hbase hne).1 h⟩
  · rintro ⟨text, hsign, ⟨htext, digits, hdigits, hn⟩, hle⟩
    have hok := (readDigits_zero_eq_ok_iff hpos hbase htext).2 ⟨⟨htext, digits, hdigits, hn⟩, hle⟩
    cases hdigits with
    | nil => exact absurd rfl htext
    | @cons c d text digits hd _ =>
      rcases hsign with rfl | rfl
      · rw [readNat_cons_of_ne (plus_ne_of_isDigitOf hbase hd)]
        exact hok
      · exact hok

/-- A numeral has one value. -/
theorem IsNumeral.unique {m : Nat} (hpos : 0 < base) (hbase : base ≤ 16) (hm : IsNumeral base cs m)
    (hn : IsNumeral base cs n) : m = n := by
  have hread : ∀ {k}, IsNumeral base cs k → k ≤ m + n → readDigits base (m + n) 0 cs = .ok k :=
    fun hk hle => (readDigits_zero_eq_ok_iff hpos hbase hk.1).2 ⟨hk, hle⟩
  have hboth := (hread hm (Nat.le_add_right m n)).symm.trans (hread hn (Nat.le_add_left n m))
  exact Except.ok.inj hboth

/-- The digits that are written for a number are a numeral of it. -/
theorem isNumeral_toDigits (hbase : 1 < base) (n : Nat) :
    IsNumeral base (Nat.toDigits base n) n := by
  refine ⟨Nat.toDigits_ne_nil, ?_⟩
  induction n using Nat.strongRecOn with
  | _ n ih =>
    by_cases hlt : n < base
    · rw [Nat.toDigits_of_lt_base hlt]
      exact ⟨[n], .cons ⟨hlt, Or.inl rfl⟩ .nil, by simp [valueAfter]⟩
    · have hle := Nat.le_of_not_lt hlt
      obtain ⟨digits, hdigits, hvalue⟩ := ih (n / base) (Nat.div_lt_self (by omega) hbase)
      have hlast : IsDigitOf base (n % base).digitChar (n % base) :=
        ⟨Nat.mod_lt n (by omega), Or.inl rfl⟩
      rw [Nat.toDigits_of_base_le hbase hle]
      refine ⟨digits ++ [n % base], List.rel_append hdigits (.cons hlast .nil), ?_⟩
      rw [valueAfter] at hvalue ⊢
      rw [List.foldl_append, hvalue, List.foldl_cons, List.foldl_nil, Nat.div_add_mod']

end Bases

/-! ### Numerals with a sign -/

/-- A text of decimal digits, perhaps behind a sign, has a value. -/
inductive IsInteger : List Char → Int → Prop
  | unsigned {digits : List Char} {n : Nat} : IsNumeral 10 digits n → IsInteger digits n
  | plus {digits : List Char} {n : Nat} : IsNumeral 10 digits n → IsInteger ('+' :: digits) n
  | minus {digits : List Char} {n : Nat} : IsNumeral 10 digits n → IsInteger ('-' :: digits) (-n)

section Signs

variable {cs : List Char} {m : Nat} {n : Int}

theorem isInt64_natCast : IsInt64 m ↔ m ≤ maxI64 := by
  unfold IsInt64 maxI64
  omega

theorem isInt64_neg_natCast : IsInt64 (-m) ↔ m ≤ 2 ^ 63 := by
  unfold IsInt64
  omega

theorem readInt64_plus (h : cs ≠ []) :
    readInt64 ('+' :: cs) = (readDigits 10 maxI64 0 cs).map Int.ofNat := by
  cases cs with
  | nil => exact absurd rfl h
  | cons c cs => rfl

/-- A text is read as a whole number exactly if it is one of 64 bits. -/
theorem readInt64_eq_ok_iff : readInt64 cs = .ok n ↔ IsInteger cs n ∧ IsInt64 n := by
  have hread : ∀ {digits : List Char} {bound m : Nat}, digits ≠ [] →
      (readDigits 10 bound 0 digits = .ok m ↔ IsNumeral 10 digits m ∧ m ≤ bound) :=
    readDigits_zero_eq_ok_iff (by decide) (by decide)
  constructor
  · intro h
    unfold readInt64 at h
    split at h
    · cases h
    · cases h
    · cases h
    · rename_i digits hne
      split at h
      · rename_i m hm
        cases h
        obtain ⟨hdigits, hle⟩ := (hread hne).1 hm
        exact ⟨.minus hdigits, isInt64_neg_natCast.2 hle⟩
      · cases h
      · cases h
    · rename_i digits hne
      obtain ⟨m, hm, rfl⟩ := map_eq_ok_iff.1 h
      obtain ⟨hdigits, hle⟩ := (hread hne).1 hm
      exact ⟨.plus hdigits, isInt64_natCast.2 hle⟩
    · rename_i hne _ _ _ _
      obtain ⟨m, hm, rfl⟩ := map_eq_ok_iff.1 h
      obtain ⟨hdigits, hle⟩ := (hread hne).1 hm
      exact ⟨.unsigned hdigits, isInt64_natCast.2 hle⟩
  · rintro ⟨hn, hint⟩
    cases hn with
    | @unsigned _ m hdigits =>
      have hm := (hread hdigits.1).2 ⟨hdigits, isInt64_natCast.1 hint⟩
      cases cs with
      | nil => exact absurd rfl hdigits.1
      | cons c cs =>
        rw [readInt64_of_isDigit (hdigits.isDigit c List.mem_cons_self)]
        exact map_eq_ok_iff.2 ⟨m, hm, rfl⟩
    | @plus _ m hdigits =>
      have hm := (hread hdigits.1).2 ⟨hdigits, isInt64_natCast.1 hint⟩
      rw [readInt64_plus hdigits.1]
      exact map_eq_ok_iff.2 ⟨m, hm, rfl⟩
    | minus hdigits =>
      rw [readInt64_minus hdigits.1, (hread hdigits.1).2 ⟨hdigits, isInt64_neg_natCast.1 hint⟩]

end Signs

end GasLens.Text
