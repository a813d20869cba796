/-
  GasLens/Proofs/HexTexts.lean
  ============================
  **Which texts are hexadecimal** — reading looks at bytes, and the texts it accepts are those
  whose characters are digits.

  The form of a character outside ASCII has only bytes of 128 and more, and no such byte is a
  digit. So a text of bytes that are all digits is a text of characters that are, one byte for
  each.
-/
import GasLens.Proofs.Numerals
import GasLens.Text.Hex

namespace GasLens.Text

def IsHexDigit (c : Char) : Prop := ∃ d, IsDigitOf 16 c d

/-! ### Digits -/

theorem isHexDigit_iff {c : Char} : IsHexDigit c ↔ ∃ d, digitValue? 16 c = some d := by
  simp only [IsHexDigit, digitValue?_eq_some_iff (Nat.le_refl 16)]

theorem IsHexDigit.lt {c : Char} (h : IsHexDigit c) : c.toNat < 128 := by
  obtain ⟨d, hd, hc⟩ := h
  interval_cases d <;> rcases hc with rfl | rfl <;> decide

theorem isHexDigit_hexDigit (n : Nat) : IsHexDigit (hexDigit n) :=
  ⟨n % 16, Nat.mod_lt n (by decide), Or.inl rfl⟩

theorem isHexDigit_of_mem_hexChars {bs : List UInt8} {c : Char} (h : c ∈ hexChars bs) :
    IsHexDigit c := by
  obtain ⟨b, _, hc⟩ := List.mem_flatMap.1 h
  simp only [hexPair, List.mem_cons, List.not_mem_nil, or_false] at hc
  rcases hc with rfl | rfl
  · exact isHexDigit_hexDigit _
  · exact isHexDigit_hexDigit _

theorem IsNumeral.isHexDigit {text : List Char} {n : Nat} (h : IsNumeral 16 text n) :
    ∀ c ∈ text, IsHexDigit c := by
  obtain ⟨-, digits, hdigits, -⟩ := h
  clear n
  induction hdigits with
  | nil => exact fun _ hc => absurd hc List.not_mem_nil
  | cons hd _ ih => exact List.forall_mem_cons.2 ⟨⟨_, hd⟩, ih⟩

/-! ### Written bytes -/

theorem digitValue?_digitChar {d : Nat} (hd : d < 16) : digitValue? 16 d.digitChar = some d :=
  (digitValue?_eq_some_iff (Nat.le_refl 16)).2 ⟨hd, Or.inl rfl⟩

theorem hexDigit_inj {m n : Nat} (h : hexDigit m = hexDigit n) : m % 16 = n % 16 := by
  have hvalue := congrArg (digitValue? 16) h
  rw [hexDigit, hexDigit, digitValue?_digitChar (Nat.mod_lt m (by decide)),
    digitValue?_digitChar (Nat.mod_lt n (by decide))] at hvalue
  exact Option.some.inj hvalue

theorem hexPair_inj {b c : UInt8} (h : hexPair b = hexPair c) : b = c := by
  simp only [hexPair, List.cons.injEq, and_true] at h
  have hhigh := hexDigit_inj h.1
  have hlow := hexDigit_inj h.2
  have hb := UInt8.toNat_lt_size b
  have hc := UInt8.toNat_lt_size c
  have hsize : UInt8.size = 256 := rfl
  apply UInt8.toNat_inj.1
  omega

/-- Two digits for each byte: the text tells the bytes. -/
theorem hexChars_injective : Function.Injective hexChars := by
  intro bs
  induction bs with
  | nil =>
    intro cs h
    cases cs with
    | nil => rfl
    | cons c cs => cases h
  | cons b bs ih =>
    intro cs h
    cases cs with
    | nil => cases h
    | cons c cs =>
      rw [hexChars_cons, hexChars_cons] at h
      obtain ⟨hpair, hrest⟩ := List.append_inj h rfl
      rw [hexPair_inj hpair, ih hrest]

/-! ### Bytes of characters -/

theorem utf8EncodeChar_of_lt {c : Char} (h : c.toNat < 128) :
    String.utf8EncodeChar c = [UInt8.ofNat c.toNat] := by
  have hval : c.val.toNat ≤ 0x7f := Nat.le_of_lt_succ h
  simp only [String.utf8EncodeChar, hval, if_true]
  rfl

theorem charOfByte_ofNat {c : Char} (h : c.toNat < 128) : charOfByte (UInt8.ofNat c.toNat) = c := by
  rw [charOfByte, UInt8.toNat_ofNat', Nat.mod_eq_of_lt (by omega), Char.ofNat_toNat]

/-- The form of a character outside ASCII has no byte below 128. -/
theorem le_of_mem_utf8EncodeChar {c : Char} (h : 128 ≤ c.toNat) {b : UInt8}
    (hb : b ∈ String.utf8EncodeChar c) : 128 ≤ b.toNat := by
  have hval : ¬ c.val.toNat ≤ 0x7f := Nat.not_le_of_lt h
  have hmax : c.val.toNat < 0x110000 := by
    rcases c.valid with hlow | ⟨_, hhigh⟩
    · omega
    · exact hhigh
  simp only [String.utf8EncodeChar, hval, if_false] at hb
  split at hb
  · simp only [List.mem_cons, List.not_mem_nil, or_false] at hb
    rcases hb with rfl | rfl <;> rw [UInt8.toNat_ofNat'] <;> omega
  · split at hb
    · simp only [List.mem_cons, List.not_mem_nil, or_false] at hb
      rcases hb with rfl | rfl | rfl <;> rw [UInt8.toNat_ofNat'] <;> omega
    · simp only [List.mem_cons, List.not_mem_nil, or_false] at hb
      rcases hb with rfl | rfl | rfl | rfl <;> rw [UInt8.toNat_ofNat'] <;> omega

def IsHexByte (b : UInt8) : Prop := ∃ d, hexValue? b = some d

theorem isHexByte_iff {b : UInt8} : IsHexByte b ↔ IsHexDigit (charOfByte b) := by
  rw [isHexDigit_iff]
  exact Iff.rfl

theorem toNat_charOfByte (b : UInt8) : (charOfByte b).toNat = b.toNat := by
  have hvalid : b.toNat.isValidChar := Or.inl (Nat.lt_trans (UInt8.toNat_lt_size b) (by decide))
  rw [charOfByte, Char.ofNat, dif_pos hvalid]
  rfl

theorem IsHexByte.lt {b : UInt8} (h : IsHexByte b) : b.toNat < 128 := by
  rw [← toNat_charOfByte]
  exact (isHexByte_iff.1 h).lt

theorem forall_utf8EncodeChar_iff (c : Char) :
    (∀ b ∈ String.utf8EncodeChar c, IsHexByte b) ↔ IsHexDigit c := by
  constructor
  · intro h
    by_cases hc : c.toNat < 128
    · rw [utf8EncodeChar_of_lt hc, List.forall_mem_singleton, isHexByte_iff,
        charOfByte_ofNat hc] at h
      exact h
    · -- the form of a character is not empty
      obtain ⟨b, hb⟩ := List.exists_mem_of_ne_nil _ (String.utf8EncodeChar_ne_nil (c := c))
      have hle := le_of_mem_utf8EncodeChar (Nat.le_of_not_lt hc) hb
      exact absurd (h b hb).lt (Nat.not_lt.2 hle)
  · intro h
    rw [utf8EncodeChar_of_lt h.lt, List.forall_mem_singleton, isHexByte_iff, charOfByte_ofNat h.lt]
    exact h

theorem forall_utf8_iff (cs : List Char) :
    (∀ b ∈ utf8 cs, IsHexByte b) ↔ ∀ c ∈ cs, IsHexDigit c := by
  simp only [utf8, List.forall_mem_flatMap, forall_utf8EncodeChar_iff]

theorem map_charOfByte_utf8 {cs : List Char} (h : ∀ c ∈ cs, IsHexDigit c) :
    (utf8 cs).map charOfByte = cs := by
  induction cs with
  | nil => rfl
  | cons c cs ih =>
    obtain ⟨hc, hcs⟩ := List.forall_mem_cons.1 h
    rw [utf8, List.flatMap_cons, ← utf8, utf8EncodeChar_of_lt hc.lt, List.singleton_append,
      List.map_cons, charOfByte_ofNat hc.lt, ih hcs]

theorem length_utf8_of_isHexDigit {cs : List Char} (h : ∀ c ∈ cs, IsHexDigit c) :
    (utf8 cs).length = cs.length := by
  rw [← List.length_map charOfByte, map_charOfByte_utf8 h]

/-! ### Reading -/

theorem exists_readHexDigit_iff (index : Nat) {b : UInt8} :
    (∃ d, readHexDigit index b = .ok d) ↔ IsHexByte b := by
  unfold readHexDigit IsHexByte
  cases hexValue? b with
  | none => exact ⟨nofun, nofun⟩
  | some d => exact ⟨fun _ => ⟨d, rfl⟩, fun _ => ⟨d, rfl⟩⟩

/-- A byte is read from two digits; a digit that has no second one is not looked at. -/
theorem length_of_readHexPairs {index : Nat} {bs bytes : List UInt8}
    (h : readHexPairs index bs = .ok bytes) : bytes.length = bs.length / 2 := by
  fun_induction readHexPairs index bs generalizing bytes with
  | case1 => cases h
  | case2 => cases h
  | case3 => cases h
  | case4 index a b r high _ low _ bytes hread ih =>
    cases h
    have hlength := ih hread
    simp only [List.length_cons]
    omega
  | case5 bs _ hshort =>
    cases h
    match bs, hshort with
    | [], _ => rfl
    | [_], _ => simp
    | a :: b :: r, hshort => exact (hshort a b r rfl).elim

theorem exists_readHexPairs_iff (index : Nat) {bs : List UInt8} (heven : bs.length % 2 = 0) :
    (∃ bytes, readHexPairs index bs = .ok bytes) ↔ ∀ b ∈ bs, IsHexByte b := by
  match bs, heven with
  | [], _ => exact ⟨fun _ => nofun, fun _ => ⟨[], rfl⟩⟩
  | a :: b :: r, heven =>
    have hrest : r.length % 2 = 0 := by
      simp only [List.length_cons] at heven
      omega
    have ih := exists_readHexPairs_iff (index + 2) hrest
    rw [List.forall_mem_cons, List.forall_mem_cons, ← ih,
      ← exists_readHexDigit_iff index, ← exists_readHexDigit_iff (index + 1)]
    rw [readHexPairs]
    constructor
    · rintro ⟨bytes, hread⟩
      split at hread
      · cases hread
      · rename_i high hhigh
        split at hread
        · cases hread
        · rename_i low hlow
          split at hread
          · cases hread
          · rename_i rest hrest
            exact ⟨⟨high, hhigh⟩, ⟨low, hlow⟩, ⟨rest, hrest⟩⟩
    · rintro ⟨⟨high, hhigh⟩, ⟨low, hlow⟩, ⟨rest, hrest⟩⟩
      simp only [hhigh, hlow, hrest]
      exact ⟨_, rfl⟩

/-- A text is read as a number of bytes if it has two digits for each of them and nothing else. -/
theorem exists_readHex_iff {n : Nat} {bs : List UInt8} :
    (∃ bytes, readHex bs = .ok bytes ∧ bytes.length = n) ↔
      bs.length = 2 * n ∧ ∀ b ∈ bs, IsHexByte b := by
  rw [readHex]
  split
  · constructor
    · rintro ⟨_, hread, _⟩
      cases hread
    · rintro ⟨hlength, _⟩
      omega
  · have heven : bs.length % 2 = 0 := by omega
    rw [← exists_readHexPairs_iff 0 heven]
    constructor
    · rintro ⟨bytes, hread, rfl⟩
      have hlength := length_of_readHexPairs hread
      exact ⟨by omega, bytes, hread⟩
    · rintro ⟨hn, bytes, hread⟩
      have hlength := length_of_readHexPairs hread
      exact ⟨bytes, hread, by omega⟩

theorem exists_readHex_utf8_iff {n : Nat} {cs : List Char} :
    (∃ bytes, readHex (utf8 cs) = .ok bytes ∧ bytes.length = n) ↔
      cs.length = 2 * n ∧ ∀ c ∈ cs, IsHexDigit c := by
  rw [exists_readHex_iff, forall_utf8_iff]
  constructor
  · rintro ⟨hlength, hcs⟩
    exact ⟨length_utf8_of_isHexDigit hcs ▸ hlength, hcs⟩
  · rintro ⟨hlength, hcs⟩
    exact ⟨(length_utf8_of_isHexDigit hcs).trans hlength, hcs⟩

end GasLens.Text
