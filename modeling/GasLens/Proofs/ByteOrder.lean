/-
  GasLens/Proofs/ByteOrder.lean
  =============================
  **The order of texts** — texts ascend as their bytes do.

  A map lists its keys in the order of their characters. In the encoding of texts a greater
  character has greater bytes, also where it takes more of them, so this is the order of the bytes
  as well (`bytesOf_lt_iff`).
-/
import GasLens.SortedMap
import GasLens.Text.Utf8

namespace GasLens.Text

/-- The bytes of two different characters decide, whatever follows them. -/
theorem utf8EncodeChar_append_lt {c d : Char} (h : c < d) (r s : List UInt8) :
    String.utf8EncodeChar c ++ r < String.utf8EncodeChar d ++ s := by
  have hval : c.val.toNat < d.val.toNat := h
  have hmax : d.val.toNat < 0x110000 := by
    rcases d.valid with hlow | ⟨_, hhigh⟩
    · omega
    · exact hhigh
  simp only [String.utf8EncodeChar]
  generalize c.val.toNat = m at *
  generalize d.val.toNat = n at *
  generalize hp : (r < s) = p
  -- one case for each pair of lengths
  repeat' split
  all_goals
    simp only [List.cons_append, List.nil_append, List.cons_lt_cons_iff, UInt8.lt_iff_toNat_lt,
      ← UInt8.toNat_inj, UInt8.toNat_ofNat', hp]
  rotate_right
  · -- of two characters of four bytes each, the first digit that differs decides
    by_cases h₁ : m / 262144 < n / 262144
    · left
      omega
    refine Or.inr ⟨by omega, ?_⟩
    by_cases h₂ : m / 4096 < n / 4096
    · left
      omega
    refine Or.inr ⟨by omega, ?_⟩
    by_cases h₃ : m / 64 < n / 64
    · left
      omega
    refine Or.inr ⟨by omega, ?_⟩
    left
    omega
  all_goals omega

/-- The order of texts by characters is that of their bytes: the first character that differs
decides. -/
theorem utf8_lt_utf8 {cs ds : List Char} (h : cs < ds) : utf8 cs < utf8 ds := by
  induction cs generalizing ds with
  | nil =>
    cases ds with
    | nil => cases h
    | cons d ds =>
      obtain ⟨b, r, hbytes⟩ := List.exists_cons_of_ne_nil (String.utf8EncodeChar_ne_nil (c := d))
      rw [utf8, utf8, List.flatMap_nil, List.flatMap_cons, hbytes]
      exact List.nil_lt_cons b _
  | cons c cs ih =>
    cases ds with
    | nil => cases h
    | cons d ds =>
      rw [utf8, utf8, List.flatMap_cons, List.flatMap_cons]
      rcases List.cons_lt_cons_iff.1 h with hlt | ⟨rfl, htail⟩
      · exact utf8EncodeChar_append_lt hlt _ _
      · exact List.append_left_lt (ih htail)

/-- Texts ascend as their bytes do. -/
theorem bytesOf_lt_iff {s t : String} : bytesOf s < bytesOf t ↔ s < t := by
  constructor
  · intro h
    rcases Std.lt_trichotomy s t with hlt | rfl | hgt
    · exact hlt
    · exact absurd h Std.lt_irrefl
    · exact absurd h (not_lt_of_lt (utf8_lt_utf8 (String.lt_iff.1 hgt)))
  · intro h
    exact utf8_lt_utf8 (String.lt_iff.1 h)

theorem bytesOf_le_iff {s t : String} : bytesOf s ≤ bytesOf t ↔ s ≤ t := by
  rw [← Std.not_lt, ← Std.not_lt, bytesOf_lt_iff]

end GasLens.Text
