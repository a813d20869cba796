/-
  GasLens/Proofs/MarkedTexts.lean
  ===============================
  **Texts behind a mark** — which texts name a transaction, and which are the code of a contract.

  Both are digits that may have the mark `0x` in front of them. No digit is an `x`, so a text less
  its mark consists of digits in one of two ways only. Bytes of a document are as many as were
  asked for, so whatever is written from them names a transaction again.
-/
import GasLens.Bytecode.Instruction
import GasLens.Node.Identifier
import GasLens.Proofs.HexTexts
import GasLens.Proofs.Readings

namespace GasLens

open GasLens.Text

/-! ### Codes -/

namespace Bytecode

/-- A text of one or more bytes, of two digits each. -/
def IsCodeText (text : String) : Prop :=
  ∃ size, 0 < size ∧ (codeDigits text).length = 2 * size ∧ ∀ c ∈ codeDigits text, IsHexDigit c

theorem exists_bytesOfText_iff {text : String} :
    (∃ bs, bytesOfText text = .ok bs) ↔ IsCodeText text := by
  unfold bytesOfText IsCodeText
  cases codeDigits text with
  | nil =>
    constructor
    · rintro ⟨_, hread⟩
      cases hread
    · rintro ⟨size, hpos, hlength, _⟩
      rw [List.length_nil] at hlength
      omega
  | cons c cs =>
    simp only [mapError_eq_ok_iff]
    constructor
    · rintro ⟨bs, hread⟩
      obtain ⟨hlength, hdigits⟩ := exists_readHex_utf8_iff.1 ⟨bs, hread, rfl⟩
      refine ⟨bs.length, ?_, hlength, hdigits⟩
      rw [List.length_cons] at hlength
      omega
    · rintro ⟨size, _, hlength, hdigits⟩
      obtain ⟨bs, hread, _⟩ := exists_readHex_utf8_iff.2 ⟨hlength, hdigits⟩
      exact ⟨bs, hread⟩

theorem exists_bytesOfText_error {text : String} (h : ¬ IsCodeText text) :
    ∃ cause, bytesOfText text = .error cause := by
  cases hread : bytesOfText text with
  | error cause => exact ⟨cause, rfl⟩
  | ok bs => exact absurd (exists_bytesOfText_iff.1 ⟨bs, hread⟩) h

end Bytecode

namespace Node

/-! ### Transactions -/

/-- Sixty-four digits, with a mark in front of them or without. -/
def IsTransactionText (text : String) : Prop :=
  ∃ digits : List Char, (text.toList = digits ∨ text.toList = '0' :: 'x' :: digits) ∧
    digits.length = 64 ∧ ∀ c ∈ digits, IsHexDigit c

/-- Digits are what is left of a text of just these digits, behind a mark or without one. -/
theorem withoutMark_eq_iff {cs digits : List Char} (hdigits : ∀ c ∈ digits, IsHexDigit c) :
    withoutMark cs = digits ↔ cs = digits ∨ cs = '0' :: 'x' :: digits := by
  -- a mark in front of the digits is no part of them
  have hmark : ∀ r : List Char, hexMark ++ r ≠ digits := by
    rintro r rfl
    have hx : IsHexDigit 'x' := hdigits 'x' (by simp [hexMark])
    rw [isHexDigit_iff] at hx
    obtain ⟨d, hd⟩ := hx
    cases hd
  rw [withoutMark, dropLeading?]
  split
  · rename_i hprefix
    obtain ⟨r, rfl⟩ := List.isPrefixOf_iff_prefix.1 hprefix
    rw [Option.getD_some, List.drop_left]
    constructor
    · rintro rfl
      exact Or.inr rfl
    · rintro (heq | heq)
      · exact absurd heq (hmark r)
      · have hbehind : hexMark ++ r = hexMark ++ digits := heq
        exact List.append_cancel_left hbehind
  · rename_i hprefix
    rw [Option.getD_none]
    constructor
    · exact Or.inl
    · rintro (heq | heq)
      · exact heq
      · rw [heq] at hprefix
        exact absurd (List.isPrefixOf_iff_prefix.2 (List.prefix_append hexMark digits)) hprefix

theorem transactionOf_eq_ok_iff {text : String} {bs : List UInt8} :
    transactionOf text = .ok bs ↔
      readHex (utf8 (withoutMark text.toList)) = .ok bs ∧ bs.length = transactionSize := by
  unfold transactionOf
  cases readHex (utf8 (withoutMark text.toList)) with
  | error e => simp
  | ok bytes =>
    simp only [Except.ok.injEq]
    split
    · rename_i hsize
      constructor
      · rintro ⟨⟩
        exact ⟨rfl, hsize⟩
      · rintro ⟨rfl, _⟩
        rfl
    · rename_i hsize
      constructor
      · rintro ⟨⟩
      · rintro ⟨rfl, hlength⟩
        exact absurd hlength hsize

theorem exists_transactionOf_iff {text : String} :
    (∃ bs, transactionOf text = .ok bs) ↔ IsTransactionText text := by
  simp only [transactionOf_eq_ok_iff, exists_readHex_utf8_iff, IsTransactionText]
  constructor
  · rintro ⟨hlength, hdigits⟩
    exact ⟨_, (withoutMark_eq_iff hdigits).1 rfl, hlength, hdigits⟩
  · rintro ⟨digits, htext, hlength, hdigits⟩
    rw [(withoutMark_eq_iff hdigits).2 htext]
    exact ⟨hlength, hdigits⟩

theorem transactionOf_of_not_isTransactionText {text : String} (h : ¬ IsTransactionText text) :
    ∃ reason, transactionOf text = .error (.internal reason) := by
  unfold transactionOf
  cases hread : readHex (utf8 (withoutMark text.toList)) with
  | error e => exact ⟨_, rfl⟩
  | ok bs =>
    have hsize : ¬ bs.length = transactionSize := fun hsize =>
      h (exists_transactionOf_iff.1 ⟨bs, transactionOf_eq_ok_iff.2 ⟨hread, hsize⟩⟩)
    simp only [if_neg hsize]
    exact ⟨_, rfl⟩

theorem isTransactionText_markedHex {bs : List UInt8} (h : bs.length = transactionSize) :
    IsTransactionText (markedHex bs) := by
  refine ⟨hexChars bs, Or.inr String.toList_ofList, ?_, fun _ => isHexDigit_of_mem_hexChars⟩
  rw [length_hexChars, h]
  rfl

/-! ### Bytes of a document -/

/-- Two digits fill a byte, one of which may have been waiting. -/
theorem two_mul_length_fillBytes_le {waiting : Option Nat} {cs : List Char} {bs : List UInt8}
    (h : fillBytes waiting cs = some bs) :
    2 * bs.length ≤ cs.length + waiting.toList.length := by
  fun_induction fillBytes waiting cs generalizing bs with
  | case1 =>
    cases h
    exact Nat.zero_le _
  | case2 waiting c r _ ih =>
    have hrest := ih h
    rw [List.length_cons]
    omega
  | case3 => cases h
  | case4 c r _ d _ ih =>
    have hrest := ih h
    simp only [List.length_cons, Option.toList_some, Option.toList_none, List.length_nil] at hrest ⊢
    omega
  | case5 c r _ d high _ ih =>
    obtain ⟨bytes, hread, rfl⟩ := Option.map_eq_some_iff.1 h
    have hrest := ih hread
    simp only [List.length_cons, Option.toList_some, Option.toList_none, List.length_nil] at hrest ⊢
    omega

theorem length_of_readBytes {size : Nat} {j : Json} {bs : List UInt8}
    (h : readBytes size j = some bs) : bs.length = size := by
  simp only [readBytes, Option.bind_eq_bind, Option.bind_eq_some_iff] at h
  obtain ⟨text, _, h⟩ := h
  split at h
  · cases h
  · rename_i hlength
    obtain ⟨bytes, hfilled, hbs⟩ := Option.bind_eq_some_iff.1 h
    cases hbs
    have hle := two_mul_length_fillBytes_le hfilled
    rw [if_neg (by omega)] at hle
    simp only [Option.toList_none, List.length_nil] at hle
    rw [List.length_append, List.length_replicate]
    omega

end Node

end GasLens
