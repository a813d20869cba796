/-
  GasLens/Proofs/JsonStrings.lean
  ===============================
  **Strings of documents, written and read** — every string is read back as it was written.

  One character is one step of the reader, whether it is written as it is, with a short escape or
  by its number (`readChars_escapedChar`). A quote inside a string is always escaped, so the
  first bare one is the end.
-/
import GasLens.Json.Reader
import GasLens.Json.Writer

namespace GasLens.Json

open GasLens.Text

theorem shortEscape_step {fuel : Nat} {read rest : List Char} {e c : Char} (he : e ≠ 'u')
    (h : shortEscape? e = some c) :
    readChars (fuel + 1) read ('\\' :: e :: rest) = readChars fuel (c :: read) rest := by
  rw [readChars, if_neg (by decide), if_pos rfl, h]
  exact he

theorem readUnit_append {cs r : List Char} {n : Nat} (h : readUnit cs = some (n, r))
    (rest : List Char) : readUnit (cs ++ rest) = some (n, r ++ rest) := by
  unfold readUnit at h
  split at h
  · rename_i a b c d r'
    simp only [List.cons_append, readUnit]
    split at h
    · rename_i ha hb hc hd
      cases h
      rfl
    · cases h
  · cases h

/-- A control character is written by its number, with two zeros in front. -/
theorem readUnit_control {n : Nat} (hn : n < 0x20) (rest : List Char) :
    readUnit (zeroFilled 4 (Nat.toDigits 16 n) ++ rest) = some (n, rest) := by
  have hall : ∀ n < 0x20, readUnit (zeroFilled 4 (Nat.toDigits 16 n)) = some (n, []) := by
    decide +kernel
  exact readUnit_append (hall n hn) rest

/-- **One character is read by one step.** -/
theorem readChars_escapedChar (fuel : Nat) (read : List Char) (c : Char) (rest : List Char) :
    readChars (fuel + 1) read (escapedChar c ++ rest) = readChars fuel (c :: read) rest := by
  unfold escapedChar
  split
  · subst_vars
    exact shortEscape_step (by decide) rfl
  split
  · subst_vars
    exact shortEscape_step (by decide) rfl
  split
  · subst_vars
    exact shortEscape_step (by decide) rfl
  split
  · subst_vars
    exact shortEscape_step (by decide) rfl
  split
  · subst_vars
    exact shortEscape_step (by decide) rfl
  split
  · subst_vars
    exact shortEscape_step (by decide) rfl
  split
  · subst_vars
    exact shortEscape_step (by decide) rfl
  split
  · rename_i hcontrol
    have hpoint :
        readCodePoint (zeroFilled 4 (Nat.toDigits 16 c.toNat) ++ rest) = some (c, rest) := by
      rw [readCodePoint, readUnit_control hcontrol]
      simp only
      rw [if_pos (Or.inl (by omega)), Char.ofNat_toNat]
    rw [List.append_assoc, List.cons_append, List.cons_append, List.nil_append, readChars.eq_def]
    simp only [hpoint]
    rfl
  · rename_i hquote hbackslash _ _ _ _ _ hplain
    rw [List.cons_append, List.nil_append, readChars.eq_def]
    simp only [hquote, hbackslash, hplain, if_false]

/-- **Every string is read back**, given as many steps as it has characters and one more. -/
theorem readChars_escaped {fuel : Nat} (read cs rest : List Char) (hfuel : cs.length < fuel) :
    readChars fuel read (cs.flatMap escapedChar ++ '"' :: rest) =
      some (String.ofList (read.reverse ++ cs), rest) := by
  induction cs generalizing fuel read with
  | nil =>
    cases fuel with
    | zero => cases hfuel
    | succ fuel => rw [List.append_nil]; rfl
  | cons c cs ih =>
    cases fuel with
    | zero => cases hfuel
    | succ fuel =>
      rw [List.flatMap_cons, List.append_assoc, readChars_escapedChar,
        ih (c :: read) (Nat.lt_of_succ_lt_succ hfuel), List.reverse_cons, List.append_assoc]
      rfl

theorem toList_stringText (s : String) :
    (stringText s).toList = '"' :: (s.toList.flatMap escapedChar ++ ['"']) := by
  rw [stringText, String.toList_ofList, List.cons_append]

theorem escapedChar_ne_nil (c : Char) : escapedChar c ≠ [] := by
  unfold escapedChar
  repeat' split
  all_goals simp

theorem length_le_length_escaped (cs : List Char) :
    cs.length ≤ (cs.flatMap escapedChar).length := by
  induction cs with
  | nil => exact Nat.le_refl 0
  | cons c cs ih =>
    have hpos := List.length_pos_iff.2 (escapedChar_ne_nil c)
    rw [List.flatMap_cons, List.length_append, List.length_cons]
    omega

end GasLens.Json
