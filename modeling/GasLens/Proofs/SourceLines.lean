/-
  GasLens/Proofs/SourceLines.lean
  ===============================
  **Newlines seen two ways** — the index of a source looks for the bytes of its newlines, the
  heatmap cuts its characters at them.

  No byte of a longer character is a newline, so both see the same number of lines
  (`length_sourceLines`), and no line that the index answers lies behind the last line that the
  heatmap shows (`lineOf_le_length_sourceLines`).
-/
import GasLens.Heatmap.Basic

namespace GasLens.Source

open GasLens.Text

/-! ### Newlines among the bytes of characters -/

theorem ofNat_ne_newline {n : Nat} (h : n ≠ 10) (hb : n < 256) : UInt8.ofNat n ≠ newline := by
  intro heq
  have hval : (UInt8.ofNat n).toNat = newline.toNat := by rw [heq]
  rw [UInt8.toNat_ofNat', Nat.mod_eq_of_lt hb] at hval
  exact h hval

/-- Only the newline itself has the byte of a newline in its form. -/
theorem count_newline_utf8EncodeChar (c : Char) :
    (String.utf8EncodeChar c).count newline = if c = '\n' then 1 else 0 := by
  by_cases hc : c = '\n'
  · subst hc
    decide
  · have hval : c.val.toNat ≠ 10 := by
      intro heq
      apply hc
      apply Char.ext
      exact UInt32.toNat_inj.1 heq
    rw [if_neg hc]
    apply List.count_eq_zero_of_not_mem
    intro hmem
    simp only [String.utf8EncodeChar] at hmem
    split at hmem
    · rcases List.mem_singleton.1 hmem with h
      exact ofNat_ne_newline hval (by omega) h.symm
    · -- the bytes of a longer form are at least 0x80
      split at hmem
      · simp only [List.mem_cons, List.not_mem_nil, or_false] at hmem
        rcases hmem with h | h <;> exact ofNat_ne_newline (by omega) (by omega) h.symm
      · split at hmem
        · simp only [List.mem_cons, List.not_mem_nil, or_false] at hmem
          rcases hmem with h | h | h <;> exact ofNat_ne_newline (by omega) (by omega) h.symm
        · simp only [List.mem_cons, List.not_mem_nil, or_false] at hmem
          rcases hmem with h | h | h | h <;>
            exact ofNat_ne_newline (by omega) (by omega) h.symm

theorem count_newline_utf8 (cs : List Char) : (utf8 cs).count newline = cs.count '\n' := by
  induction cs with
  | nil => rfl
  | cons c cs ih =>
    have hcons : utf8 (c :: cs) = String.utf8EncodeChar c ++ utf8 cs := rfl
    rw [hcons, List.count_append, count_newline_utf8EncodeChar, ih, List.count_cons]
    by_cases h : c = '\n' <;> simp [h, Nat.add_comm]

/-! ### The index -/

theorem le_of_mem_newlinesFrom {offset k : Nat} {bytes : List UInt8}
    (h : k ∈ newlinesFrom offset bytes) : offset ≤ k := by
  induction bytes generalizing offset with
  | nil => cases h
  | cons b r ih =>
    unfold newlinesFrom at h
    split at h
    · rcases List.mem_cons.1 h with heq | hmem
      · exact Nat.le_of_eq heq.symm
      · exact Nat.le_of_succ_le (ih hmem)
    · exact Nat.le_of_succ_le (ih h)

theorem pairwise_newlinesFrom (offset : Nat) (bytes : List UInt8) :
    (newlinesFrom offset bytes).Pairwise (· < ·) := by
  induction bytes generalizing offset with
  | nil => exact .nil
  | cons b r ih =>
    unfold newlinesFrom
    split
    · exact .cons (fun _ hk => le_of_mem_newlinesFrom hk) (ih (offset + 1))
    · exact ih (offset + 1)

/-- If the elements with a property are the first ones, bisecting finds their number. -/
theorem partitionPoint_eq_countP {α : Type} {p : α → Bool} {xs : List α}
    (h : xs.Pairwise fun a b => p b = true → p a = true) : partitionPoint p xs = xs.countP p := by
  -- both halves, the middle element at the front of the second one, count as the whole
  have hcount : ∀ {xs back : List α} {x : α}, xs.drop (xs.length / 2) = x :: back →
      xs.countP p = (xs.take (xs.length / 2)).countP p + (x :: back).countP p := by
    intro xs back x hmiddle
    rw [← hmiddle, ← List.countP_append, List.take_append_drop]
  fun_induction partitionPoint p xs with
  | case1 xs hmiddle =>
    have hlength := List.drop_eq_nil_iff.1 hmiddle
    have hnil : xs = [] := List.eq_nil_of_length_eq_zero (by omega)
    rw [hnil, List.countP_nil]
  | case2 xs x back hmiddle hx ih =>
    rw [hcount hmiddle]
    rw [← List.take_append_drop (xs.length / 2) xs, hmiddle, List.pairwise_append] at h
    obtain ⟨-, hback, hfront⟩ := h
    have hall : ∀ a ∈ xs.take (xs.length / 2), p a = true := by
      intro a ha
      exact hfront a ha x List.mem_cons_self hx
    have hlength : (xs.take (xs.length / 2)).length = xs.length / 2 := by
      rw [List.length_take]
      omega
    rw [ih (List.pairwise_cons.1 hback).2, List.countP_eq_length.2 hall,
      List.countP_cons_of_pos hx, hlength]
    omega
  | case3 xs x back hmiddle hx ih =>
    rw [hcount hmiddle]
    rw [← List.take_append_drop (xs.length / 2) xs, hmiddle, List.pairwise_append] at h
    obtain ⟨hfront, hback, -⟩ := h
    have hnone : ∀ a ∈ x :: back, ¬ p a = true := by
      intro a ha hp
      rcases List.mem_cons.1 ha with rfl | hmem
      · exact hx hp
      · exact hx ((List.pairwise_cons.1 hback).1 a hmem hp)
    rw [ih hfront, List.countP_eq_zero.2 hnone, Nat.add_zero]

/-- The newlines before an offset are those among the bytes before it. -/
theorem countP_newlinesFrom (offset n : Nat) (bytes : List UInt8) :
    (newlinesFrom offset bytes).countP (fun k => decide (k < offset + n)) =
      (bytes.take n).count newline := by
  induction bytes generalizing offset n with
  | nil => simp [newlinesFrom]
  | cons b r ih =>
    cases n with
    | zero =>
      -- no newline stands before the first byte
      have hnone : ∀ k ∈ newlinesFrom offset (b :: r), ¬ decide (k < offset + 0) = true := by
        intro k hk
        have hle := le_of_mem_newlinesFrom hk
        simpa using hle
      rw [List.countP_eq_zero.2 hnone]
      rfl
    | succ n =>
      have hshift := ih (offset + 1) n
      rw [Nat.add_right_comm offset 1 n] at hshift
      have heq : offset + (n + 1) = offset + n + 1 := rfl
      rw [heq, List.take_succ_cons, List.count_cons]
      unfold newlinesFrom
      by_cases hb : b = newline
      · rw [if_pos hb, List.countP_cons, hshift]
        simp [hb, Nat.lt_succ_of_le (Nat.le_add_right offset n)]
      · rw [if_neg hb, hshift]
        simp [hb]

/-- The line of an offset is one more than the newlines strictly before it. -/
theorem lineAt_ofBytes (bytes : List UInt8) (offset : Nat) :
    (LineIndex.ofBytes bytes).lineAt offset =
      (((bytes.take (min offset bytes.length)).count newline : Nat) : Int) + 1 := by
  have hsorted : (newlinesFrom 0 bytes).Pairwise fun a b =>
      decide (b < min offset bytes.length) = true → decide (a < min offset bytes.length) = true := by
    refine (pairwise_newlinesFrom 0 bytes).imp fun hab hb => ?_
    exact decide_eq_true (Nat.lt_trans hab (of_decide_eq_true hb))
  have hcount := countP_newlinesFrom 0 (min offset bytes.length) bytes
  rw [Nat.zero_add] at hcount
  rw [LineIndex.lineAt, LineIndex.ofBytes, partitionPoint_eq_countP hsorted, hcount]

/-- What is unmapped is no line, and every other answer of the index is a line. -/
theorem lineOf_cases (i : LineIndex) (start : Option Int) :
    (∃ offset, start = some offset ∧ 0 ≤ offset ∧ i.lineOf start = i.lineAt offset.toNat) ∨
      ((∀ offset, start = some offset → offset < 0) ∧ i.lineOf start = unmappedLine) := by
  cases start with
  | none => exact Or.inr ⟨fun _ h => (by cases h), rfl⟩
  | some offset =>
    by_cases h : 0 ≤ offset
    · exact Or.inl ⟨offset, rfl, h, by simp [LineIndex.lineOf, h]⟩
    · refine Or.inr ⟨?_, by simp [LineIndex.lineOf, h]⟩
      intro o ho
      cases ho
      omega

/-! ### Lines of the index and lines of the heatmap -/

theorem length_sourceLines (source : String) :
    (sourceLines source).length = (bytesOf source).count newline + 1 := by
  rw [sourceLines, List.length_map, length_split, bytesOf, count_newline_utf8]

/-- The index knows no line behind the last one. -/
theorem lineOf_le_length_sourceLines (source : String) (start : Option Int) :
    (LineIndex.ofSource source).lineOf start ≤ (sourceLines source).length := by
  rcases lineOf_cases (LineIndex.ofSource source) start with ⟨offset, _, _, heq⟩ | ⟨_, heq⟩
  · have htake : ((bytesOf source).take (min offset.toNat (bytesOf source).length)).count newline ≤
        (bytesOf source).count newline :=
      (List.take_sublist _ _).count_le newline
    rw [heq, LineIndex.ofSource, lineAt_ofBytes, length_sourceLines]
    exact Int.add_le_add_right (Int.ofNat_le.2 htake) 1
  · rw [heq]
    exact Int.le_trans (by decide : (-1 : Int) ≤ 0) (Int.natCast_nonneg _)

end GasLens.Source
