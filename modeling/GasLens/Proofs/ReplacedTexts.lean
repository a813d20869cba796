/-
  GasLens/Proofs/ReplacedTexts.lean
  =================================
  **What replacing leaves** — where it changes nothing, what it takes out for good, and that it
  works piece by piece.

  A walk over a text replaces an occurrence or passes one character, so a statement on replacing
  has these two cases (`replace_of_prefix_cons`, `replace_of_not_prefix_cons`). Taking runs of one
  character out leaves no such run (`not_infix_replace`): what is left of a run is too short, and
  two runs never meet. No occurrence reaches over a character that is not part of it, so it does
  not matter whether a text is cut at that character before or after (`split_replace`).
-/
import GasLens.Text.Search

namespace GasLens.Text

section Replace

variable {what with' cs : List Char} {c sep : Char}

/-! ### One step of the walk -/

theorem replaceFrom_eq_drop (what with' : List Char) (skip : Nat) (cs : List Char) :
    replaceFrom what with' skip cs = replace what with' (cs.drop skip) := by
  induction skip generalizing cs with
  | zero => rfl
  | succ skip ih =>
    cases cs with
    | nil => rfl
    | cons c cs =>
      rw [replaceFrom, List.drop_succ_cons]
      exact ih cs

theorem replace_of_prefix_cons (h : what <+: c :: cs) (with' : List Char) :
    replace what with' (c :: cs) = with' ++ replace what with' (cs.drop (what.length - 1)) := by
  rw [replace, replaceFrom, if_pos (List.isPrefixOf_iff_prefix.2 h), replaceFrom_eq_drop]

theorem replace_of_not_prefix_cons (h : ¬ what <+: c :: cs) (with' : List Char) :
    replace what with' (c :: cs) = c :: replace what with' cs := by
  rw [replace, replaceFrom, if_neg (mt List.isPrefixOf_iff_prefix.1 h)]
  rfl

/-- What holds of the empty text, and of a text whenever it holds of what the walk has still to
see after its next step, holds of every text. -/
@[elab_as_elim]
theorem walk_induction (what : List Char) {motive : List Char → Prop} (cs : List Char)
    (nil : motive [])
    (found : ∀ c cs, what <+: c :: cs → motive (cs.drop (what.length - 1)) → motive (c :: cs))
    (passed : ∀ c cs, ¬ what <+: c :: cs → motive cs → motive (c :: cs)) : motive cs := by
  induction hlen : cs.length using Nat.strongRecOn generalizing cs with
  | _ len ih =>
    cases cs with
    | nil => exact nil
    | cons c cs =>
      rw [List.length_cons] at hlen
      by_cases hrun : what <+: c :: cs
      · refine found c cs hrun (ih _ ?_ _ rfl)
        rw [List.length_drop]
        omega
      · exact passed c cs hrun (ih _ (by omega) cs rfl)

/-! ### Texts in which nothing is replaced -/

theorem replace_of_not_infix (with' : List Char) (h : ¬ what <:+: cs) :
    replace what with' cs = cs := by
  induction cs with
  | nil => rfl
  | cons c cs ih =>
    have hhead : ¬ what <+: c :: cs := fun hpre => h hpre.isInfix
    have htail : ¬ what <:+: cs := fun hinf => h (hinf.trans (List.suffix_cons c cs).isInfix)
    rw [replace_of_not_prefix_cons hhead, ih htail]

/-! ### Runs of one character -/

/-- A run that leads after runs were taken out led before. -/
theorem prefix_of_prefix_replace {n k : Nat} (hk : k ≤ n)
    (h : List.replicate k c <+: replace (List.replicate n c) [] cs) :
    List.replicate k c <+: cs := by
  induction cs generalizing k with
  | nil => exact h
  | cons d cs ih =>
    by_cases hrun : List.replicate n c <+: d :: cs
    · have hle : List.replicate k c <+: List.replicate n c := by
        refine ⟨List.replicate (n - k) c, ?_⟩
        rw [List.replicate_append_replicate]
        congr 1
        omega
      exact hle.trans hrun
    · rw [replace_of_not_prefix_cons hrun] at h
      cases k with
      | zero => exact List.nil_prefix
      | succ k =>
        rw [List.replicate_succ, List.cons_prefix_cons] at h ⊢
        exact ⟨h.1, ih (by omega) h.2⟩

/-- No run is left where runs were taken out. -/
theorem not_infix_replace {n : Nat} (hn : 0 < n) (cs : List Char) :
    ¬ List.replicate n c <:+: replace (List.replicate n c) [] cs := by
  induction cs using walk_induction (List.replicate n c) with
  | nil =>
    intro h
    have hnil := List.infix_nil.1 h
    rw [List.replicate_eq_nil_iff] at hnil
    omega
  | found d cs hrun ih =>
    rw [replace_of_prefix_cons hrun, List.nil_append]
    exact ih
  | passed d cs hrun ih =>
    have hhead : ¬ List.replicate n c <+: replace (List.replicate n c) [] (d :: cs) :=
      fun h => hrun (prefix_of_prefix_replace (Nat.le_refl n) h)
    rw [replace_of_not_prefix_cons hrun] at hhead ⊢
    rw [List.infix_cons_iff]
    rintro (hpre | hinf)
    · exact hhead hpre
    · exact ih hinf

/-! ### Pieces between separators -/

/-- A text without the separator leads a text only if it ends before the first separator of it. -/
theorem prefix_append_cons_iff (hwhat : sep ∉ what) (front back : List Char) :
    what <+: front ++ sep :: back ↔ what <+: front := by
  constructor
  · intro h
    have hlead : front ++ [sep] <+: front ++ sep :: back := ⟨back, by simp⟩
    rcases List.prefix_or_prefix_of_prefix h hlead with hwithin | hover
    · rcases List.prefix_concat_iff.1 hwithin with rfl | hfront
      · exact absurd (List.mem_append_right front List.mem_cons_self) hwhat
      · exact hfront
    · exact absurd (hover.subset (List.mem_append_right front List.mem_cons_self)) hwhat
  · intro h
    exact h.trans (List.prefix_append front _)

/-- A character that no occurrence has cuts a text into parts that are replaced on their own. -/
theorem replace_append_cons (hne : what ≠ []) (hwhat : sep ∉ what) (front back : List Char) :
    replace what with' (front ++ sep :: back) =
      replace what with' front ++ sep :: replace what with' back := by
  induction front using walk_induction what with
  | nil =>
    have hnot : ¬ what <+: sep :: back := by
      rw [← List.nil_append (sep :: back), prefix_append_cons_iff hwhat, List.prefix_nil]
      exact hne
    rw [List.nil_append, replace_of_not_prefix_cons hnot]
    rfl
  | found c front hrun ih =>
    -- the occurrence ends within the front, and the walk goes on there
    have hlength : what.length - 1 ≤ front.length := Nat.sub_le_of_le_add hrun.length_le
    have hover := (prefix_append_cons_iff hwhat (c :: front) back).2 hrun
    rw [List.cons_append] at hover ⊢
    rw [replace_of_prefix_cons hover, replace_of_prefix_cons hrun,
      List.drop_append_of_le_length hlength, ih, List.append_assoc]
  | passed c front hrun ih =>
    have hover := mt (prefix_append_cons_iff hwhat (c :: front) back).1 hrun
    rw [List.cons_append] at hover ⊢
    rw [replace_of_not_prefix_cons hover, replace_of_not_prefix_cons hrun, ih, List.cons_append]

theorem mem_of_mem_replace (hwith : sep ∉ with') (h : sep ∈ replace what with' cs) : sep ∈ cs := by
  induction cs using walk_induction what with
  | nil => exact h
  | found c cs hrun ih =>
    rw [replace_of_prefix_cons hrun] at h
    rcases List.mem_append.1 h with hmem | hmem
    · exact absurd hmem hwith
    · exact List.mem_cons_of_mem c (List.mem_of_mem_drop (ih hmem))
  | passed c cs hrun ih =>
    rw [replace_of_not_prefix_cons hrun] at h
    rcases List.mem_cons.1 h with rfl | hmem
    · exact List.mem_cons_self
    · exact List.mem_cons_of_mem c (ih hmem)

/-- **Replacing works piece by piece** if the separator is in neither of the texts. -/
theorem split_replace (hne : what ≠ []) (hwhat : sep ∉ what) (hwith : sep ∉ with')
    (cs : List Char) :
    split sep (replace what with' cs) = (split sep cs).map (replace what with') := by
  induction hlen : cs.length using Nat.strongRecOn generalizing cs with
  | _ len ih =>
    by_cases hsep : sep ∈ cs
    · obtain ⟨front, back, rfl, hfront⟩ := List.eq_append_cons_of_mem hsep
      have hback : back.length < len := by
        rw [← hlen, List.length_append, List.length_cons]
        omega
      rw [replace_append_cons hne hwhat, split_append_cons (mt (mem_of_mem_replace hwith) hfront),
        split_append_cons hfront, ih _ hback back rfl, List.map_cons]
    · rw [split_of_not_mem hsep, split_of_not_mem (mt (mem_of_mem_replace hwith) hsep),
        List.map_singleton]

end Replace

end GasLens.Text
