/-
  GasLens/Proofs/TrimmedTexts.lean
  ================================
  **What trimming leaves** — the one text without white space at its ends that stands in a text
  between white space.

  `IsTrimmed` says what is left of a text and not how it is found, and there is one such text
  (`trim_eq_iff`). What is read off a trimmed text is said with it, without walking from the ends.
-/
import GasLens.Text.Blank
import Mathlib.Data.List.TakeWhile

namespace GasLens.Text

/-- A text stands in another one between white space, and has none at its own ends. -/
structure IsTrimmed (cs body : List Char) : Prop where
  surrounded : ∃ front back, cs = front ++ body ++ back ∧ (∀ c ∈ front, isBlank c = true) ∧
    ∀ c ∈ back, isBlank c = true
  head : ∀ c, body.head? = some c → isBlank c = false
  last : ∀ c, body.getLast? = some c → isBlank c = false

theorem exists_trimLeft (cs : List Char) :
    ∃ front, cs = front ++ trimLeft cs ∧ (∀ c ∈ front, isBlank c = true) ∧
      ∀ c, (trimLeft cs).head? = some c → isBlank c = false := by
  refine ⟨cs.takeWhile isBlank, (List.takeWhile_append_dropWhile).symm, ?_, ?_⟩
  · exact fun c hc => List.mem_takeWhile_imp hc
  · intro c hc
    have h := List.head?_dropWhile_not isBlank cs
    rw [trimLeft] at hc
    rw [hc] at h
    simpa using h

theorem trimRight_eq (cs : List Char) : trimRight cs = (trimLeft cs.reverse).reverse := rfl

theorem isTrimmed_trim (cs : List Char) : IsTrimmed cs (trim cs) := by
  obtain ⟨front, hfront, hblank, hhead⟩ := exists_trimLeft cs
  obtain ⟨back, hback, hblank', hlast⟩ := exists_trimLeft (trimLeft cs).reverse
  have hbody : trimLeft cs = trim cs ++ back.reverse := by
    rw [trim, trimRight_eq, ← List.reverse_append, ← hback, List.reverse_reverse]
  refine ⟨⟨front, back.reverse, ?_, hblank, ?_⟩, ?_, ?_⟩
  · rw [List.append_assoc, ← hbody, ← hfront]
  · intro c hc
    exact hblank' c (List.mem_reverse.1 hc)
  · intro c hc
    apply hhead
    rw [hbody, List.head?_append, hc]
    rfl
  · intro c hc
    apply hlast
    rw [← hc, trim, trimRight_eq, List.getLast?_reverse]

theorem trimLeft_append {front cs : List Char} (hfront : ∀ c ∈ front, isBlank c = true)
    (hhead : ∀ c, cs.head? = some c → isBlank c = false) : trimLeft (front ++ cs) = cs := by
  rw [trimLeft, List.dropWhile_append_of_pos hfront]
  cases cs with
  | nil => rfl
  | cons c cs => rw [List.dropWhile_cons_of_neg (by simp [hhead c rfl])]

/-- There is one way to trim a text. -/
theorem IsTrimmed.trim_eq {cs body : List Char} (h : IsTrimmed cs body) : trim cs = body := by
  obtain ⟨front, back, rfl, hfront, hback⟩ := h.surrounded
  have hright : trimRight (body ++ back) = body := by
    have hlast : ∀ c, body.reverse.head? = some c → isBlank c = false := by
      rw [List.head?_reverse]
      exact h.last
    rw [trimRight_eq, List.reverse_append,
      trimLeft_append (fun c hc => hback c (List.mem_reverse.1 hc)) hlast, List.reverse_reverse]
  cases body with
  | nil =>
    -- all is white space, and the first walk leaves nothing for the second one
    have hall : ∀ c ∈ front ++ back, isBlank c = true := by
      intro c hc
      exact (List.mem_append.1 hc).elim (hfront c) (hback c)
    have hleft : trimLeft (front ++ [] ++ back) = [] := by
      rw [List.append_nil, ← List.append_nil (front ++ back)]
      exact trimLeft_append hall nofun
    rw [trim, hleft]
    rfl
  | cons c body =>
    have hleft : trimLeft (front ++ (c :: body ++ back)) = c :: body ++ back :=
      trimLeft_append hfront h.head
    rw [trim, List.append_assoc, hleft, hright]

theorem trim_eq_iff {cs body : List Char} : trim cs = body ↔ IsTrimmed cs body := by
  constructor
  · rintro rfl
    exact isTrimmed_trim cs
  · exact IsTrimmed.trim_eq

theorem trim_eq_nil_iff (cs : List Char) : trim cs = [] ↔ ∀ c ∈ cs, isBlank c = true := by
  rw [trim_eq_iff]
  constructor
  · intro h c hc
    obtain ⟨front, back, rfl, hfront, hback⟩ := h.surrounded
    rw [List.append_nil] at hc
    exact (List.mem_append.1 hc).elim (hfront c) (hback c)
  · intro h
    exact ⟨⟨cs, [], by simp, h, nofun⟩, nofun, nofun⟩

/-- White space at the end of a text does not change what trimming leaves. -/
theorem trim_append_of_blank {cs back : List Char} (h : ∀ c ∈ back, isBlank c = true) :
    trim (cs ++ back) = trim cs := by
  obtain ⟨⟨front, behind, hcs, hfront, hbehind⟩, hhead, hlast⟩ := isTrimmed_trim cs
  refine IsTrimmed.trim_eq ⟨⟨front, behind ++ back, ?_, hfront, ?_⟩, hhead, hlast⟩
  · rw [← List.append_assoc, ← hcs]
  · intro c hc
    exact (List.mem_append.1 hc).elim (hbehind c) (h c)

end GasLens.Text
