/-
  GasLens/Proofs/Totals.lean
  ==========================
  **Sums over maps by key** — how much of what a map holds stands at keys of a kind.

  `sumWhere` is the only measure used for costs by line: the total of a map is its value at the
  kind of all keys, and the value at one key its value at the kind of that key. Adding an amount
  changes it by that amount where the key is of the kind (`totalWhere_add`), so what one addition
  does to every measure at once is said by one lemma, and what a run of additions does by one
  induction (`totalWhere_foldl_add`).
-/
import GasLens.Proofs.CheckedSums

namespace GasLens

section Sums

variable {κ : Type}

/-- The sum of the amounts whose keys are of a kind. -/
def sumWhere (p : κ → Bool) (es : List (κ × Nat)) : Nat :=
  ((es.filter fun e => p e.1).map Prod.snd).sum

@[simp] theorem sumWhere_nil (p : κ → Bool) : sumWhere p [] = 0 := rfl

@[simp] theorem sumWhere_cons (p : κ → Bool) (e : κ × Nat) (es : List (κ × Nat)) :
    sumWhere p (e :: es) = (if p e.1 then e.2 else 0) + sumWhere p es := by
  by_cases h : p e.1 <;> simp [sumWhere, h]

theorem sumWhere_append (p : κ → Bool) (es fs : List (κ × Nat)) :
    sumWhere p (es ++ fs) = sumWhere p es + sumWhere p fs := by
  simp [sumWhere]

/-- Entries sorted out beforehand are those of two kinds at once. -/
theorem sumWhere_filter (p q : κ → Bool) (es : List (κ × Nat)) :
    sumWhere p (es.filter fun e => q e.1) = sumWhere (fun k => q k && p k) es := by
  rw [sumWhere, sumWhere, List.filter_filter]
  simp only [Bool.and_comm]

theorem sumWhere_flatMap {α : Type} (p : κ → Bool) (f : α → List (κ × Nat)) (xs : List α) :
    sumWhere p (xs.flatMap f) = (xs.map fun x => sumWhere p (f x)).sum := by
  induction xs with
  | nil => rfl
  | cons x xs ih => rw [List.flatMap_cons, sumWhere_append, ih, List.map_cons, List.sum_cons]

theorem sumWhere_eq_zero {p : κ → Bool} {es : List (κ × Nat)} (h : ∀ e ∈ es, p e.1 = false) :
    sumWhere p es = 0 := by
  have hnone : es.filter (fun e => p e.1) = [] :=
    List.filter_eq_nil_iff.2 fun e he => by simp [h e he]
  rw [sumWhere, hnone]
  rfl

theorem sumWhere_le {p q : κ → Bool} (h : ∀ k, p k = true → q k = true)
    (es : List (κ × Nat)) : sumWhere p es ≤ sumWhere q es := by
  induction es with
  | nil => exact Nat.le_refl _
  | cons e es ih =>
    rw [sumWhere_cons, sumWhere_cons]
    by_cases hp : p e.1 = true
    · rw [if_pos hp, if_pos (h e.1 hp)]
      exact Nat.add_le_add_left ih _
    · rw [if_neg hp, Nat.zero_add]
      exact Nat.le_trans ih (Nat.le_add_left _ _)

/-- Three kinds of which every key that is there has exactly one share out the whole sum. -/
theorem sum_eq_sumWhere_add {p q r : κ → Bool} {es : List (κ × Nat)}
    (h : ∀ e ∈ es, (p e.1).toNat + (q e.1).toNat + (r e.1).toNat = 1) :
    (es.map Prod.snd).sum = sumWhere p es + sumWhere q es + sumWhere r es := by
  induction es with
  | nil => rfl
  | cons e es ih =>
    have htail := ih fun e' he' => h e' (List.mem_cons_of_mem e he')
    have hhead := h e List.mem_cons_self
    rw [List.map_cons, List.sum_cons, htail]
    simp only [sumWhere_cons]
    cases hp : p e.1 <;> cases hq : q e.1 <;> cases hr : r e.1 <;>
      simp [hp, hq, hr] at hhead ⊢ <;> omega

end Sums

namespace SortedMap

variable {κ : Type} [LT κ]

/-- The sum of the amounts at keys of a kind. -/
def totalWhere (p : κ → Bool) (m : SortedMap κ Nat) : Nat := sumWhere p m.entries

@[simp] theorem totalWhere_empty (p : κ → Bool) : (empty : SortedMap κ Nat).totalWhere p = 0 := rfl

theorem total_eq_totalWhere (m : SortedMap κ Nat) : m.total = m.totalWhere fun _ => true := by
  rw [total, values, totalWhere, sumWhere, List.filter_eq_self.2 fun _ _ => rfl]

variable [LE κ] [DecidableLT κ] [Std.LawfulOrderLT κ] [Std.IsLinearOrder κ]

theorem sumWhere_updateEntry_add (p : κ → Bool) (k : κ) (n : Nat) (es : List (κ × Nat)) :
    sumWhere p (updateEntry k (fun old => old.getD 0 + n) es) =
      sumWhere p es + if p k then n else 0 := by
  induction es with
  | nil => simp [updateEntry]
  | cons e r ih =>
    obtain ⟨k', v⟩ := e
    unfold updateEntry
    split
    · simp only [sumWhere_cons, Option.getD_none, Nat.zero_add]
      omega
    · split
      · simp only [sumWhere_cons, ih]
        omega
      · rename_i hk hk'
        -- neither key is below the other, so the amounts stand at one key
        have hkey : k = k' := eq_of_not_lt hk hk'
        subst hkey
        simp only [sumWhere_cons, Option.getD_some]
        split <;> omega

theorem totalWhere_add (p : κ → Bool) (m : SortedMap κ Nat) (k : κ) (n : Nat) :
    (m.add k n).totalWhere p = m.totalWhere p + if p k then n else 0 :=
  sumWhere_updateEntry_add p k n m.entries

theorem total_add (m : SortedMap κ Nat) (k : κ) (n : Nat) : (m.add k n).total = m.total + n := by
  rw [total_eq_totalWhere, total_eq_totalWhere, totalWhere_add, if_pos rfl]

theorem totalWhere_foldl_add (p : κ → Bool) (es : List (κ × Nat)) (m : SortedMap κ Nat) :
    (es.foldl (fun m e => m.add e.1 e.2) m).totalWhere p = m.totalWhere p + sumWhere p es := by
  induction es generalizing m with
  | nil => rfl
  | cons e es ih =>
    rw [List.foldl_cons, ih, totalWhere_add, sumWhere_cons]
    omega

theorem sumWhere_eq_findEntry [DecidableEq κ] (k : κ) {es : List (κ × Nat)}
    (h : (es.map Prod.fst).Pairwise (· < ·)) :
    sumWhere (fun j => decide (j = k)) es = (findEntry k es).getD 0 := by
  induction es with
  | nil => rfl
  | cons e r ih =>
    obtain ⟨k', v⟩ := e
    rw [List.map_cons, List.pairwise_cons] at h
    have hrest := ih h.2
    -- a key that is not above the first one is at no later place
    have habsent : ¬ k' < k → sumWhere (fun j => decide (j = k)) r = 0 := by
      intro hk
      apply sumWhere_eq_zero
      intro e he
      have hlt : k' < e.1 := h.1 e.1 (List.mem_map_of_mem he)
      exact decide_eq_false fun heq => hk (heq ▸ hlt)
    rw [sumWhere_cons]
    rcases Std.lt_trichotomy k k' with hk | hk | hk
    · have hne : k' ≠ k := fun heq => Std.lt_irrefl (heq ▸ hk)
      simp [findEntry, hk, hne, habsent (not_lt_of_lt hk)]
    · subst hk
      simp [findEntry, Std.lt_irrefl, habsent]
    · have hne : k' ≠ k := fun heq => Std.lt_irrefl (heq ▸ hk)
      simp [findEntry, hk, not_lt_of_lt hk, hne, hrest]

theorem getD_eq_totalWhere [DecidableEq κ] (m : SortedMap κ Nat) (k : κ) :
    m.getD k 0 = m.totalWhere fun j => decide (j = k) :=
  (sumWhere_eq_findEntry k m.ascending).symm

theorem getD_le_total [DecidableEq κ] (m : SortedMap κ Nat) (k : κ) : m.getD k 0 ≤ m.total := by
  rw [getD_eq_totalWhere, total_eq_totalWhere]
  exact sumWhere_le (fun _ _ => rfl) m.entries

/-- An amount at a key is a part of the total. -/
theorem fits_of_total_le [DecidableEq κ] {m : SortedMap κ Nat} (h : m.total ≤ Text.maxU64) :
    m.Fits :=
  fun k => Nat.le_trans (m.getD_le_total k) h

end SortedMap

end GasLens
