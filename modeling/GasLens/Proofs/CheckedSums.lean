/-
  GasLens/Proofs/CheckedSums.lean
  ===============================
  **Checked sums and whole ones** — a checked computation gives what it would give without any
  bound, or it stops.

  `SortedMap.add` and `SortedMap.total` add whole numbers and know no bound. One charge is one
  addition whose sum fits a word (`charge_eq_some_iff`). In a run of charges amounts only grow, so
  the run stops exactly if an amount at its end does not fit (`foldlM_charge_eq_some_iff`): no sum
  on the way has to be looked at, and neither has the order.
-/
import GasLens.SortedMap

namespace GasLens

open GasLens.Text

namespace Checked

theorem word_eq_some_iff {n m : Nat} : word n = some m ↔ n ≤ maxU64 ∧ m = n := by
  rw [word, Option.ite_none_right_eq_some, Option.some.injEq, eq_comm (a := n)]

theorem word_eq_none_iff {n : Nat} : word n = none ↔ maxU64 < n := by
  simp [word]

theorem add_eq_some_iff {a b c : Nat} : add a b = some c ↔ a + b ≤ maxU64 ∧ c = a + b :=
  word_eq_some_iff

theorem foldlM_add (ns : List Nat) {a : Nat} (h : a ≤ maxU64) :
    ns.foldlM add a = word (a + ns.sum) := by
  induction ns generalizing a with
  | nil => exact (word_eq_some_iff.2 ⟨h, rfl⟩).symm
  | cons n ns ih =>
    rw [List.foldlM_cons, List.sum_cons, ← Nat.add_assoc]
    cases hadd : add a n with
    | none =>
      have hover : maxU64 < a + n := word_eq_none_iff.1 hadd
      exact (word_eq_none_iff.2 (Nat.lt_of_lt_of_le hover (Nat.le_add_right _ _))).symm
    | some b =>
      obtain ⟨hfits, rfl⟩ := add_eq_some_iff.1 hadd
      exact ih hfits

/-- No sum on the way is above the last one. -/
theorem sum_eq_word (ns : List Nat) : sum ns = word ns.sum := by
  rw [sum, foldlM_add ns (Nat.zero_le _), Nat.zero_add]

end Checked

namespace SortedMap

variable {κ : Type} [LT κ]

def total (m : SortedMap κ Nat) : Nat := m.values.sum

theorem sum_eq_word (m : SortedMap κ Nat) : m.sum = Checked.word m.total := Checked.sum_eq_word _

variable [DecidableLT κ]

/-- Amounts of gas that are held in words. -/
def Fits (m : SortedMap κ Nat) : Prop := ∀ k, m.getD k 0 ≤ maxU64

theorem fits_empty : (empty : SortedMap κ Nat).Fits := fun _ => Nat.zero_le _

variable [LE κ] [Std.LawfulOrderLT κ] [Std.IsLinearOrder κ]

/-- An amount added to the one at a key, where a missing one counts as zero. -/
def add (m : SortedMap κ Nat) (k : κ) (n : Nat) : SortedMap κ Nat :=
  m.update k fun old => old.getD 0 + n

theorem count_eq_add (m : SortedMap κ Nat) (k : κ) : m.count k = m.add k 1 := rfl

/-- An update sees nothing of a map but the value at its key. -/
theorem update_eq_insert (m : SortedMap κ ν) (k : κ) (f : Option ν → ν) :
    m.update k f = m.insert k (f (m.get? k)) := by
  have hentries : ∀ es : List (κ × ν),
      updateEntry k f es = updateEntry k (fun _ => f (findEntry k es)) es := by
    intro es
    induction es with
    | nil => rfl
    | cons e r ih =>
      obtain ⟨k', v⟩ := e
      simp only [updateEntry, findEntry]
      split
      · rfl
      split
      · rw [ih]
      · rfl
  exact SortedMap.ext (hentries m.entries)

theorem charge_eq_some_iff {m m' : SortedMap κ Nat} {k : κ} {n : Nat} :
    m.charge k n = some m' ↔ m.getD k 0 + n ≤ maxU64 ∧ m' = m.add k n := by
  rw [charge, Option.map_eq_some_iff, add, update_eq_insert]
  constructor
  · rintro ⟨sum, hsum, rfl⟩
    obtain ⟨hfits, rfl⟩ := Checked.add_eq_some_iff.1 hsum
    exact ⟨hfits, rfl⟩
  · rintro ⟨hfits, rfl⟩
    exact ⟨_, Checked.add_eq_some_iff.2 ⟨hfits, rfl⟩, rfl⟩

variable [DecidableEq κ]

/-- An amount is added at its own key and nowhere else. -/
theorem getD_add (m : SortedMap κ Nat) (j k : κ) (n : Nat) :
    (m.add k n).getD j 0 = m.getD j 0 + if j = k then n else 0 := by
  by_cases h : j = k
  · subst h; simp [getD, add, get?_update]
  · simp [getD, add, get?_update, h]

theorem getD_le_foldl_add (es : List (κ × Nat)) (m : SortedMap κ Nat) (k : κ) :
    m.getD k 0 ≤ (es.foldl (fun m e => m.add e.1 e.2) m).getD k 0 := by
  induction es generalizing m with
  | nil => exact Nat.le_refl _
  | cons e es ih =>
    have hhead : m.getD k 0 ≤ (m.add e.1 e.2).getD k 0 := by
      rw [getD_add]
      exact Nat.le_add_right _ _
    exact Nat.le_trans hhead (ih _)

theorem fits_add_iff {m : SortedMap κ Nat} (h : m.Fits) (k : κ) (n : Nat) :
    (m.add k n).Fits ↔ m.getD k 0 + n ≤ maxU64 := by
  constructor
  · intro hfits
    have hkey := hfits k
    rwa [getD_add, if_pos rfl] at hkey
  · intro hfits j
    rw [getD_add]
    split
    · rename_i hj
      rwa [hj]
    · exact h j

/-- Charges in a row go through exactly if every amount at the end fits, since amounts only grow. -/
theorem foldlM_charge_eq_some_iff {es : List (κ × Nat)} {m m' : SortedMap κ Nat} (h : m.Fits) :
    es.foldlM (fun m e => m.charge e.1 e.2) m = some m' ↔
      m'.Fits ∧ m' = es.foldl (fun m e => m.add e.1 e.2) m := by
  induction es generalizing m with
  | nil =>
    simp only [List.foldlM_nil, List.foldl_nil, Option.pure_def, Option.some.injEq]
    constructor
    · rintro rfl
      exact ⟨h, rfl⟩
    · exact fun h' => h'.2.symm
  | cons e es ih =>
    rw [List.foldlM_cons, List.foldl_cons, Option.bind_eq_bind, Option.bind_eq_some_iff]
    constructor
    · rintro ⟨m₁, hcharge, hrest⟩
      obtain ⟨hkey, rfl⟩ := charge_eq_some_iff.1 hcharge
      exact (ih ((fits_add_iff h e.1 e.2).2 hkey)).1 hrest
    · rintro ⟨hfits, heq⟩
      -- what fits at the end has fitted before
      have hstep : (m.add e.1 e.2).Fits := by
        intro k
        refine Nat.le_trans (getD_le_foldl_add es _ k) ?_
        rw [← heq]
        exact hfits k
      exact ⟨_, charge_eq_some_iff.2 ⟨(fits_add_iff h e.1 e.2).1 hstep, rfl⟩,
        (ih hstep).2 ⟨hfits, heq⟩⟩

end SortedMap

end GasLens
