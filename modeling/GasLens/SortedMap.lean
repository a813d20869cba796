/-
  GasLens/SortedMap.lean
  ======================
  **Maps in key order** — finite maps whose entries are kept in strictly ascending order of their
  keys, so that a map has one form and is listed in one order.

  Every change goes through `SortedMap.update`, which makes one pass over the entries. What it
  does to the view `SortedMap.get?` is said by `get?_update`.
-/
import GasLens.Checked

namespace GasLens

section Entries

variable {κ ν : Type} [LT κ] [DecidableLT κ]

/-- The value at a key computed from the one that was there, in a list in key order. -/
def updateEntry (k : κ) (f : Option ν → ν) : List (κ × ν) → List (κ × ν)
  | [] => [(k, f none)]
  | (k', v) :: r =>
    if k < k' then (k, f none) :: (k', v) :: r
    else if k' < k then (k', v) :: updateEntry k f r
    else (k', f (some v)) :: r

/-- The first value whose key is neither below nor above the given one. -/
def findEntry (k : κ) : List (κ × ν) → Option ν
  | [] => none
  | (k', v) :: r => if k < k' then none else if k' < k then findEntry k r else some v

theorem mem_keys_updateEntry {k j : κ} {f : Option ν → ν} {es : List (κ × ν)}
    (h : j ∈ (updateEntry k f es).map Prod.fst) : j = k ∨ j ∈ es.map Prod.fst := by
  induction es with
  | nil => simpa [updateEntry] using h
  | cons e r ih =>
    obtain ⟨k', v⟩ := e
    unfold updateEntry at h
    split at h
    · simpa using h
    · split at h
      · simp only [List.map_cons, List.mem_cons] at h ⊢
        rcases h with h | h
        · exact Or.inr (Or.inl h)
        · rcases ih h with h | h
          · exact Or.inl h
          · exact Or.inr (Or.inr h)
      · exact Or.inr (by simpa using h)

end Entries

section Order

variable {κ : Type} [LT κ] [LE κ] [Std.IsLinearOrder κ] [Std.LawfulOrderLT κ]

/-- Two keys neither of which is below the other are equal. -/
theorem eq_of_not_lt {a b : κ} (h : ¬ a < b) (h' : ¬ b < a) : a = b := by
  rcases Std.lt_trichotomy a b with h1 | h1 | h1
  · exact absurd h1 h
  · exact h1
  · exact absurd h1 h'

/-- A key above another is not below it. -/
theorem not_lt_of_lt {a b : κ} (h : b < a) : ¬ a < b :=
  fun h' => Std.lt_irrefl (Std.lt_trans h h')

end Order

/-- Entries in strictly ascending order of their keys. -/
structure SortedMap (κ ν : Type) [LT κ] where
  entries : List (κ × ν)
  ascending : (entries.map Prod.fst).Pairwise (· < ·)

namespace SortedMap

variable {κ ν : Type} [LT κ]

instance [DecidableEq κ] [DecidableEq ν] : DecidableEq (SortedMap κ ν) := fun a b =>
  match a, b with
  | ⟨xs, _⟩, ⟨ys, _⟩ =>
    if h : xs = ys then .isTrue (by subst h; rfl)
    else .isFalse (fun e => h (by injection e))

def empty : SortedMap κ ν := ⟨[], by simp⟩

instance : Inhabited (SortedMap κ ν) := ⟨empty⟩

/-- The keys, in ascending order. -/
def keys (m : SortedMap κ ν) : List κ := m.entries.map Prod.fst

/-- The values, in the order of their keys. -/
def values (m : SortedMap κ ν) : List ν := m.entries.map Prod.snd

def size (m : SortedMap κ ν) : Nat := m.entries.length

@[ext] theorem ext {a b : SortedMap κ ν} (h : a.entries = b.entries) : a = b := by
  cases a; cases b; simp_all

variable [DecidableLT κ]

def get? (m : SortedMap κ ν) (k : κ) : Option ν := findEntry k m.entries

/-- The value at a key, or a default. -/
def getD (m : SortedMap κ ν) (k : κ) (v : ν) : ν := (m.get? k).getD v

variable [LE κ] [Std.LawfulOrderLT κ]

theorem findEntry_updateEntry_self (k : κ) (f : Option ν → ν) (es : List (κ × ν)) :
    findEntry k (updateEntry k f es) = some (f (findEntry k es)) := by
  induction es with
  | nil => simp [updateEntry, findEntry, Std.lt_irrefl]
  | cons e r ih =>
    obtain ⟨k', v⟩ := e
    unfold updateEntry
    split
    · rename_i h; simp [findEntry, Std.lt_irrefl, h]
    · rename_i h
      split
      · rename_i h'; simp [findEntry, h, h', ih]
      · rename_i h'; simp [findEntry, h, h']

variable [Std.IsLinearOrder κ]

theorem ascending_updateEntry {k : κ} {f : Option ν → ν} {es : List (κ × ν)}
    (h : (es.map Prod.fst).Pairwise (· < ·)) :
    ((updateEntry k f es).map Prod.fst).Pairwise (· < ·) := by
  induction es with
  | nil => simp [updateEntry]
  | cons e r ih =>
    obtain ⟨k', v⟩ := e
    rw [List.map_cons, List.pairwise_cons] at h
    unfold updateEntry
    split
    · rename_i hk
      simp only [List.map_cons, List.pairwise_cons]
      refine ⟨?_, h⟩
      intro j hj
      rcases List.mem_cons.1 hj with rfl | hj
      · exact hk
      · exact Std.lt_trans hk (h.1 j hj)
    · split
      · rename_i hk
        simp only [List.map_cons, List.pairwise_cons]
        refine ⟨?_, ih h.2⟩
        intro j hj
        rcases mem_keys_updateEntry hj with rfl | hj
        · exact hk
        · exact h.1 j hj
      · simpa using h

/-- The value at a key computed from the one that was there. -/
def update (m : SortedMap κ ν) (k : κ) (f : Option ν → ν) : SortedMap κ ν :=
  ⟨updateEntry k f m.entries, ascending_updateEntry m.ascending⟩

/-- A value put at a key, in place of the one that was there. -/
def insert (m : SortedMap κ ν) (k : κ) (v : ν) : SortedMap κ ν := m.update k fun _ => v

/-- The entries of a list; the last one of a key counts. -/
def ofList (es : List (κ × ν)) : SortedMap κ ν :=
  es.foldl (fun m e => m.insert e.1 e.2) empty

/-- One more at a key, where a missing number counts as zero. -/
def count (m : SortedMap κ Nat) (k : κ) : SortedMap κ Nat := m.update k fun old => old.getD 0 + 1

/-- An amount of gas added to the one at a key, where a missing one counts as zero. -/
def charge (m : SortedMap κ Nat) (k : κ) (n : Nat) : Checked (SortedMap κ Nat) :=
  (Checked.add (m.getD k 0) n).map fun sum => m.insert k sum

def sum (m : SortedMap κ Nat) : Checked Nat := Checked.sum m.values

theorem findEntry_updateEntry_of_ne {j k : κ} (h : j ≠ k) (f : Option ν → ν)
    {es : List (κ × ν)} (hs : (es.map Prod.fst).Pairwise (· < ·)) :
    findEntry j (updateEntry k f es) = findEntry j es := by
  induction es with
  | nil =>
    rcases Std.lt_trichotomy j k with h1 | h1 | h1
    · simp [updateEntry, findEntry, h1]
    · exact absurd h1 h
    · simp [updateEntry, findEntry, h1]
  | cons e r ih =>
    obtain ⟨k', v⟩ := e
    rw [List.map_cons, List.pairwise_cons] at hs
    unfold updateEntry
    split
    · rename_i hk
      rcases Std.lt_trichotomy j k with h1 | h1 | h1
      · simp [findEntry, h1, Std.lt_trans h1 hk]
      · exact absurd h1 h
      · simp [findEntry, h1, not_lt_of_lt h1]
    · split
      · simp only [findEntry]
        rw [ih hs.2]
      · rename_i h1 h2
        have := eq_of_not_lt h1 h2
        subst this
        rcases Std.lt_trichotomy j k with h3 | h3 | h3
        · simp [findEntry, h3]
        · exact absurd h3 h
        · simp [findEntry, h3, not_lt_of_lt h3]

/-- An update changes the value at its own key and no other. -/
theorem get?_update [DecidableEq κ] (m : SortedMap κ ν) (j k : κ) (f : Option ν → ν) :
    (m.update k f).get? j = if j = k then some (f (m.get? k)) else m.get? j := by
  by_cases h : j = k
  · subst h; simp [get?, update, findEntry_updateEntry_self]
  · simp [get?, update, h, findEntry_updateEntry_of_ne h f m.ascending]

end SortedMap

end GasLens
