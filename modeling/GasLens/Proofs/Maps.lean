/-
  GasLens/Proofs/Maps.lean
  ========================
  **Maps and their entries** — a map in key order holds what was put into it, and nothing tells
  two maps apart but what is found in them.

  Entries with different keys can be put into a map in any order (`ofList_eq_of_perm`): the map
  has just these entries (`entries_ofList_perm`), and the order of its keys is its own.
-/
import GasLens.Proofs.CheckedSums
import Mathlib.Data.List.Sort

namespace GasLens

namespace SortedMap

variable {κ ν : Type} [LT κ] [LE κ] [DecidableLT κ] [Std.LawfulOrderLT κ] [Std.IsLinearOrder κ]

/-! ### Keys -/

theorem mem_keys_updateEntry_iff {j k : κ} {f : Option ν → ν} {es : List (κ × ν)} :
    j ∈ (updateEntry k f es).map Prod.fst ↔ j = k ∨ j ∈ es.map Prod.fst := by
  refine ⟨mem_keys_updateEntry, ?_⟩
  induction es with
  | nil => simp [updateEntry]
  | cons e r ih =>
    obtain ⟨k', v⟩ := e
    unfold updateEntry
    split
    · simp
    split
    · intro h
      simp only [List.map_cons, List.mem_cons] at h ⊢
      rcases h with h | h | h
      · exact Or.inr (ih (Or.inl h))
      · exact Or.inl h
      · exact Or.inr (ih (Or.inr h))
    · rename_i hk hk'
      -- neither key is below the other, so the entry is changed in its place
      have hkey : k = k' := eq_of_not_lt hk hk'
      subst hkey
      simp

theorem mem_keys_add {m : SortedMap κ Nat} {j k : κ} {n : Nat} :
    j ∈ (m.add k n).keys ↔ j = k ∨ j ∈ m.keys :=
  mem_keys_updateEntry_iff

theorem mem_keys_foldl_add {es : List (κ × Nat)} {m : SortedMap κ Nat} {j : κ} :
    j ∈ (es.foldl (fun m e => m.add e.1 e.2) m).keys ↔ j ∈ es.map Prod.fst ∨ j ∈ m.keys := by
  induction es generalizing m with
  | nil => simp
  | cons e es ih =>
    rw [List.foldl_cons, ih, mem_keys_add, List.map_cons, List.mem_cons]
    tauto

omit [DecidableLT κ] [Std.IsLinearOrder κ] in
theorem nodup_keys (m : SortedMap κ ν) : m.keys.Nodup := by
  refine m.ascending.imp ?_
  rintro a _ hlt rfl
  exact Std.lt_irrefl hlt

/-! ### Lookups -/

theorem findEntry_eq_some_iff {k : κ} {v : ν} {es : List (κ × ν)}
    (h : (es.map Prod.fst).Pairwise (· < ·)) : findEntry k es = some v ↔ (k, v) ∈ es := by
  induction es with
  | nil => simp [findEntry]
  | cons e r ih =>
    obtain ⟨k', v'⟩ := e
    rw [List.map_cons, List.pairwise_cons] at h
    have habove : ∀ {w : ν}, (k, w) ∈ r → k' < k := fun hmem => h.1 k (List.mem_map_of_mem hmem)
    rw [List.mem_cons, Prod.mk.injEq]
    unfold findEntry
    split
    · rename_i hk
      -- all keys that follow are above this one
      have hne : k ≠ k' := fun heq => Std.lt_irrefl (heq ▸ hk)
      have habsent : (k, v) ∉ r := fun hmem => not_lt_of_lt hk (habove hmem)
      simp [hne, habsent]
    split
    · rename_i hk
      have hne : k ≠ k' := fun heq => Std.lt_irrefl (heq ▸ hk)
      simp only [hne, false_and, false_or]
      exact ih h.2
    · rename_i hk hk'
      have habsent : (k, v) ∉ r := fun hmem => hk' (habove hmem)
      have hkey : k = k' := eq_of_not_lt hk hk'
      simp only [hkey ▸ habsent, hkey, true_and, or_false, Option.some.injEq, eq_comm]

/-- A map has at most one entry of a key. -/
theorem filter_key_eq [BEq κ] [LawfulBEq κ] {k : κ} {es : List (κ × ν)}
    (h : (es.map Prod.fst).Pairwise (· < ·)) :
    (es.filter fun e => e.1 == k) = (findEntry k es).toList.map fun v => (k, v) := by
  induction es with
  | nil => rfl
  | cons e es ih =>
    obtain ⟨k', v⟩ := e
    rw [List.map_cons, List.pairwise_cons] at h
    have hrest : ¬ k' < k → (es.filter fun e => e.1 == k) = [] := by
      intro hk
      rw [List.filter_eq_nil_iff]
      intro e he heq
      exact hk (eq_of_beq heq ▸ h.1 e.1 (List.mem_map_of_mem he))
    unfold findEntry
    by_cases hkey : k' = k
    · subst hkey
      rw [List.filter_cons, if_pos (beq_self_eq_true k'), hrest Std.lt_irrefl,
        if_neg Std.lt_irrefl, if_neg Std.lt_irrefl]
      rfl
    · rw [List.filter_cons, if_neg (by simpa using hkey)]
      split
      · rename_i hk
        exact hrest (not_lt_of_lt hk)
      split
      · exact ih h.2
      · rename_i hk hk'
        exact absurd (eq_of_not_lt hk' hk) hkey

theorem isSome_findEntry_iff {k : κ} {es : List (κ × ν)}
    (h : (es.map Prod.fst).Pairwise (· < ·)) :
    (findEntry k es).isSome = true ↔ k ∈ es.map Prod.fst := by
  simp [Option.isSome_iff_exists, findEntry_eq_some_iff h]

theorem isSome_get?_iff {m : SortedMap κ ν} {k : κ} : (m.get? k).isSome = true ↔ k ∈ m.keys :=
  isSome_findEntry_iff m.ascending

theorem get?_eq_some_iff {m : SortedMap κ Nat} {k : κ} {n : Nat} :
    m.get? k = some n ↔ k ∈ m.keys ∧ n = m.getD k 0 := by
  rw [← isSome_get?_iff, getD]
  cases m.get? k with
  | none => simp
  | some n' => simp [eq_comm]

/-! ### What a map is -/

omit [DecidableLT κ] in
/-- There is no more to a map than its entries, whatever their order. -/
theorem ext_mem {a b : SortedMap κ ν} (h : ∀ e, e ∈ a.entries ↔ e ∈ b.entries) : a = b := by
  have hirrefl : Std.Irrefl fun e f : κ × ν => e.1 < f.1 := ⟨fun e => Std.lt_irrefl⟩
  have hantisymm : Std.Antisymm fun e f : κ × ν => e.1 < f.1 :=
    ⟨fun e f hlt hgt => absurd hgt (not_lt_of_lt hlt)⟩
  exact ext ((List.pairwise_map.1 a.ascending).eq_of_mem_iff (List.pairwise_map.1 b.ascending) h)

/-- There is no more to a map than what is found in it. -/
theorem ext_get? {a b : SortedMap κ ν} (h : ∀ k, a.get? k = b.get? k) : a = b := by
  apply ext_mem
  intro e
  have hfind : findEntry e.1 a.entries = findEntry e.1 b.entries := h e.1
  rw [← findEntry_eq_some_iff a.ascending, ← findEntry_eq_some_iff b.ascending, hfind]

/-- The keys of two maps with their values added up are those of a map that has both. -/
theorem get?_eq_merge {m a b : SortedMap κ Nat} {k : κ}
    (hkeys : k ∈ m.keys ↔ k ∈ a.keys ∨ k ∈ b.keys) (hvalue : m.getD k 0 = a.getD k 0 + b.getD k 0) :
    m.get? k = (a.get? k).merge (· + ·) (b.get? k) := by
  rw [← isSome_get?_iff, ← isSome_get?_iff, ← isSome_get?_iff] at hkeys
  simp only [getD] at hvalue
  -- a key stands on no side, on one of them or on both
  cases hm : m.get? k <;> cases ha : a.get? k <;> cases hb : b.get? k <;>
    simp [hm, ha, hb] at hkeys hvalue ⊢ <;> exact hvalue

/-! ### Maps of lists -/

theorem mem_updateEntry_const {k : κ} {v : ν} {e : κ × ν} {es : List (κ × ν)}
    (h : e ∈ updateEntry k (fun _ => v) es) : e = (k, v) ∨ e ∈ es := by
  induction es with
  | nil => exact Or.inl (List.mem_singleton.1 h)
  | cons d es ih =>
    rw [updateEntry] at h
    split at h
    · exact (List.mem_cons.1 h)
    · rename_i hlow
      split at h
      · rcases List.mem_cons.1 h with rfl | hmem
        · exact Or.inr List.mem_cons_self
        · rcases ih hmem with heq | hold
          · exact Or.inl heq
          · exact Or.inr (List.mem_cons_of_mem _ hold)
      · rename_i hhigh
        rcases List.mem_cons.1 h with rfl | hmem
        · exact Or.inl (Prod.ext (eq_of_not_lt hhigh hlow) rfl)
        · exact Or.inr (List.mem_cons_of_mem _ hmem)

theorem mem_of_mem_foldl_insert {e : κ × ν} {m : SortedMap κ ν} {es : List (κ × ν)}
    (h : e ∈ (es.foldl (fun m e => m.insert e.1 e.2) m).entries) : e ∈ m.entries ∨ e ∈ es := by
  induction es generalizing m with
  | nil => exact Or.inl h
  | cons d es ih =>
    rcases ih h with hmap | hrest
    · rcases mem_updateEntry_const hmap with heq | hold
      · exact Or.inr (heq ▸ List.mem_cons_self)
      · exact Or.inl hold
    · exact Or.inr (List.mem_cons_of_mem d hrest)

theorem mem_of_mem_ofList {e : κ × ν} {es : List (κ × ν)}
    (h : e ∈ (ofList es).entries) : e ∈ es := by
  rcases mem_of_mem_foldl_insert h with hnone | hmem
  · cases hnone
  · exact hmem

/-- A new key is put between the others. -/
theorem updateEntry_perm {k : κ} {f : Option ν → ν} {es : List (κ × ν)}
    (hnew : k ∉ es.map Prod.fst) : (updateEntry k f es).Perm ((k, f none) :: es) := by
  induction es with
  | nil => exact List.Perm.refl _
  | cons e es ih =>
    rw [List.map_cons, List.mem_cons, not_or] at hnew
    unfold updateEntry
    split
    · exact List.Perm.refl _
    · rename_i hk
      split
      · exact ((ih hnew.2).cons e).trans (List.Perm.swap _ _ _)
      · rename_i hk'
        exact absurd (eq_of_not_lt hk hk') hnew.1

/-- New keys are put into a map without touching what is there. -/
theorem entries_foldl_insert_perm (m : SortedMap κ ν) (es : List (κ × ν))
    (hnodup : ((es ++ m.entries).map Prod.fst).Nodup) :
    (es.foldl (fun m e => m.insert e.1 e.2) m).entries.Perm (es ++ m.entries) := by
  induction es generalizing m with
  | nil => exact List.Perm.refl _
  | cons e es ih =>
    rw [List.cons_append, List.map_cons, List.nodup_cons] at hnodup
    have hnew : e.1 ∉ m.entries.map Prod.fst := by
      intro hmem
      rw [List.map_append, List.mem_append] at hnodup
      exact hnodup.1 (Or.inr hmem)
    have hstep : (es ++ (m.insert e.1 e.2).entries).Perm (e :: (es ++ m.entries)) :=
      ((updateEntry_perm hnew).append_left es).trans List.perm_middle
    refine (ih (m.insert e.1 e.2) ?_).trans hstep
    rw [(hstep.map Prod.fst).nodup_iff, List.map_cons, List.nodup_cons]
    exact hnodup

section Distinct

variable {es es' : List (κ × ν)} (hnodup : (es.map Prod.fst).Nodup)

include hnodup

/-- Entries with different keys are all kept. -/
theorem entries_ofList_perm : (ofList es).entries.Perm es := by
  have hperm := entries_foldl_insert_perm .empty es (by simpa [empty] using hnodup)
  rwa [empty, List.append_nil] at hperm

theorem get?_ofList_eq_some_iff {k : κ} {v : ν} : (ofList es).get? k = some v ↔ (k, v) ∈ es := by
  rw [← (entries_ofList_perm hnodup).mem_iff]
  exact findEntry_eq_some_iff (ofList es).ascending

/-- Entries with different keys can be put into a map in any order. -/
theorem ofList_eq_of_perm (hperm : es.Perm es') : ofList es = ofList es' := by
  have hnodup' : (es'.map Prod.fst).Nodup := (hperm.map Prod.fst).nodup_iff.1 hnodup
  apply ext_mem
  intro e
  rw [(entries_ofList_perm hnodup).mem_iff, (entries_ofList_perm hnodup').mem_iff, hperm.mem_iff]

end Distinct

/-- A map is rebuilt from its entries. -/
theorem ofList_entries (m : SortedMap κ ν) : ofList m.entries = m :=
  ext_mem fun _ => (entries_ofList_perm m.nodup_keys).mem_iff

end SortedMap

end GasLens
