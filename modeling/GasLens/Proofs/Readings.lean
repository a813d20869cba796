/-
  GasLens/Proofs/Readings.lean
  ============================
  **Readings in steps** — what the outcome of a reading says of the readings it is made of.

  A reading that succeeds has succeeded at each of its steps. One that fails has failed at one
  step, and all steps before that one have succeeded. A list is read item by item.
-/
import Mathlib.Data.List.Basic

namespace GasLens

section Steps

variable {ε ε' α β : Type} {x : Except ε α}

theorem bind_eq_ok_iff {f : α → Except ε β} {b : β} :
    (x >>= f) = .ok b ↔ ∃ a, x = .ok a ∧ f a = .ok b := by
  cases x with
  | error fault =>
    constructor
    · intro h
      cases h
    · rintro ⟨a, ha, _⟩
      cases ha
  | ok a =>
    constructor
    · intro h
      exact ⟨a, rfl, h⟩
    · rintro ⟨a', ha, h⟩
      cases ha
      exact h

theorem bind_eq_error_iff {f : α → Except ε β} {e : ε} :
    (x >>= f) = .error e ↔ x = .error e ∨ ∃ a, x = .ok a ∧ f a = .error e := by
  cases x with
  | error fault =>
    constructor
    · intro h
      cases h
      exact Or.inl rfl
    · rintro (h | ⟨a, ha, _⟩)
      · cases h
        rfl
      · cases ha
  | ok a =>
    constructor
    · intro h
      exact Or.inr ⟨a, rfl, h⟩
    · rintro (h | ⟨a', ha, h⟩)
      · cases h
      · cases ha
        exact h

theorem map_eq_ok_iff {f : α → β} {b : β} : x.map f = .ok b ↔ ∃ a, x = .ok a ∧ f a = b := by
  cases x <;> simp [Except.map]

theorem map_eq_error_iff {f : α → β} {e : ε} : x.map f = .error e ↔ x = .error e := by
  cases x <;> simp [Except.map]

/-- Faults of another kind leave what is read as it is. -/
theorem mapError_eq_ok_iff {f : ε → ε'} {a : α} : x.mapError f = .ok a ↔ x = .ok a := by
  cases x with
  | error fault => exact ⟨nofun, nofun⟩
  | ok b =>
    constructor <;> intro h <;> cases h <;> rfl

theorem mapError_eq_error_iff {f : ε → ε'} (hf : Function.Injective f) {e : ε} :
    x.mapError f = .error (f e) ↔ x = .error e := by
  cases x with
  | error fault =>
    constructor
    · intro h
      rw [hf (Except.error.inj h)]
    · rintro ⟨⟩
      rfl
  | ok a => exact ⟨nofun, nofun⟩

end Steps

/-! ### Items -/

section Items

variable {α β : Type} {read : β → Option α}

theorem mapM_map_of_forall {write : α → β} {as : List α}
    (h : ∀ a ∈ as, read (write a) = some a) : (as.map write).mapM read = some as := by
  induction as with
  | nil => rfl
  | cons a as ih =>
    have hrest := ih fun b hb => h b (List.mem_cons_of_mem a hb)
    rw [List.map_cons, List.mapM_cons, h a List.mem_cons_self, hrest]
    rfl

theorem exists_of_mem_mapM {bs : List β} {as : List α} (h : bs.mapM read = some as) {a : α}
    (ha : a ∈ as) : ∃ b ∈ bs, read b = some a := by
  induction bs generalizing as with
  | nil =>
    cases h
    cases ha
  | cons b bs ih =>
    rw [List.mapM_cons] at h
    obtain ⟨first, hfirst, h⟩ := Option.bind_eq_some_iff.1 h
    obtain ⟨rest, hrest, h⟩ := Option.bind_eq_some_iff.1 h
    cases h
    rcases List.mem_cons.1 ha with rfl | hmem
    · exact ⟨b, List.mem_cons_self, hfirst⟩
    · obtain ⟨c, hc, hread⟩ := ih hrest hmem
      exact ⟨c, List.mem_cons_of_mem b hc, hread⟩

theorem bind_eq_none_iff_or {x : Option α} {f : α → Option β} {p : Prop}
    (h : ∀ a, f a = none ↔ p) : (x >>= f) = none ↔ x = none ∨ p := by
  cases x with
  | none => exact iff_of_true rfl (Or.inl rfl)
  | some a => simpa using h a

theorem mapM_eq_none_iff {bs : List β} :
    bs.mapM read = none ↔ ∃ b ∈ bs, read b = none := by
  induction bs with
  | nil => simp
  | cons b bs ih =>
    rw [List.mapM_cons, List.exists_mem_cons_iff, ← ih]
    cases read b with
    | none => simp
    | some a => cases bs.mapM read <;> simp

end Items

end GasLens
