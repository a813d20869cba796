/-
  GasLens/Proofs/OpcodeNames.lean
  ===============================
  **What a name tells of a code** — everything, unless it is the name that all codes without an
  assigned instruction share.

  No name is given to two codes, and none of them is the shared one (`nodup_names`). So two codes
  have one name only if they are the same or both unassigned (`mnemonic_eq_iff`). The pushes are
  assigned, hence a code with the shared name has no operand.
-/
import GasLens.Bytecode.Opcode
import GasLens.Proofs.Numerals
import Mathlib.Data.List.Nodup

namespace GasLens.Bytecode

open GasLens.Text

/-- The names of the assigned codes, each with its code. -/
def assigned : List (String × Nat) := families.flatMap fun family => family.2.zipIdx family.1

section Names

variable {name : String} {code : Nat} {x y : UInt8}

theorem mem_assigned_iff :
    (name, code) ∈ assigned ↔ ∃ family ∈ families, nameIn code family = some name := by
  simp only [assigned, List.mem_flatMap, List.mk_mem_zipIdx_iff_le_and_getElem?_sub, nameIn,
    Option.ite_none_right_eq_some]

theorem nodup_names : (unknownName :: assigned.map Prod.fst).Nodup := by
  -- texts are compared as numbers, which is much less to compute
  have hnumbers : ((unknownName :: assigned.map Prod.fst).map fun name =>
      valueAfter 256 0 (name.toList.map Char.toNat)).Nodup := by
    decide +kernel
  exact hnumbers.of_map

theorem ne_unknownName_of_mem (h : (name, code) ∈ assigned) : name ≠ unknownName := by
  rintro rfl
  exact (List.nodup_cons.1 nodup_names).1 (List.mem_map_of_mem h)

/-- A code is assigned under its name, or has the shared one. -/
theorem mnemonic_cases (x : UInt8) :
    (mnemonic x, x.toNat) ∈ assigned ∨
      mnemonic x = unknownName ∧ ∀ family ∈ families, nameIn x.toNat family = none := by
  unfold mnemonic
  cases hname : families.findSome? (nameIn x.toNat) with
  | none => exact Or.inr ⟨rfl, List.findSome?_eq_none_iff.1 hname⟩
  | some name => exact Or.inl (mem_assigned_iff.2 (List.exists_of_findSome?_eq_some hname))

theorem mnemonic_eq_iff :
    mnemonic x = mnemonic y ↔ x = y ∨ mnemonic x = unknownName ∧ mnemonic y = unknownName := by
  constructor
  · intro h
    rcases mnemonic_cases x with hx | ⟨hx, _⟩
    · rcases mnemonic_cases y with hy | ⟨hy, _⟩
      · have hpair := List.inj_on_of_nodup_map (List.nodup_cons.1 nodup_names).2 hx hy h
        exact Or.inl (UInt8.toNat_inj.1 (Prod.mk.inj hpair).2)
      · exact absurd (h.trans hy) (ne_unknownName_of_mem hx)
    · exact Or.inr ⟨hx, h.symm.trans hx⟩
  · rintro (rfl | ⟨hx, hy⟩)
    · rfl
    · exact hx.trans hy.symm

/-- A code without an assigned instruction is no push. -/
theorem operandLength_of_unknown (h : mnemonic x = unknownName) : operandLength x = 0 := by
  have hnone : ∀ family ∈ families, nameIn x.toNat family = none := by
    rcases mnemonic_cases x with hx | ⟨_, hnone⟩
    · exact absurd h (ne_unknownName_of_mem hx)
    · exact hnone
  have hpushes := hnone (0x60, numbered "PUSH" 1 32) (by simp [families])
  cases hpush : isPush x with
  | false =>
    rw [operandLength, hpush]
    rfl
  | true =>
    simp only [isPush, Bool.and_eq_true, decide_eq_true_eq] at hpush
    have hbase : pushBase = 0x5f := rfl
    have hfirst : 0x60 ≤ x.toNat := by omega
    simp only [nameIn, numbered, if_pos hfirst] at hpushes
    have hlength := List.getElem?_eq_none_iff.1 hpushes
    rw [List.length_map, List.length_range] at hlength
    omega

theorem le_of_mem_mnemonic {c : Char} (h : c ∈ (mnemonic x).toList) : '0' ≤ c := by
  have hall : (assigned.all fun entry => entry.1.toList.all fun c => decide ('0' ≤ c)) = true := by
    decide +kernel
  have hunknown : (unknownName.toList.all fun c => decide ('0' ≤ c)) = true := by decide
  rcases mnemonic_cases x with hx | ⟨hx, _⟩
  · exact of_decide_eq_true (List.all_eq_true.1 (List.all_eq_true.1 hall _ hx) c h)
  · rw [hx] at h
    exact of_decide_eq_true (List.all_eq_true.1 hunknown c h)

end Names

end GasLens.Bytecode
