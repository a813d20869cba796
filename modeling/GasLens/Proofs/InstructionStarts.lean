/-
  GasLens/Proofs/InstructionStarts.lean
  =====================================
  **Where instructions begin** — the offsets at which a walk over the bytes of a code stops.

  `StartsAt` says of the bytes alone which instruction begins where: the first one at the first
  byte, and each next one behind the operand of the one before it. The decoder cuts the code into
  chunks and adds the places afterwards; `startsAt_iff` says that it finds these starts and no
  other ones. No byte of an operand is a start (`not_startsAt_operand`).
-/
import GasLens.Bytecode.Instruction

namespace GasLens.Bytecode

/-- The instruction with a number, from zero on, begins at an offset of the code. -/
inductive StartsAt (code : List UInt8) : Nat → Nat → Prop where
  | first : code ≠ [] → StartsAt code 0 0
  | next {i pc : Nat} {opcode : UInt8} : StartsAt code i pc → code[pc]? = some opcode →
      pc + 1 + operandLength opcode < code.length →
      StartsAt code (i + 1) (pc + 1 + operandLength opcode)

/-! ### Placed chunks -/

theorem Chunk.size_pos (c : Chunk) : 0 < c.size := by
  unfold size
  omega

theorem le_pc_of_mem_placed {pc index : Nat} {cs : List Chunk} {insn : Instruction}
    (h : insn ∈ placed pc index cs) : pc ≤ insn.pc := by
  induction cs generalizing pc index with
  | nil => cases h
  | cons c cs ih =>
    rcases List.mem_cons.1 h with rfl | hmem
    · exact Nat.le_refl pc
    · exact Nat.le_trans (Nat.le_add_right pc c.size) (ih hmem)

theorem pairwise_pc_placed (pc index : Nat) (cs : List Chunk) :
    ((placed pc index cs).map Instruction.pc).Pairwise (· < ·) := by
  induction cs generalizing pc index with
  | nil => exact List.Pairwise.nil
  | cons c cs ih =>
    refine List.Pairwise.cons ?_ (ih (pc + c.size) (index + 1))
    intro q hq
    obtain ⟨insn, hmem, rfl⟩ := List.mem_map.1 hq
    exact Nat.lt_of_lt_of_le (Nat.lt_add_of_pos_right c.size_pos) (le_pc_of_mem_placed hmem)

theorem index_of_getElem?_placed {pc index i : Nat} {cs : List Chunk} {insn : Instruction}
    (h : (placed pc index cs)[i]? = some insn) : insn.index = index + i := by
  induction cs generalizing pc index i with
  | nil => cases h
  | cons c cs ih =>
    cases i with
    | zero =>
      cases h
      rfl
    | succ i =>
      have htail : (placed (pc + c.size) (index + 1) cs)[i]? = some insn := h
      rw [ih htail]
      omega

/-- Chunks of the bytes from an offset on: the code there, with as much of its operand as the
code still has, and the chunks behind it. -/
theorem placed_chunks_drop {code : List UInt8} {pc i : Nat} {opcode : UInt8}
    (h : code[pc]? = some opcode) :
    ∃ size, placed pc i (chunks (code.drop pc)) =
        ⟨pc, opcode, i, size⟩ ::
          placed (pc + size) (i + 1) (chunks (code.drop (pc + 1 + operandLength opcode))) ∧
      size = min (1 + operandLength opcode) (code.length - pc) := by
  obtain ⟨hlt, hget⟩ := List.getElem?_eq_some_iff.1 h
  have hcode : code.drop pc = opcode :: code.drop (pc + 1) := by
    rw [List.drop_eq_getElem_cons hlt, hget]
  refine ⟨1 + ((code.drop (pc + 1)).take (operandLength opcode)).length, ?_, ?_⟩
  · rw [hcode, chunks_cons, List.drop_drop]
    rfl
  · rw [List.length_take, List.length_drop]
    omega

/-! ### The starts of a code -/

theorem StartsAt.lt_length {code : List UInt8} {i pc : Nat} (h : StartsAt code i pc) :
    pc < code.length := by
  cases h with
  | first hne => exact List.length_pos_iff.2 hne
  | next _ _ hlt => exact hlt

/-- Behind as many instructions as stand before a start, the decoder goes on at that start. -/
theorem StartsAt.drop_instructionsOf {code : List UInt8} {i pc : Nat} (h : StartsAt code i pc) :
    (instructionsOf code).drop i = placed pc i (chunks (code.drop pc)) := by
  induction h with
  | first _ => rfl
  | @next i pc opcode _ hget hlt ih =>
    obtain ⟨size, hplaced, hsize⟩ := placed_chunks_drop (i := i) hget
    -- the operand is whole, because another instruction follows it
    have hwhole : size = 1 + operandLength opcode := by omega
    rw [← List.drop_drop, ih, hplaced, hwhole, Nat.add_assoc]
    rfl

theorem StartsAt.exists_opcode {code : List UInt8} {i pc : Nat} (h : StartsAt code i pc) :
    ∃ opcode, code[pc]? = some opcode :=
  ⟨code.get ⟨pc, h.lt_length⟩, List.getElem?_eq_getElem h.lt_length⟩

/-- At every start stands an instruction with the number of that start. -/
theorem StartsAt.getElem?_instructionsOf {code : List UInt8} {i pc : Nat}
    (h : StartsAt code i pc) :
    ∃ insn, (instructionsOf code)[i]? = some insn ∧ insn.pc = pc ∧ insn.index = i := by
  obtain ⟨opcode, hget⟩ := h.exists_opcode
  obtain ⟨size, hplaced, _⟩ := placed_chunks_drop (i := i) hget
  have hhead : (instructionsOf code)[i]? = ((instructionsOf code).drop i)[0]? := by
    rw [List.getElem?_drop, Nat.add_zero]
  refine ⟨⟨pc, opcode, i, size⟩, ?_, rfl, rfl⟩
  rw [hhead, h.drop_instructionsOf, hplaced]
  rfl

/-- Every instruction that is decoded stands at a start. -/
theorem startsAt_of_getElem? {code : List UInt8} {i : Nat} {insn : Instruction}
    (h : (instructionsOf code)[i]? = some insn) : StartsAt code i insn.pc := by
  induction i generalizing insn with
  | zero =>
    cases code with
    | nil =>
      rw [instructionsOf, chunks_nil] at h
      cases h
    | cons opcode r =>
      rw [instructionsOf, chunks_cons] at h
      cases h
      exact .first (List.cons_ne_nil opcode r)
  | succ i ih =>
    obtain ⟨hlt, _⟩ := List.getElem?_eq_some_iff.1 h
    have hbefore := ih (List.getElem?_eq_getElem (Nat.lt_of_succ_lt hlt))
    obtain ⟨opcode, hget⟩ := hbefore.exists_opcode
    obtain ⟨size, hplaced, hsize⟩ := placed_chunks_drop (i := i) hget
    have hstart := hbefore.lt_length
    generalize (instructionsOf code)[i].pc = pc at *
    have hnext : (placed (pc + size) (i + 1)
        (chunks (code.drop (pc + 1 + operandLength opcode))))[0]? = some insn := by
      have hdrop : ((instructionsOf code).drop i)[1]? = some insn := by
        rw [List.getElem?_drop, h]
      rw [hbefore.drop_instructionsOf, hplaced] at hdrop
      exact hdrop
    -- the decoder goes on only where bytes are left
    cases hrest : code.drop (pc + 1 + operandLength opcode) with
    | nil =>
      rw [hrest, chunks_nil] at hnext
      cases hnext
    | cons b r =>
      have hleft : pc + 1 + operandLength opcode < code.length := by
        have hlen := congrArg List.length hrest
        rw [List.length_drop, List.length_cons] at hlen
        omega
      rw [hrest, chunks_cons] at hnext
      cases hnext
      have hpc : pc + size = pc + 1 + operandLength opcode := by omega
      rw [hpc]
      exact .next hbefore hget hleft

/-- The decoder finds the starts of the code and no other ones. -/
theorem startsAt_iff {code : List UInt8} {i pc : Nat} :
    StartsAt code i pc ↔ ∃ insn, (instructionsOf code)[i]? = some insn ∧ insn.pc = pc := by
  constructor
  · intro h
    obtain ⟨insn, hget, hpc, _⟩ := h.getElem?_instructionsOf
    exact ⟨insn, hget, hpc⟩
  · rintro ⟨insn, hget, rfl⟩
    exact startsAt_of_getElem? hget

theorem exists_startsAt_iff {code : List UInt8} {i : Nat} :
    (∃ pc, StartsAt code i pc) ↔ i < (instructionsOf code).length := by
  constructor
  · rintro ⟨pc, h⟩
    obtain ⟨insn, hget, _⟩ := h.getElem?_instructionsOf
    exact (List.getElem?_eq_some_iff.1 hget).1
  · intro hlt
    exact ⟨_, startsAt_of_getElem? (List.getElem?_eq_getElem hlt)⟩

/-! ### No two starts are confused -/

theorem StartsAt.pc_unique {code : List UInt8} {i pc pc' : Nat} (h : StartsAt code i pc)
    (h' : StartsAt code i pc') : pc = pc' := by
  obtain ⟨insn, hget, rfl, _⟩ := h.getElem?_instructionsOf
  obtain ⟨insn', hget', rfl, _⟩ := h'.getElem?_instructionsOf
  rw [hget] at hget'
  cases hget'
  rfl

theorem StartsAt.pc_lt {code : List UInt8} {i j pc pc' : Nat} (h : StartsAt code i pc)
    (h' : StartsAt code j pc') (hij : i < j) : pc < pc' := by
  obtain ⟨insn, hget, rfl, _⟩ := h.getElem?_instructionsOf
  obtain ⟨insn', hget', rfl, _⟩ := h'.getElem?_instructionsOf
  obtain ⟨hi, rfl⟩ := List.getElem?_eq_some_iff.1 hget
  obtain ⟨hj, rfl⟩ := List.getElem?_eq_some_iff.1 hget'
  have hsorted := List.pairwise_map.1 (pairwise_pc_placed 0 0 (chunks code))
  exact List.pairwise_iff_getElem.1 hsorted i j hi hj hij

/-- No instruction begins inside the operand of another one. -/
theorem StartsAt.not_startsAt_operand {code : List UInt8} {i pc q : Nat} {opcode : UInt8}
    (h : StartsAt code i pc) (hget : code[pc]? = some opcode) (hlow : pc < q)
    (hhigh : q ≤ pc + operandLength opcode) (j : Nat) : ¬ StartsAt code j q := by
  intro hq
  have hij : i < j := by
    rcases Nat.lt_trichotomy i j with hlt | heq | hgt
    · exact hlt
    · subst heq
      exact absurd (h.pc_unique hq) (Nat.ne_of_lt hlow)
    · exact absurd (hq.pc_lt h hgt) (Nat.lt_asymm hlow)
  -- the instruction behind this one exists, because the one inside it would come later still
  obtain ⟨pc', hnext⟩ := exists_startsAt_iff.2
    (Nat.lt_of_le_of_lt hij (exists_startsAt_iff.1 ⟨q, hq⟩))
  have hle : pc' ≤ q := by
    rcases Nat.lt_or_eq_of_le hij with hlt | heq
    · exact Nat.le_of_lt (hnext.pc_lt hq hlt)
    · subst heq
      exact Nat.le_of_eq (hnext.pc_unique hq)
  cases hnext with
  | next hbefore hget' _ =>
    obtain rfl := h.pc_unique hbefore
    rw [hget] at hget'
    cases hget'
    omega

end GasLens.Bytecode
