/-
  GasLens/Proofs/InstructionPartition.lean
  ========================================
  **Instructions partition the code** — and the decoder finds the only list that does.

  A list of instructions partitions a code (`Partitions`) if it begins at the first byte, each
  instruction follows the one before it, all but the last have their whole operand, and the last
  ends with the code. What stands at a number of such a list is determined by the code alone
  (`IsAt`), so there is no second one. The bytes of operands are not looked at: only those at the
  starts say what the instructions are.
-/
import Mathlib.Logic.ExistsUnique
import GasLens.Proofs.InstructionStarts

namespace GasLens.Bytecode

/-- A list of instructions that covers a code from its first byte to its last. -/
structure Partitions (code : List UInt8) (insns : List Instruction) : Prop where
  first : ∃ a : Instruction, insns[0]? = some a ∧ a.pc = 0
  index : ∀ (i : Nat) (a : Instruction), insns[i]? = some a → a.index = i
  opcode : ∀ a ∈ insns, code[a.pc]? = some a.opcode
  next : ∀ (i : Nat) (a b : Instruction),
    insns[i]? = some a → insns[i + 1]? = some b → b.pc = a.nextPc
  whole : ∀ (i : Nat) (a b : Instruction),
    insns[i]? = some a → insns[i + 1]? = some b → a.size = 1 + a.immediateLength
  last : ∀ a : Instruction, insns.getLast? = some a →
    a.size = min (1 + a.immediateLength) (code.length - a.pc) ∧ a.nextPc = code.length

/-- The instruction with a number, according to the code. -/
structure IsAt (code : List UInt8) (i : Nat) (a : Instruction) : Prop where
  starts : StartsAt code i a.pc
  opcode : code[a.pc]? = some a.opcode
  index : a.index = i
  size : a.size = min (1 + a.immediateLength) (code.length - a.pc)

/-- Whether a byte belongs to the operand of an instruction. -/
def Instruction.HoldsInOperand (a : Instruction) (q : Nat) : Prop :=
  a.isPush = true ∧ a.pc < q ∧ q < a.nextPc

section Partition

variable {code : List UInt8} {insns other : List Instruction} {i j q : Nat} {a b : Instruction}

/-! ### The instruction with a number -/

theorem IsAt.eq (ha : IsAt code i a) (hb : IsAt code i b) : a = b := by
  have hpc : a.pc = b.pc := ha.starts.pc_unique hb.starts
  have hopcode : a.opcode = b.opcode := by
    have hsame := ha.opcode
    rw [hpc, hb.opcode] at hsame
    exact (Option.some.inj hsame).symm
  have hsize : a.size = b.size := by
    rw [ha.size, hb.size, Instruction.immediateLength, Instruction.immediateLength, hpc, hopcode]
  obtain ⟨pc, opcode, index, size⟩ := a
  obtain ⟨pc', opcode', index', size'⟩ := b
  simp only [Instruction.mk.injEq]
  exact ⟨hpc, hopcode, ha.index.trans hb.index.symm, hsize⟩

theorem IsAt.nextPc_eq (h : IsAt code i a) :
    a.nextPc = min (a.pc + 1 + a.immediateLength) code.length := by
  have hpc := h.starts.lt_length
  have hsize := h.size
  rw [Instruction.nextPc]
  omega

theorem IsAt.pc_lt_nextPc (h : IsAt code i a) : a.pc < a.nextPc := by
  have hpc := h.starts.lt_length
  rw [h.nextPc_eq]
  omega

/-- An instruction that another one follows has its whole operand. -/
theorem IsAt.next (ha : IsAt code i a) (hb : IsAt code (i + 1) b) :
    b.pc = a.nextPc ∧ a.size = 1 + a.immediateLength := by
  have hstart := hb.starts
  have hend := ha.nextPc_eq
  have hsize := ha.size
  generalize b.pc = pc at hstart ⊢
  cases hstart with
  | @next _ pc opcode hbefore hget hlt =>
    obtain rfl : a.pc = pc := ha.starts.pc_unique hbefore
    rw [ha.opcode] at hget
    cases hget
    have himmediate : a.immediateLength = operandLength a.opcode := rfl
    omega

/-- An instruction with bytes behind it is followed by another one. -/
theorem IsAt.startsAt_next (h : IsAt code i a) (hlt : a.nextPc < code.length) :
    StartsAt code (i + 1) a.nextPc := by
  have hend := h.nextPc_eq
  have hbehind : a.nextPc = a.pc + 1 + a.immediateLength := by omega
  rw [hbehind] at hlt ⊢
  exact .next h.starts h.opcode hlt

theorem StartsAt.exists_isAt {pc : Nat} (h : StartsAt code i pc) :
    ∃ a, (instructionsOf code)[i]? = some a ∧ IsAt code i a ∧ a.pc = pc := by
  obtain ⟨opcode, hget⟩ := h.exists_opcode
  obtain ⟨size, hplaced, hsize⟩ := placed_chunks_drop (i := i) hget
  refine ⟨⟨pc, opcode, i, size⟩, ?_, ⟨h, hget, rfl, hsize⟩, rfl⟩
  rw [← Nat.add_zero i, ← List.getElem?_drop, h.drop_instructionsOf, hplaced]
  rfl

theorem getElem?_instructionsOf_iff : (instructionsOf code)[i]? = some a ↔ IsAt code i a := by
  constructor
  · intro h
    obtain ⟨b, hb, hbat, _⟩ := (startsAt_of_getElem? h).exists_isAt
    rw [h] at hb
    cases hb
    exact hbat
  · intro h
    obtain ⟨b, hb, hbat, _⟩ := h.starts.exists_isAt
    rw [hb, hbat.eq h]

theorem mem_instructionsOf_iff : a ∈ instructionsOf code ↔ ∃ i, IsAt code i a := by
  simp only [List.mem_iff_getElem?, getElem?_instructionsOf_iff]

/-! ### The decoder partitions the code -/

/-- Cutting a code into chunks gives instructions that cover it without gap or overlap. -/
theorem partitions_instructionsOf (hne : code ≠ []) : Partitions code (instructionsOf code) where
  first := by
    obtain ⟨a, ha, _, hpc⟩ := (StartsAt.first hne).exists_isAt
    exact ⟨a, ha, hpc⟩
  index i a h := (getElem?_instructionsOf_iff.1 h).index
  opcode a h := by
    obtain ⟨i, hi⟩ := mem_instructionsOf_iff.1 h
    exact hi.opcode
  next i a b ha hb := (getElem?_instructionsOf_iff.1 ha).next (getElem?_instructionsOf_iff.1 hb) |>.1
  whole i a b ha hb := (getElem?_instructionsOf_iff.1 ha).next (getElem?_instructionsOf_iff.1 hb) |>.2
  last a h := by
    rw [List.getLast?_eq_getElem?] at h
    have hat := getElem?_instructionsOf_iff.1 h
    have hle : a.nextPc ≤ code.length := hat.nextPc_eq ▸ Nat.min_le_right _ _
    refine ⟨hat.size, Nat.le_antisymm hle (Nat.le_of_not_lt ?_)⟩
    intro hlt
    -- the instruction behind the last one would be one too many
    obtain ⟨b, hb, _⟩ := (hat.startsAt_next hlt).exists_isAt
    obtain ⟨hbound, _⟩ := List.getElem?_eq_some_iff.1 hb
    omega

/-! ### There is no second one -/

theorem getLast?_of_getElem? (ha : insns[i]? = some a) (hnone : insns[i + 1]? = none) :
    insns.getLast? = some a := by
  obtain ⟨hlt, _⟩ := List.getElem?_eq_some_iff.1 ha
  have hle := List.getElem?_eq_none_iff.1 hnone
  have hnumber : insns.length - 1 = i := by omega
  rw [List.getLast?_eq_getElem?, hnumber, ha]

theorem Partitions.startsAt (h : Partitions code insns) (ha : insns[i]? = some a) :
    StartsAt code i a.pc := by
  induction i generalizing a with
  | zero =>
    obtain ⟨b, hb, hpc⟩ := h.first
    rw [ha] at hb
    cases hb
    have hget := h.opcode a (List.mem_of_getElem? ha)
    rw [hpc] at hget ⊢
    refine .first ?_
    rintro rfl
    cases hget
  | succ i ih =>
    obtain ⟨hlt, _⟩ := List.getElem?_eq_some_iff.1 ha
    have hb := List.getElem?_eq_getElem (Nat.lt_of_succ_lt hlt)
    generalize insns[i] = b at hb
    have hget := h.opcode b (List.mem_of_getElem? hb)
    have hbehind : a.pc = b.pc + 1 + operandLength b.opcode := by
      rw [h.next i b a hb ha, Instruction.nextPc, h.whole i b a hb ha, ← Nat.add_assoc]
      rfl
    have hpc := (List.getElem?_eq_some_iff.1 (h.opcode a (List.mem_of_getElem? ha))).1
    rw [hbehind] at hpc ⊢
    exact .next (ih hb) hget hpc

theorem Partitions.isAt (h : Partitions code insns) (ha : insns[i]? = some a) : IsAt code i a := by
  have hopcode := h.opcode a (List.mem_of_getElem? ha)
  refine ⟨h.startsAt ha, hopcode, h.index i a ha, ?_⟩
  cases hb : insns[i + 1]? with
  | none =>
    exact (h.last a (getLast?_of_getElem? ha hb)).1
  | some b =>
    have hwhole := h.whole i a b ha hb
    have hnext : b.pc = a.pc + a.size := h.next i a b ha hb
    have hpc := (h.startsAt hb).lt_length
    omega

/-- Every place where an instruction starts is the place of one. -/
theorem Partitions.exists_of_startsAt (h : Partitions code insns) {pc : Nat}
    (hstart : StartsAt code i pc) : ∃ a, insns[i]? = some a ∧ a.pc = pc := by
  induction hstart with
  | first _ => exact h.first
  | @next i pc opcode _ hget hlt ih =>
    obtain ⟨a, ha, rfl⟩ := ih
    have hat := h.isAt ha
    rw [hat.opcode] at hget
    cases hget
    have hend := hat.nextPc_eq
    have himmediate : a.immediateLength = operandLength a.opcode := rfl
    cases hb : insns[i + 1]? with
    | none =>
      have hlast := (h.last a (getLast?_of_getElem? ha hb)).2
      omega
    | some b =>
      refine ⟨b, rfl, ?_⟩
      have hnext := h.next i a b ha hb
      omega

theorem Partitions.getElem?_iff (h : Partitions code insns) : insns[i]? = some a ↔ IsAt code i a := by
  constructor
  · intro ha
    exact h.isAt ha
  · intro hat
    obtain ⟨b, hb, _⟩ := h.exists_of_startsAt hat.starts
    rw [hb, (h.isAt hb).eq hat]

/-- **The decoder finds the only partition of a code.** -/
theorem partitions_iff (hne : code ≠ []) : Partitions code insns ↔ insns = instructionsOf code := by
  constructor
  · intro h
    apply List.ext_getElem?
    intro i
    apply Option.ext
    intro a
    rw [h.getElem?_iff, getElem?_instructionsOf_iff]
  · rintro rfl
    exact partitions_instructionsOf hne

/-! ### Sizes and bytes -/

theorem sum_size_placed (pc index : Nat) (cs : List Chunk) :
    ((placed pc index cs).map Instruction.size).sum = (cs.flatMap Chunk.bytes).length := by
  induction cs generalizing pc index with
  | nil => rfl
  | cons c cs ih =>
    rw [placed, List.map_cons, List.sum_cons, ih, List.flatMap_cons, List.length_append]
    congr 1
    exact Nat.add_comm 1 c.operand.length

theorem sum_size_instructionsOf (code : List UInt8) :
    ((instructionsOf code).map Instruction.size).sum = code.length := by
  rw [instructionsOf, sum_size_placed, flatMap_bytes_chunks]

/-- Every byte stands at a start or in the operand behind one. -/
theorem exists_isAt_of_lt (hq : q < code.length) :
    ∃ i a, IsAt code i a ∧ a.pc ≤ q ∧ q < a.nextPc := by
  induction q with
  | zero =>
    obtain ⟨a, _, hat, hpc⟩ := (StartsAt.first (List.length_pos_iff.1 hq)).exists_isAt
    exact ⟨0, a, hat, Nat.le_of_eq hpc, hpc ▸ hat.pc_lt_nextPc⟩
  | succ q ih =>
    obtain ⟨i, a, hat, hle, hlt⟩ := ih (Nat.lt_of_succ_lt hq)
    by_cases hinside : q + 1 < a.nextPc
    · exact ⟨i, a, hat, Nat.le_succ_of_le hle, hinside⟩
    · -- the byte is the first one behind the instruction
      have hbehind : a.nextPc = q + 1 := by omega
      obtain ⟨b, _, hbat, hpc⟩ := (hat.startsAt_next (hbehind ▸ hq)).exists_isAt
      have hstart : b.pc = q + 1 := hpc.trans hbehind
      exact ⟨i + 1, b, hbat, Nat.le_of_eq hstart, hstart ▸ hbat.pc_lt_nextPc⟩

theorem IsAt.not_holdsInOperand (ha : IsAt code i a) (hb : IsAt code j b) :
    ¬ a.HoldsInOperand b.pc := by
  rintro ⟨_, hlow, hhigh⟩
  have hend := ha.nextPc_eq
  have hinside : b.pc ≤ a.pc + a.immediateLength := by omega
  exact ha.starts.not_startsAt_operand ha.opcode hlow hinside j hb.starts

theorem IsAt.eq_of_pc_eq (ha : IsAt code i a) (hb : IsAt code j b) (h : a.pc = b.pc) : a = b := by
  have hstart := hb.starts
  rw [← h] at hstart
  rcases Nat.lt_trichotomy i j with hlt | rfl | hgt
  · exact absurd (ha.starts.pc_lt hstart hlt) (Nat.lt_irrefl a.pc)
  · exact ha.eq hb
  · exact absurd (hstart.pc_lt ha.starts hgt) (Nat.lt_irrefl a.pc)

/-- Two operands have no byte in common. -/
theorem IsAt.eq_of_holdsInOperand (ha : IsAt code i a) (hb : IsAt code j b)
    (hqa : a.HoldsInOperand q) (hqb : b.HoldsInOperand q) : a = b := by
  rcases Nat.lt_trichotomy a.pc b.pc with hlt | heq | hgt
  · exact absurd ⟨hqa.1, hlt, Nat.lt_trans hqb.2.1 hqa.2.2⟩ (ha.not_holdsInOperand hb)
  · exact ha.eq_of_pc_eq hb heq
  · exact absurd ⟨hqb.1, hgt, Nat.lt_trans hqa.2.1 hqb.2.2⟩ (hb.not_holdsInOperand ha)

/-- Every byte is the start of one instruction or in the operand of one, and not both. -/
theorem start_or_operand (hq : q < code.length) :
    ((∃! a, a ∈ instructionsOf code ∧ a.pc = q) ∧
        ¬ ∃ a ∈ instructionsOf code, a.HoldsInOperand q) ∨
      (∃! a, a ∈ instructionsOf code ∧ a.HoldsInOperand q) ∧
        ¬ ∃ a ∈ instructionsOf code, a.pc = q := by
  obtain ⟨i, a, hat, hle, hlt⟩ := exists_isAt_of_lt hq
  have ha := mem_instructionsOf_iff.2 ⟨i, hat⟩
  rcases Nat.eq_or_lt_of_le hle with rfl | hinside
  · refine Or.inl ⟨⟨a, ⟨ha, rfl⟩, ?_⟩, ?_⟩
    · rintro b ⟨hb, hpc⟩
      obtain ⟨j, hbat⟩ := mem_instructionsOf_iff.1 hb
      exact hbat.eq_of_pc_eq hat hpc
    · rintro ⟨b, hb, hholds⟩
      obtain ⟨j, hbat⟩ := mem_instructionsOf_iff.1 hb
      exact hbat.not_holdsInOperand hat hholds
  · have hholds : a.HoldsInOperand q := by
      refine ⟨?_, hinside, hlt⟩
      -- an instruction of more than one byte has an operand
      have hend := hat.nextPc_eq
      cases hpush : a.isPush with
      | true => rfl
      | false =>
        have himmediate : a.immediateLength = 0 := if_neg (Bool.eq_false_iff.1 hpush)
        omega
    refine Or.inr ⟨⟨a, ⟨ha, hholds⟩, ?_⟩, ?_⟩
    · rintro b ⟨hb, hbholds⟩
      obtain ⟨j, hbat⟩ := mem_instructionsOf_iff.1 hb
      exact hbat.eq_of_holdsInOperand hat hbholds hholds
    · rintro ⟨b, hb, rfl⟩
      obtain ⟨j, hbat⟩ := mem_instructionsOf_iff.1 hb
      exact hat.not_holdsInOperand hbat hholds

/-! ### Operands are not looked at -/

theorem Partitions.congr {code' : List UInt8} (h : Partitions code insns)
    (hlength : code'.length = code.length) (hstarts : ∀ a ∈ insns, code'[a.pc]? = code[a.pc]?) :
    Partitions code' insns where
  first := h.first
  index := h.index
  opcode a ha := (hstarts a ha).trans (h.opcode a ha)
  next := h.next
  whole := h.whole
  last := by
    rw [hlength]
    exact h.last

theorem decode_of_ne_nil (hne : code ≠ []) : decode code = .ok (instructionsOf code) := by
  cases code with
  | nil => exact absurd rfl hne
  | cons b r => rfl

/-- **Decoding partitions the code, in one way only.** The sizes of the instructions sum to the
length of the code and their offsets ascend. Every byte is the start of one instruction or lies in
the operand of one push, and not both. A code of the same length with the same bytes at the starts
has the same instructions. -/
theorem decode_partitions (hne : code ≠ []) :
    ∃ insns, decode code = .ok insns ∧ (∀ other, Partitions code other ↔ other = insns) ∧
      (insns.map Instruction.size).sum = code.length ∧
      (insns.map Instruction.pc).Pairwise (· < ·) ∧
      (∀ q < code.length,
        ((∃! a, a ∈ insns ∧ a.pc = q) ∧ ¬ ∃ a ∈ insns, a.HoldsInOperand q) ∨
          (∃! a, a ∈ insns ∧ a.HoldsInOperand q) ∧ ¬ ∃ a ∈ insns, a.pc = q) ∧
      ∀ code' : List UInt8, code'.length = code.length →
        (∀ a ∈ insns, code'[a.pc]? = code[a.pc]?) → decode code' = .ok insns := by
  refine ⟨instructionsOf code, decode_of_ne_nil hne, fun _ => partitions_iff hne,
    sum_size_instructionsOf code, pairwise_pc_placed 0 0 (chunks code),
    fun _ hq => start_or_operand hq, ?_⟩
  intro code' hlength hstarts
  have hne' : code' ≠ [] := by
    rintro rfl
    exact hne (List.length_eq_zero_iff.1 hlength.symm)
  have hpartition := (partitions_instructionsOf hne).congr hlength hstarts
  rw [decode_of_ne_nil hne', (partitions_iff hne').1 hpartition]

theorem decode_partitions_truncated_push :
    let code : List UInt8 := [0x60, 0x5b, 0x00, 0x7f, 0x01, 0x02]
    let insns : List Instruction := [⟨0, 0x60, 0, 2⟩, ⟨2, 0x00, 1, 1⟩, ⟨3, 0x7f, 2, 3⟩]
    code ≠ [] ∧ decode code = .ok insns ∧ (∀ other, Partitions code other ↔ other = insns) ∧
      decode [0x60, 0x00, 0x00, 0x7f, 0xff, 0x5b] = .ok insns := by
  intro code insns
  have hne : code ≠ [] := List.cons_ne_nil _ _
  have hdecode : decode code = .ok insns := by
    rw [decode_of_ne_nil hne, instructionsOf]
    simp [code, insns, chunks, placed, operandLength, isPush, pushBase, Chunk.size]
  obtain ⟨found, hfound, hpartitions, _, _, _, hblind⟩ := decode_partitions hne
  rw [hdecode] at hfound
  cases hfound
  refine ⟨hne, hdecode, hpartitions, hblind _ rfl ?_⟩
  decide

end Partition

end GasLens.Bytecode
