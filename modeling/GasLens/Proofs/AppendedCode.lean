/-
  GasLens/Proofs/AppendedCode.lean
  ================================
  **Bytes behind a code** — what becomes of the instructions of a code when other bytes follow it.

  Only the last chunk of a code can take up bytes behind it, and it takes what its operand lacks
  (`chunks_append`). If it lacks nothing, the two codes are decoded one after the other. In any
  case the starts within the code stay where they are (`startsAt_append_iff`), so metadata behind
  the code of a contract moves no instruction and changes no line.
-/
import GasLens.Proofs.InstructionPartition
import GasLens.Proofs.PcAlignment

namespace GasLens.Bytecode

open GasLens.Source

/-- An instruction when the bytes it is decoded from follow a code of so many bytes and
instructions. -/
def Instruction.behind (bytes count : Nat) (a : Instruction) : Instruction :=
  { a with pc := a.pc + bytes, index := a.index + count }

/-- Whether the code holds the operand of an instruction to its end. -/
def Instruction.IsWhole (a : Instruction) : Prop := a.size = 1 + a.immediateLength

/-- Two instructions that differ in their sizes at most. -/
structure Instruction.SamePlace (x y : Instruction) : Prop where
  pc : y.pc = x.pc
  opcode : y.opcode = x.opcode
  index : y.index = x.index

section Append

variable {a b : List UInt8} {init : List Chunk} {c : Chunk} {i pc : Nat}

/-! ### Chunks -/

theorem chunks_eq_nil_iff : chunks a = [] ↔ a = [] := by
  cases a with
  | nil => simp [chunks_nil]
  | cons opcode r => simp [chunks_cons]

theorem exists_last_chunk (hne : a ≠ []) : ∃ init c, chunks a = init ++ [c] := by
  rcases List.eq_nil_or_concat (chunks a) with hnil | ⟨init, c, hlast⟩
  · exact absurd (chunks_eq_nil_iff.1 hnil) hne
  · exact ⟨init, c, hlast.trans List.concat_eq_append⟩

/-- The last chunk takes what its operand lacks, and the chunks behind it begin with the rest. -/
theorem chunks_append (h : chunks a = init ++ [c]) (b : List UInt8) :
    chunks (a ++ b) =
      init ++ ⟨c.opcode, (c.operand ++ b).take (operandLength c.opcode)⟩ ::
        chunks (b.drop (operandLength c.opcode - c.operand.length)) := by
  fun_induction chunks a generalizing init with
  | case1 => cases init <;> cases h
  | case2 opcode r ih =>
    rw [List.cons_append, chunks_cons]
    cases init with
    | nil =>
      obtain ⟨rfl, hrest⟩ := List.cons.inj h
      -- nothing is left behind the operand
      have hdrop := chunks_eq_nil_iff.1 hrest
      have hlength := List.drop_eq_nil_iff.1 hdrop
      rw [List.take_of_length_le hlength, List.drop_append, hdrop]
      rfl
    | cons first init =>
      obtain ⟨rfl, hrest⟩ := List.cons.inj h
      have hlength : operandLength opcode ≤ r.length := by
        have hne : chunks (r.drop (operandLength opcode)) ≠ [] := by
          rw [hrest]
          exact List.append_ne_nil_of_right_ne_nil _ (List.cons_ne_nil _ _)
        have hlt := mt List.drop_eq_nil_iff.2 (mt chunks_eq_nil_iff.2 hne)
        omega
      rw [List.take_append_of_le_length hlength, List.drop_append_of_le_length hlength, ih hrest]
      rfl

theorem length_operand_le (h : c ∈ chunks a) : c.operand.length ≤ operandLength c.opcode := by
  fun_induction chunks a with
  | case1 => cases h
  | case2 opcode r ih =>
    rcases List.mem_cons.1 h with rfl | hmem
    · exact List.length_take_le _ _
    · exact ih hmem

/-! ### Places -/

theorem length_placed (pc index : Nat) (cs : List Chunk) :
    (placed pc index cs).length = cs.length := by
  induction cs generalizing pc index with
  | nil => rfl
  | cons c cs ih => rw [placed, List.length_cons, ih, List.length_cons]

theorem placed_append (pc index : Nat) (cs ds : List Chunk) :
    placed pc index (cs ++ ds) = placed pc index cs ++
      placed (pc + (cs.flatMap Chunk.bytes).length) (index + cs.length) ds := by
  induction cs generalizing pc index with
  | nil => rfl
  | cons c cs ih =>
    have hsize : (Chunk.bytes c).length = c.size := Nat.add_comm _ 1
    rw [List.cons_append, placed, ih, placed, List.flatMap_cons, List.length_append, hsize,
      List.length_cons, Nat.add_assoc pc, Nat.add_assoc index, Nat.add_comm 1]
    rfl

theorem placed_behind (pc index bytes count : Nat) (cs : List Chunk) :
    placed (pc + bytes) (index + count) cs =
      (placed pc index cs).map (Instruction.behind bytes count) := by
  induction cs generalizing pc index with
  | nil => rfl
  | cons c cs ih =>
    rw [placed, placed, List.map_cons, ← ih, Nat.add_right_comm pc, Nat.add_right_comm index]
    rfl

theorem instructionsOf_eq (h : chunks a = init ++ [c]) :
    instructionsOf a = placed 0 0 init ++
      [⟨(init.flatMap Chunk.bytes).length, c.opcode, init.length, c.size⟩] := by
  rw [instructionsOf, h, placed_append, Nat.zero_add, Nat.zero_add]
  rfl

/-- What follows a code with its whole operand is decoded on its own. -/
theorem instructionsOf_append_of_whole (h : chunks a = init ++ [c])
    (hwhole : c.operand.length = operandLength c.opcode) (b : List UInt8) :
    instructionsOf (a ++ b) = instructionsOf a ++
      (instructionsOf b).map (.behind a.length (instructionsOf a).length) := by
  have hchunks : chunks (a ++ b) = chunks a ++ chunks b := by
    rw [chunks_append h, h, ← hwhole, List.take_left, Nat.sub_self, List.drop_zero,
      List.append_assoc]
    rfl
  have hcount : (instructionsOf a).length = (chunks a).length := by
    rw [instructionsOf, length_placed]
  rw [instructionsOf, hchunks, placed_append, flatMap_bytes_chunks, ← hcount, placed_behind]
  rfl

/-- What follows a code that ends inside an operand goes to the last instruction first. -/
theorem instructionsOf_append_of_truncated (h : chunks a = init ++ [c])
    (hshort : c.operand.length < operandLength c.opcode) (hb : b ≠ []) :
    ∃ size rest, c.size < size ∧
      instructionsOf (a ++ b) = placed 0 0 init ++
        ⟨(init.flatMap Chunk.bytes).length, c.opcode, init.length, size⟩ :: rest := by
  have hjoined := congrArg (placed 0 0) (chunks_append h b)
  rw [placed_append, Nat.zero_add, Nat.zero_add, placed] at hjoined
  refine ⟨_, _, ?_, hjoined⟩
  have hpos := List.length_pos_iff.2 hb
  simp only [Chunk.size, List.length_take, List.length_append]
  omega

/-! ### Starts and lines -/

theorem StartsAt.append (h : StartsAt a i pc) (b : List UInt8) : StartsAt (a ++ b) i pc := by
  induction h with
  | first hne => exact .first (List.append_ne_nil_of_left_ne_nil hne b)
  | next hbefore hget hlt ih =>
    refine .next ih ?_ ?_
    · rw [List.getElem?_append_left hbefore.lt_length]
      exact hget
    · rw [List.length_append]
      omega

/-- The starts within a code do not depend on what follows it. -/
theorem startsAt_append_iff (hpc : pc < a.length) : StartsAt (a ++ b) i pc ↔ StartsAt a i pc := by
  constructor
  · intro h
    induction h with
    | first _ => exact .first (List.length_pos_iff.1 hpc)
    | @next i pc opcode _ hget _ ih =>
      have hwithin : pc < a.length := by omega
      rw [List.getElem?_append_left hwithin] at hget
      exact .next (ih hwithin) hget hpc
  · intro h
    exact h.append b

/-- No program counter of a code has another line because of what follows the code. -/
theorem lineFor_append (hpc : pc < a.length) (b : List UInt8) (positions : List Position)
    (index : LineIndex) :
    (PcLineMap.ofParts (instructionsOf (a ++ b)) positions index).lineFor pc =
      (PcLineMap.ofParts (instructionsOf a) positions index).lineFor pc := by
  by_cases hstart : ∃ i, StartsAt a i pc
  · obtain ⟨i, hi⟩ := hstart
    rw [lineFor_ofParts _ positions (hi.append b), lineFor_ofParts _ positions hi]
  · have hnone := not_exists.1 hstart
    rw [lineFor_ofParts_of_not_startsAt _ positions
        (fun i hi => hnone i ((startsAt_append_iff hpc).1 hi)),
      lineFor_ofParts_of_not_startsAt _ positions hnone]

theorem exists_samePlace_append {x : Instruction} (h : (instructionsOf a)[i]? = some x)
    (b : List UInt8) : ∃ y, (instructionsOf (a ++ b))[i]? = some y ∧ x.SamePlace y := by
  have hx := getElem?_instructionsOf_iff.1 h
  obtain ⟨y, hget, hy, hpc⟩ := (hx.starts.append b).exists_isAt
  have hopcode := hy.opcode
  rw [hpc, List.getElem?_append_left hx.starts.lt_length, hx.opcode] at hopcode
  exact ⟨y, hget, hpc, (Option.some.inj hopcode).symm, hy.index.trans hx.index.symm⟩

end Append

/-- **Bytes behind a code move none of its instructions.** If the last instruction has its whole
operand, the instructions of the bytes follow those of the code, placed behind them. If it has not,
it alone grows. Every instruction keeps its program counter, its number and its line. -/
theorem decode_append {a b : List UInt8} (ha : a ≠ []) (hb : b ≠ []) :
    ∃ before after joined : List Instruction, decode a = .ok before ∧ decode b = .ok after ∧
      decode (a ++ b) = .ok joined ∧
      (∃ init last, before = init ++ [last] ∧
        (last.IsWhole → joined = before ++ after.map (.behind a.length before.length)) ∧
        (¬ last.IsWhole → ∃ longer rest, joined = init ++ longer :: rest ∧
          last.SamePlace longer ∧ last.size < longer.size)) ∧
      ∀ (i : Nat) (x : Instruction), before[i]? = some x →
        (∃ y, joined[i]? = some y ∧ x.SamePlace y) ∧
        ∀ positions index, (PcLineMap.ofParts joined positions index).lineFor x.pc =
          (PcLineMap.ofParts before positions index).lineFor x.pc := by
  have hab : a ++ b ≠ [] := List.append_ne_nil_of_left_ne_nil ha b
  refine ⟨_, _, _, decode_of_ne_nil ha, decode_of_ne_nil hb, decode_of_ne_nil hab, ?_, ?_⟩
  · obtain ⟨init, c, hchunks⟩ := exists_last_chunk ha
    refine ⟨_, _, instructionsOf_eq hchunks, ?_, ?_⟩
    · intro hwhole
      have hoperand : c.operand.length = operandLength c.opcode := Nat.add_left_cancel hwhole
      exact instructionsOf_append_of_whole hchunks hoperand b
    · intro hpart
      have hle : c.operand.length ≤ operandLength c.opcode :=
        length_operand_le (a := a) (hchunks ▸ List.mem_append_right init List.mem_cons_self)
      have hne : c.operand.length ≠ operandLength c.opcode :=
        fun heq => hpart (congrArg (1 + ·) heq)
      obtain ⟨size, rest, hsize, hjoined⟩ :=
        instructionsOf_append_of_truncated hchunks (Nat.lt_of_le_of_ne hle hne) hb
      exact ⟨_, rest, hjoined, ⟨rfl, rfl, rfl⟩, hsize⟩
  · intro i x hx
    refine ⟨exists_samePlace_append hx b, fun positions index => ?_⟩
    exact lineFor_append (startsAt_of_getElem? hx).lt_length b positions index

/-- A code that ends after the first of the two bytes of an operand: the byte that follows belongs
to the operand, though it would be an instruction on its own. -/
theorem decode_append_truncated_push :
    ([0x5b, 0x61, 0x01] : List UInt8) ≠ [] ∧ ([0x5b, 0x00] : List UInt8) ≠ [] ∧
    decode [0x5b, 0x61, 0x01] = .ok [⟨0, 0x5b, 0, 1⟩, ⟨1, 0x61, 1, 2⟩] ∧
    ∃ longer rest, decode [0x5b, 0x61, 0x01, 0x5b, 0x00] = .ok (⟨0, 0x5b, 0, 1⟩ :: longer :: rest) ∧
      Instruction.SamePlace ⟨1, 0x61, 1, 2⟩ longer ∧ 2 < longer.size := by
  have ha : ([0x5b, 0x61, 0x01] : List UInt8) ≠ [] := List.cons_ne_nil _ _
  have hb : ([0x5b, 0x00] : List UInt8) ≠ [] := List.cons_ne_nil _ _
  have hdecode : decode [0x5b, 0x61, 0x01] = .ok [⟨0, 0x5b, 0, 1⟩, ⟨1, 0x61, 1, 2⟩] := by
    rw [decode_of_ne_nil ha, instructionsOf]
    simp [chunks, placed, operandLength, isPush, pushBase, Chunk.size]
  obtain ⟨before, after, joined, hbefore, -, hjoined, ⟨init, last, hlast, -, hpart⟩, -⟩ :=
    decode_append ha hb
  rw [hdecode] at hbefore
  cases hbefore
  have hsplit : ([⟨0, 0x5b, 0, 1⟩] ++ [⟨1, 0x61, 1, 2⟩] : List Instruction) = init ++ [last] :=
    hlast
  obtain ⟨rfl, hlast⟩ := List.append_inj' hsplit rfl
  cases hlast
  have hshort : ¬ (⟨1, 0x61, 1, 2⟩ : Instruction).IsWhole := by
    unfold Instruction.IsWhole
    decide
  obtain ⟨longer, rest, rfl, hplace, hsize⟩ := hpart hshort
  exact ⟨ha, hb, hdecode, longer, rest, hjoined, hplace, hsize⟩

end GasLens.Bytecode
