/-
  GasLens/Proofs/CodeListings.lean
  ================================
  **What a listing tells of a code** — everything but which unassigned codes stand in it.

  A line is read back in one way: the offset ends at the colon, the name at the next space or at
  the end of the line, and the rest is the operand (`line_eq_iff`). So equal listings have the same
  instructions up to the codes that share a name. Such codes have no operand, hence replacing one by
  another moves no instruction behind it, and the listing stays as it is.
-/
import GasLens.Bytecode.Listing
import GasLens.Proofs.HexTexts
import GasLens.Proofs.InstructionPartition
import GasLens.Proofs.OpcodeNames
import GasLens.Text.Search

namespace GasLens.Bytecode

open GasLens.Text

/-- The bytes of the operand that the code has. -/
def Instruction.operandIn (code : List UInt8) (a : Instruction) : List UInt8 :=
  (code.drop (a.pc + 1)).take a.immediateLength

/-- The line of an instruction: its offset, its name and its operand. -/
def Instruction.line (code : List UInt8) (a : Instruction) : List Char :=
  zeroFilled 6 (Nat.toDigits 16 a.pc) ++ ": ".toList ++ a.mnemonic.toList ++
    operandText (a.operandIn code)

/-- Two codes of one length with the same bytes, except that where one has the code of an
instruction that is not assigned, the other one may have another such code. -/
structure SameButUnassigned (a b : List UInt8) : Prop where
  length_eq : a.length = b.length
  byte_eq (q : Nat) (x y : UInt8) : a[q]? = some x → b[q]? = some y →
    x = y ∨ (∃ i, StartsAt a i q) ∧ mnemonic x = unknownName ∧ mnemonic y = unknownName

section Lines

variable {code other a b : List UInt8} {x y : Instruction} {i pc : Nat}

/-! ### Reading a line -/

theorem isNumeral_zeroFilled {text : List Char} {n : Nat} (h : IsNumeral 16 text n) (width : Nat) :
    IsNumeral 16 (zeroFilled width text) n := by
  rw [zeroFilled]
  induction width - text.length with
  | zero => exact h
  | succ k ih =>
    obtain ⟨hne, digits, hdigits, hvalue⟩ := ih
    rw [List.replicate_succ, List.cons_append]
    exact ⟨List.cons_ne_nil _ _, 0 :: digits, .cons ⟨by decide, Or.inl rfl⟩ hdigits, hvalue⟩

theorem isNumeral_offset (pc : Nat) : IsNumeral 16 (zeroFilled 6 (Nat.toDigits 16 pc)) pc :=
  isNumeral_zeroFilled (isNumeral_toDigits (by decide) pc) 6

/-- Where the characters of a kind end, a text is cut in one way. -/
theorem append_inj_of_kind {kind : Char → Bool} {front front' back back' : List Char}
    (hfront : ∀ c ∈ front, kind c = true) (hfront' : ∀ c ∈ front', kind c = true)
    (hback : ∀ c, back.head? = some c → kind c = false)
    (hback' : ∀ c, back'.head? = some c → kind c = false)
    (h : front ++ back = front' ++ back') : front = front' ∧ back = back' := by
  have hends : ∀ {r : List Char}, (∀ c, r.head? = some c → kind c = false) →
      r.takeWhile kind = [] := by
    intro r hr
    cases r with
    | nil => rfl
    | cons c r => rw [List.takeWhile_cons_of_neg (by simp [hr c rfl])]
  have hkind := congrArg (List.takeWhile kind) h
  rw [List.takeWhile_append_of_pos hfront, List.takeWhile_append_of_pos hfront', hends hback,
    hends hback', List.append_nil, List.append_nil] at hkind
  subst hkind
  exact ⟨rfl, List.append_cancel_left h⟩

theorem operandText_injective : Function.Injective operandText := by
  intro bs cs h
  cases bs with
  | nil =>
    cases cs with
    | nil => rfl
    | cons c cs => cases h
  | cons b bs =>
    cases cs with
    | nil => cases h
    | cons c cs => exact hexChars_injective (List.append_cancel_left h)

theorem head_operandText {bs : List UInt8} {c : Char} (h : (operandText bs).head? = some c) :
    c = ' ' := by
  cases bs with
  | nil => cases h
  | cons b bs => exact (Option.some.inj h).symm

theorem line_eq (code : List UInt8) (x : Instruction) :
    x.line code = zeroFilled 6 (Nat.toDigits 16 x.pc) ++
      ':' :: ' ' :: (x.mnemonic.toList ++ operandText (x.operandIn code)) := by
  have hmark : ": ".toList = [':', ' '] := rfl
  rw [Instruction.line, hmark, List.append_assoc, List.append_assoc]
  rfl

/-- A line tells the offset, the name and the operand of its instruction. -/
theorem line_eq_iff : x.line code = y.line other ↔
    x.pc = y.pc ∧ x.mnemonic = y.mnemonic ∧ x.operandIn code = y.operandIn other := by
  constructor
  · intro h
    rw [line_eq, line_eq] at h
    have hoffset : ∀ pc, ∀ c ∈ zeroFilled 6 (Nat.toDigits 16 pc), (c != ':') = true := by
      intro pc c hc
      obtain ⟨d, hd⟩ := isHexDigit_iff.1 ((isNumeral_offset pc).isHexDigit c hc)
      rw [bne_iff_ne]
      rintro rfl
      cases hd
    have hcolon : ∀ r : List Char, ∀ c, (':' :: r).head? = some c → (c != ':') = false := by
      rintro r c hc
      cases hc
      rfl
    obtain ⟨hpc, hrest⟩ :=
      append_inj_of_kind (hoffset x.pc) (hoffset y.pc) (hcolon _) (hcolon _) h
    have hname : ∀ z : Instruction, ∀ c ∈ z.mnemonic.toList, decide ('0' ≤ c) = true :=
      fun z c hc => decide_eq_true (le_of_mem_mnemonic hc)
    have hspace : ∀ bs c, (operandText bs).head? = some c → decide ('0' ≤ c) = false := by
      intro bs c hc
      rw [head_operandText hc]
      rfl
    obtain ⟨hmnemonic, hoperand⟩ := append_inj_of_kind (hname x) (hname y) (hspace _) (hspace _)
      (List.cons.inj (List.cons.inj hrest).2).2
    refine ⟨?_, String.toList_inj.1 hmnemonic, operandText_injective hoperand⟩
    have hnumeral := isNumeral_offset x.pc
    rw [hpc] at hnumeral
    exact hnumeral.unique (by decide) (by decide) (isNumeral_offset y.pc)
  · rintro ⟨hpc, hmnemonic, hoperand⟩
    rw [Instruction.line, Instruction.line, hpc, hmnemonic, hoperand]

theorem newline_not_mem_line : '\n' ∉ x.line code := by
  have hhex : ∀ {cs : List Char}, (∀ c ∈ cs, IsHexDigit c) → '\n' ∉ cs := by
    intro cs hcs hmem
    obtain ⟨d, hd⟩ := isHexDigit_iff.1 (hcs _ hmem)
    cases hd
  have hname : '\n' ∉ x.mnemonic.toList := fun hmem => absurd (le_of_mem_mnemonic hmem) (by decide)
  have hoperand : '\n' ∉ operandText (x.operandIn code) := by
    cases x.operandIn code with
    | nil => exact List.not_mem_nil
    | cons b bs =>
      intro hmem
      rcases List.mem_append.1 hmem with hmark | hdigits
      · exact absurd hmark (by decide)
      · exact hhex (fun _ hc => isHexDigit_of_mem_hexChars hc) hdigits
  simp only [line_eq, List.mem_append, List.mem_cons, not_or]
  exact ⟨hhex (isNumeral_offset x.pc).isHexDigit, by decide, by decide, hname, hoperand⟩

/-! ### The lines of a listing -/

/-- The listing has one line for each instruction, in order. -/
theorem chunkLines_eq {rest : List UInt8} (index : Nat) (h : code.drop pc = rest) :
    chunkLines pc (chunks rest) =
      (placed pc index (chunks rest)).map fun x => x.line code ++ ['\n'] := by
  fun_induction chunks rest generalizing pc index with
  | case1 => rfl
  | case2 opcode r ih =>
    have hrest : code.drop (pc + 1) = r := by
      rw [← List.drop_drop, h, List.drop_succ_cons, List.drop_zero]
    have hbehind : code.drop (pc + Chunk.size ⟨opcode, r.take (operandLength opcode)⟩) =
        r.drop (operandLength opcode) := by
      rw [Chunk.size, ← Nat.add_assoc, ← List.drop_drop, hrest, List.length_take,
        List.drop_eq_drop_iff]
      omega
    have hoperand : ∀ size, Instruction.operandIn code ⟨pc, opcode, index, size⟩ =
        r.take (operandLength opcode) := by
      intro size
      rw [Instruction.operandIn, hrest]
      rfl
    rw [chunkLines, placed, List.map_cons, ih (index + 1) hbehind, Instruction.line, hoperand]
    rfl

theorem split_ended {sep : Char} {pieces : List (List Char)} (h : ∀ piece ∈ pieces, sep ∉ piece) :
    split sep (pieces.flatMap fun piece => piece ++ [sep]) = pieces ++ [[]] := by
  induction pieces with
  | nil => rfl
  | cons piece pieces ih =>
    obtain ⟨hpiece, hpieces⟩ := List.forall_mem_cons.1 h
    rw [List.flatMap_cons, List.append_assoc, List.singleton_append, split_append_cons hpiece,
      ih hpieces, List.cons_append]

theorem listing_eq (code : List UInt8) :
    listing code =
      ((instructionsOf code).map (Instruction.line code)).flatMap fun line => line ++ ['\n'] := by
  rw [listing, chunkLines_eq 0 (List.drop_zero (l := code)), List.flatMap_map, List.flatMap]
  rfl

/-- The lines of a listing are those of the instructions, in order. -/
theorem split_listing (code : List UInt8) :
    split '\n' (listing code) = (instructionsOf code).map (Instruction.line code) ++ [[]] := by
  rw [listing_eq]
  apply split_ended
  intro line hline
  obtain ⟨x, -, rfl⟩ := List.mem_map.1 hline
  exact newline_not_mem_line

theorem listing_eq_listing_iff : listing a = listing b ↔
    (instructionsOf a).map (Instruction.line a) = (instructionsOf b).map (Instruction.line b) := by
  constructor
  · intro h
    have hsplit := congrArg (split '\n') h
    rw [split_listing, split_listing] at hsplit
    exact List.append_cancel_right hsplit
  · intro h
    rw [listing_eq, listing_eq, h]

/-! ### Codes with one listing -/

theorem IsAt.length_operandIn (h : IsAt code i x) : x.size = 1 + (x.operandIn code).length := by
  have hpc := h.starts.lt_length
  rw [h.size, Instruction.operandIn, List.length_take, List.length_drop]
  omega

theorem IsAt.getElem?_operandIn (h : IsAt code i x) {q : Nat} (hlow : x.pc < q)
    (hhigh : q < x.nextPc) : code[q]? = (x.operandIn code)[q - (x.pc + 1)]? := by
  have hend := h.nextPc_eq
  rw [Instruction.operandIn, List.getElem?_take_of_lt (by omega), List.getElem?_drop]
  congr 1
  omega

section Equal

variable (h : (instructionsOf a).map (Instruction.line a) =
  (instructionsOf b).map (Instruction.line b))

include h

/-- The instructions with one number have one offset, one size, and names and operands alike. -/
theorem exists_isAt_of_lines_eq (hx : IsAt a i x) :
    ∃ y, IsAt b i y ∧ x.pc = y.pc ∧ x.nextPc = y.nextPc ∧ x.mnemonic = y.mnemonic ∧
      x.operandIn a = y.operandIn b := by
  have hline := congrArg (fun lines => lines[i]?) h
  simp only [List.getElem?_map, getElem?_instructionsOf_iff.2 hx, Option.map_some] at hline
  obtain ⟨y, hget, hsame⟩ := Option.map_eq_some_iff.1 hline.symm
  have hy := getElem?_instructionsOf_iff.1 hget
  obtain ⟨hpc, hmnemonic, hoperand⟩ := line_eq_iff.1 hsame.symm
  refine ⟨y, hy, hpc, ?_, hmnemonic, hoperand⟩
  rw [Instruction.nextPc, Instruction.nextPc, hpc, hx.length_operandIn, hy.length_operandIn,
    hoperand]

theorem length_le_of_lines_eq : a.length ≤ b.length := by
  apply Nat.le_of_not_lt
  intro hlt
  obtain ⟨i, x, hx, -, hinside⟩ := exists_isAt_of_lt hlt
  obtain ⟨y, hy, -, hnext, -, -⟩ := exists_isAt_of_lines_eq h hx
  have hend := hy.nextPc_eq
  omega

theorem sameButUnassigned_of_lines_eq : SameButUnassigned a b where
  length_eq := Nat.le_antisymm (length_le_of_lines_eq h) (length_le_of_lines_eq h.symm)
  byte_eq q c d hc hd := by
    obtain ⟨i, x, hx, hlow, hhigh⟩ := exists_isAt_of_lt (List.getElem?_eq_some_iff.1 hc).1
    obtain ⟨y, hy, hpc, hnext, hmnemonic, hoperand⟩ := exists_isAt_of_lines_eq h hx
    rcases Nat.eq_or_lt_of_le hlow with rfl | hinside
    · -- the byte is the code of the instruction
      have hcode := hx.opcode
      have hcode' := hy.opcode
      rw [hc] at hcode
      rw [← hpc, hd] at hcode'
      cases hcode
      cases hcode'
      exact (mnemonic_eq_iff.1 hmnemonic).imp_right fun hunknown => ⟨⟨i, hx.starts⟩, hunknown⟩
    · have hbyte := hx.getElem?_operandIn hinside hhigh
      rw [hoperand, hpc, ← hy.getElem?_operandIn (hpc ▸ hinside) (hnext ▸ hhigh), hc, hd] at hbyte
      exact Or.inl (Option.some.inj hbyte)

end Equal

namespace SameButUnassigned

variable (h : SameButUnassigned a b)

include h

theorem operandLength_eq {c d : UInt8} (hc : a[pc]? = some c) (hd : b[pc]? = some d) :
    operandLength c = operandLength d := by
  rcases h.byte_eq pc c d hc hd with rfl | ⟨-, hc, hd⟩
  · rfl
  · rw [operandLength_of_unknown hc, operandLength_of_unknown hd]

theorem exists_byte {c : UInt8} (hc : a[pc]? = some c) : ∃ d, b[pc]? = some d :=
  ⟨_, List.getElem?_eq_getElem (h.length_eq ▸ (List.getElem?_eq_some_iff.1 hc).1)⟩

theorem startsAt (hstart : StartsAt a i pc) : StartsAt b i pc := by
  induction hstart with
  | first hne =>
    refine .first ?_
    rintro rfl
    exact hne (List.length_eq_zero_iff.1 h.length_eq)
  | next _ hget hlt ih =>
    obtain ⟨d, hd⟩ := h.exists_byte hget
    rw [h.operandLength_eq hget hd] at hlt ⊢
    exact .next ih hd (h.length_eq ▸ hlt)

theorem symm : SameButUnassigned b a where
  length_eq := h.length_eq.symm
  byte_eq q d c hd hc := by
    rcases h.byte_eq q c d hc hd with heq | ⟨⟨i, hstart⟩, hc, hd⟩
    · exact Or.inl heq.symm
    · exact Or.inr ⟨⟨i, h.startsAt hstart⟩, hd, hc⟩

theorem getElem?_eq_of_not_startsAt (hno : ∀ i, ¬ StartsAt a i pc) : a[pc]? = b[pc]? := by
  cases hc : a[pc]? with
  | none =>
    rw [List.getElem?_eq_none_iff, h.length_eq] at hc
    exact (List.getElem?_eq_none_iff.2 hc).symm
  | some c =>
    obtain ⟨d, hd⟩ := h.exists_byte hc
    rcases h.byte_eq pc c d hc hd with heq | ⟨⟨i, hstart⟩, -⟩
    · rw [hd, heq]
    · exact absurd hstart (hno i)

/-- Each instruction has its line in both codes. -/
theorem exists_line_eq (hx : (instructionsOf a)[i]? = some x) :
    ∃ y, (instructionsOf b)[i]? = some y ∧ y.line b = x.line a := by
  have hat := getElem?_instructionsOf_iff.1 hx
  obtain ⟨y, hget, hy, hpc⟩ := (h.startsAt hat.starts).exists_isAt
  have hcode := hy.opcode
  rw [hpc] at hcode
  have himmediate : x.immediateLength = y.immediateLength := h.operandLength_eq hat.opcode hcode
  refine ⟨y, hget, line_eq_iff.2 ⟨hpc, ?_, ?_⟩⟩
  · rw [Instruction.mnemonic, Instruction.mnemonic, mnemonic_eq_iff]
    rcases h.byte_eq x.pc _ _ hat.opcode hcode with heq | ⟨-, hunknown, hunknown'⟩
    · exact Or.inl heq.symm
    · exact Or.inr ⟨hunknown', hunknown⟩
  · -- no byte of an operand is a start
    rw [Instruction.operandIn, Instruction.operandIn, hpc, himmediate]
    apply List.ext_getElem?
    intro k
    rw [List.getElem?_take, List.getElem?_take]
    split
    · rw [List.getElem?_drop, List.getElem?_drop]
      have hlength : operandLength x.opcode = y.immediateLength := himmediate
      exact (h.getElem?_eq_of_not_startsAt
        (hat.starts.not_startsAt_operand hat.opcode (by omega) (by omega))).symm
    · rfl

theorem lines_eq : (instructionsOf a).map (Instruction.line a) =
    (instructionsOf b).map (Instruction.line b) := by
  apply List.ext_getElem?
  intro i
  apply Option.ext
  intro line
  simp only [List.getElem?_map, Option.map_eq_some_iff]
  constructor
  · rintro ⟨x, hx, rfl⟩
    exact h.exists_line_eq hx
  · rintro ⟨y, hy, rfl⟩
    exact h.symm.exists_line_eq hy

end SameButUnassigned

theorem listing_eq_iff : listing a = listing b ↔ SameButUnassigned a b := by
  rw [listing_eq_listing_iff]
  constructor
  · exact sameButUnassigned_of_lines_eq
  · exact SameButUnassigned.lines_eq

theorem disassemble_of_ne_nil (hne : a ≠ []) :
    disassemble a = .ok (String.ofList (listing a)) := by
  cases a with
  | nil => exact absurd rfl hne
  | cons c r => rfl

/-- The operand of the last instruction is all that is left of the code. -/
theorem operandIn_of_getLast? (hne : code ≠ []) (hx : (instructionsOf code).getLast? = some x) :
    x.operandIn code = code.drop (x.pc + 1) := by
  obtain ⟨i, hat⟩ := mem_instructionsOf_iff.1 (List.mem_of_getLast? hx)
  have hlast := ((partitions_instructionsOf hne).last x hx).2
  have hend := hat.nextPc_eq
  apply List.take_of_length_le
  rw [List.length_drop]
  omega

end Lines

/-- **A listing tells the code up to unassigned codes.** Two listings are equal exactly if the codes
have one length and differ at most in unassigned codes where instructions begin. A listing has one
line for each instruction, in order, and the last operand is shown as far as it is there. -/
theorem listing_tells_code {a b : List UInt8} (ha : a ≠ []) (hb : b ≠ []) :
    (disassemble a = disassemble b ↔ SameButUnassigned a b) ∧
    ∃ text insns, disassemble a = .ok text ∧ decode a = .ok insns ∧
      splitString '\n' text = insns.map (fun x => String.ofList (x.line a)) ++ [""] ∧
      ∀ x, insns.getLast? = some x → x.operandIn a = a.drop (x.pc + 1) := by
  constructor
  · rw [disassemble_of_ne_nil ha, disassemble_of_ne_nil hb, Except.ok.injEq, String.ofList_inj,
      listing_eq_iff]
  · refine ⟨_, _, disassemble_of_ne_nil ha, decode_of_ne_nil ha, ?_, ?_⟩
    · rw [splitString, String.toList_ofList, split_listing, List.map_append, List.map_map]
      rfl
    · intro x hx
      exact operandIn_of_getLast? ha hx

/-- An unassigned code may be another one where an instruction begins, but not in an operand. -/
theorem listing_tells_code_unassigned :
    disassemble [0x0c, 0x60, 0x0c] = disassemble [0xef, 0x60, 0x0c] ∧
      disassemble [0x0c, 0x60, 0x0c] ≠ disassemble [0x0c, 0x60, 0xef] := by
  have hne : ∀ {b : UInt8} {r : List UInt8}, b :: r ≠ [] := List.cons_ne_nil _ _
  have hfirst : StartsAt [0x0c, 0x60, 0x0c] 0 0 := .first hne
  constructor
  · refine (listing_tells_code hne hne).1.2 ⟨rfl, ?_⟩
    intro q x y hx hy
    match q with
    | 0 =>
      cases hx
      cases hy
      exact Or.inr ⟨⟨0, hfirst⟩, by decide +kernel, by decide +kernel⟩
    | q + 1 =>
      rw [List.getElem?_cons_succ] at hx hy
      exact Or.inl (Option.some.inj (hx.symm.trans hy))
  · intro h
    have hsame := (listing_tells_code hne hne).1.1 h
    have hpush : StartsAt [0x0c, 0x60, 0x0c] 1 1 := .next hfirst rfl (by decide)
    rcases hsame.byte_eq 2 0x0c 0xef rfl rfl with heq | ⟨⟨i, hstart⟩, -⟩
    · exact absurd heq (by decide)
    · exact hpush.not_startsAt_operand rfl (by decide) (by decide) i hstart

end GasLens.Bytecode
