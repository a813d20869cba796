/-
  GasLens/Proofs/PcAlignment.lean
  ===============================
  **Alignment of program counters with lines** — which line each program counter of a compiled
  program is given, and what becomes of missing and malformed inputs.

  `Aligned` relates a map to the bytes of the code, the positions read from the source map and
  the bytes of the source, without the decoder and without the index: instruction by instruction
  (`StartsAt`), with the line counted in the source itself. Positions go with instructions by
  number and not by offset, so one operand of a wrong length would shift every line behind it.
-/
import GasLens.Proofs.InstructionStarts
import GasLens.Proofs.SourceLines
import GasLens.Proofs.TrimmedTexts
import GasLens.Source.PcLineMap
import Mathlib.Data.List.Nodup

namespace GasLens.Source

open GasLens.Text GasLens.Bytecode

/-! ### Missing inputs -/

/-- There is no source map, or nothing but white space in its place. -/
def NoMap (text : Option String) : Prop := ∀ s, text = some s → trim s.toList = []

/-- There is no code, or at most the mark of one in its place. -/
def NoCode (text : Option String) : Prop :=
  ∀ s, text = some s →
    trim s.toList = [] ∨ trim s.toList = ['0', 'x'] ∨ trim s.toList = ['0', 'X']

theorem presentMap?_eq_none {text : Option String} (h : NoMap text) : presentMap? text = none := by
  cases text with
  | none => rfl
  | some s =>
    have hblank : allBlank s = true := List.all_eq_true.2 ((trim_eq_nil_iff _).1 (h s rfl))
    simp [presentMap?, hblank]

theorem presentMap?_eq_some {s : String} (h : ¬ NoMap (some s)) :
    presentMap? (some s) = some s := by
  have hblank : allBlank s = false := by
    apply Bool.eq_false_iff.2
    intro hall
    apply h
    intro s' hs'
    cases hs'
    exact (trim_eq_nil_iff _).2 (List.all_eq_true.1 hall)
  simp [presentMap?, hblank]

theorem dropHexMark_eq_nil_iff (cs : List Char) :
    dropHexMark cs = [] ↔ cs = [] ∨ cs = ['0', 'x'] ∨ cs = ['0', 'X'] := by
  unfold dropHexMark
  split
  · simp
  · simp
  · rename_i hlower hupper
    constructor
    · exact Or.inl
    · rintro (h | h | h)
      · exact h
      · exact absurd h (hlower [])
      · exact absurd h (hupper [])

/-- Looking for a code and reading it leave the same digits. -/
theorem unmarkedCode_eq_codeDigits (text : String) : unmarkedCode text = codeDigits text := by
  unfold unmarkedCode codeDigits
  generalize trim text.toList = code
  unfold dropHexMark
  split
  · simp [dropLeading?]
  · simp [dropLeading?]
  · rename_i hlower hupper
    have hno : ∀ mark : List Char, (∀ r, code ≠ mark ++ r) → dropLeading? mark code = none := by
      intro mark hmark
      have hprefix : ¬ mark <+: code := fun ⟨r, hr⟩ => hmark r hr.symm
      rw [dropLeading?, if_neg (fun h => hprefix (List.isPrefixOf_iff_prefix.1 h))]
    simp [hno ['0', 'x'] hlower, hno ['0', 'X'] hupper]

theorem presentCode?_eq_none {text : Option String} (h : NoCode text) :
    presentCode? text = none := by
  cases text with
  | none => rfl
  | some s =>
    have hdigits : unmarkedCode s = [] := by
      rw [unmarkedCode_eq_codeDigits]
      exact (dropHexMark_eq_nil_iff _).2 (h s rfl)
    cases hblank : allBlank s with
    | true => simp [presentCode?, hblank]
    | false => simp [presentCode?, hblank, hdigits]

theorem presentCode?_eq_some {s : String} (h : ¬ NoCode (some s)) :
    presentCode? (some s) = some s := by
  have hdigits : unmarkedCode s ≠ [] := by
    rw [unmarkedCode_eq_codeDigits]
    intro hnil
    apply h
    intro s' hs'
    cases hs'
    exact (dropHexMark_eq_nil_iff _).1 hnil
  have hblank : allBlank s = false := by
    apply Bool.eq_false_iff.2
    intro hall
    apply h
    intro s' hs'
    cases hs'
    exact Or.inl ((trim_eq_nil_iff _).2 (List.all_eq_true.1 hall))
  simp [presentCode?, hblank, hdigits]

theorem exists_of_not_missing {sourceMap code : Option String}
    (h : ¬ (NoMap sourceMap ∨ NoCode code)) :
    ∃ m c, sourceMap = some m ∧ code = some c ∧ ¬ NoMap (some m) ∧ ¬ NoCode (some c) := by
  rw [not_or] at h
  cases sourceMap with
  | none => exact absurd (fun _ hs => (by cases hs)) h.1
  | some m =>
    cases code with
    | none => exact absurd (fun _ hs => (by cases hs)) h.2
    | some c => exact ⟨m, c, rfl, rfl, h⟩

/-! ### The stages in a row -/

theorem utf8_ne_nil {cs : List Char} (h : cs ≠ []) : utf8 cs ≠ [] := by
  cases cs with
  | nil => exact absurd rfl h
  | cons c cs =>
    rw [utf8, List.flatMap_cons]
    exact List.append_ne_nil_of_left_ne_nil String.utf8EncodeChar_ne_nil _

theorem readHex_ne_nil {digits bytes : List UInt8} (hd : digits ≠ [])
    (h : readHex digits = .ok bytes) : bytes ≠ [] := by
  unfold readHex at h
  split at h
  · cases h
  · rename_i heven
    match digits with
    | [] => exact absurd rfl hd
    | [_] => exact absurd rfl heven
    | a :: b :: r =>
      unfold readHexPairs at h
      split at h
      · cases h
      · split at h
        · cases h
        · split at h
          · cases h
          · cases h
            exact List.cons_ne_nil _ _

theorem bytesOfText_ne_nil {text : String} {bytes : List UInt8}
    (h : bytesOfText text = .ok bytes) : bytes ≠ [] := by
  unfold bytesOfText at h
  split at h
  · cases h
  · rename_i digits hne
    cases hr : readHex (utf8 (codeDigits text)) with
    | error e =>
      rw [hr] at h
      cases h
    | ok bs =>
      rw [hr] at h
      cases h
      exact readHex_ne_nil (utf8_ne_nil hne) hr

/-- The decoder only refuses what is no sequence of bytes. -/
theorem decodeText_of_bytesOfText {text : String} {bytes : List UInt8}
    (h : bytesOfText text = .ok bytes) : decodeText text = .ok (instructionsOf bytes) := by
  have hne : bytes.isEmpty = false := List.isEmpty_eq_false_iff.2 (bytesOfText_ne_nil h)
  rw [decodeText, h]
  simp [Except.bind, decode, hne]

section Stages

variable {sourceMap code : Option String} {source m c : String} {policy : EmptyFieldPolicy}

theorem buildPcLineMap_of_missing (h : NoMap sourceMap ∨ NoCode code) :
    buildPcLineMap sourceMap code source policy = .ok .empty := by
  unfold buildPcLineMap
  rcases h with h | h
  · rw [presentMap?_eq_none h]
  · rw [presentCode?_eq_none h]
    cases presentMap? sourceMap <;> rfl

/-- With both inputs the code is decoded first. -/
theorem buildPcLineMap_of_present (hm : ¬ NoMap (some m)) (hc : ¬ NoCode (some c)) :
    buildPcLineMap (some m) (some c) source policy =
      (((decodeText c).mapError Fault.decode).bind fun instructions =>
        ((readPositions policy m).mapError Fault.mapFormat).bind fun positions =>
          .ok (.ofParts instructions positions (LineIndex.ofSource source))) := by
  unfold buildPcLineMap
  rw [presentMap?_eq_some hm, presentCode?_eq_some hc]
  rfl

end Stages

/-! ### Lookups -/

namespace PcLineMap

theorem lineFor_of_mem {map : PcLineMap} (hs : (map.entries.map Prod.fst).Pairwise (· < ·))
    {pc : Nat} {line : Line} (h : (pc, line) ∈ map.entries) : map.lineFor pc = line := by
  have hnodup : (map.entries.map Prod.fst).Nodup := hs.imp Nat.ne_of_lt
  cases hf : map.entries.find? fun e => e.1 == pc with
  | none =>
    have hnone := List.find?_eq_none.1 hf (pc, line) h
    simp at hnone
  | some e =>
    have hkey : e.1 = pc := by simpa using List.find?_some hf
    have heq := List.inj_on_of_nodup_map hnodup (List.mem_of_find?_eq_some hf) h hkey
    rw [lineFor, hf, heq]
    rfl

theorem lineFor_of_not_mem {map : PcLineMap} {pc : Nat} (h : pc ∉ map.entries.map Prod.fst) :
    map.lineFor pc = unmappedLine := by
  have hf : map.entries.find? (fun e => e.1 == pc) = none := by
    apply List.find?_eq_none.2
    intro e he hkey
    exact h (List.mem_map.2 ⟨e, he, by simpa using hkey⟩)
  rw [lineFor, hf]
  rfl

theorem keys_ofParts (instructions : List Instruction) (positions : List Position)
    (index : LineIndex) :
    (ofParts instructions positions index).entries.map Prod.fst =
      instructions.map Instruction.pc := by
  rw [ofParts, List.map_map]
  rfl

end PcLineMap

/-! ### Alignment -/

/-- A map gives each instruction of a code the line of the position with the same number, and
no other program counter a line. -/
structure Aligned (code source : List UInt8) (positions : List Position) (map : PcLineMap) :
    Prop where
  keys_ascending : (map.entries.map Prod.fst).Pairwise (· < ·)
  mem_keys_iff (pc : Nat) : pc ∈ map.entries.map Prod.fst ↔ ∃ i, StartsAt code i pc
  /-- A position in the source gives the number of newlines strictly before it, and one. -/
  lineFor_of_start {i pc : Nat} {p : Position} {start : Int} : StartsAt code i pc →
    positions[i]? = some p → p.start = some start → 0 ≤ start →
    map.lineFor pc =
      1 + (((source.take (min start.toNat source.length)).count newline : Nat) : Int)
  lineFor_of_no_start {i pc : Nat} : StartsAt code i pc →
    (∀ p start, positions[i]? = some p → p.start = some start → start < 0) → map.lineFor pc = -1
  lineFor_of_no_instruction {pc : Nat} : (∀ i, ¬ StartsAt code i pc) → map.lineFor pc = -1
  lineFor_operand {i pc q : Nat} {opcode : UInt8} : StartsAt code i pc →
    code[pc]? = some opcode → pc < q → q ≤ pc + operandLength opcode → map.lineFor q = -1
  lineFor_past_end {pc : Nat} : code.length ≤ pc → map.lineFor pc = -1
  /-- With and without a line there are as many instructions as the code has. -/
  lt_count_iff (i : Nat) :
    i < map.mappedCount + map.unmappedCount ↔ ∃ pc, StartsAt code i pc

section OfParts

variable (code : List UInt8) (positions : List Position) (source : String)

theorem lineFor_ofParts {i pc : Nat} (h : StartsAt code i pc) (index : LineIndex) :
    (PcLineMap.ofParts (instructionsOf code) positions index).lineFor pc =
      match positions[i]? with
      | some p => index.lineOf p.start
      | none => unmappedLine := by
  obtain ⟨insn, hget, rfl, rfl⟩ := h.getElem?_instructionsOf
  apply PcLineMap.lineFor_of_mem
  · rw [PcLineMap.keys_ofParts]
    exact pairwise_pc_placed 0 0 (chunks code)
  · exact List.mem_map.2 ⟨insn, List.mem_of_getElem? hget, rfl⟩

theorem mem_keys_ofParts_iff (index : LineIndex) (pc : Nat) :
    pc ∈ (PcLineMap.ofParts (instructionsOf code) positions index).entries.map Prod.fst ↔
      ∃ i, StartsAt code i pc := by
  rw [PcLineMap.keys_ofParts, List.mem_map]
  constructor
  · rintro ⟨insn, hmem, rfl⟩
    obtain ⟨i, hget⟩ := List.getElem?_of_mem hmem
    exact ⟨i, startsAt_of_getElem? hget⟩
  · rintro ⟨i, h⟩
    obtain ⟨insn, hget, hpc⟩ := startsAt_iff.1 h
    exact ⟨insn, List.mem_of_getElem? hget, hpc⟩

theorem lineFor_ofParts_of_not_startsAt {pc : Nat} (h : ∀ i, ¬ StartsAt code i pc)
    (index : LineIndex) :
    (PcLineMap.ofParts (instructionsOf code) positions index).lineFor pc = unmappedLine := by
  apply PcLineMap.lineFor_of_not_mem
  intro hmem
  obtain ⟨i, hi⟩ := (mem_keys_ofParts_iff code positions index pc).1 hmem
  exact h i hi

/-- Instructions and records are put side by side by their numbers, as far as there are records. -/
theorem aligned_ofParts :
    Aligned code (bytesOf source) positions
      (.ofParts (instructionsOf code) positions (LineIndex.ofSource source)) where
  keys_ascending := by
    rw [PcLineMap.keys_ofParts]
    exact pairwise_pc_placed 0 0 (chunks code)
  mem_keys_iff := mem_keys_ofParts_iff code positions _
  lineFor_of_start := by
    intro i pc p start hstart hpos hs hnonneg
    rw [lineFor_ofParts code positions hstart, hpos]
    simp only [hs, LineIndex.lineOf, if_pos hnonneg]
    rw [LineIndex.ofSource, lineAt_ofBytes]
    exact Int.add_comm _ 1
  lineFor_of_no_start := by
    intro i pc hstart hnone
    rw [lineFor_ofParts code positions hstart]
    cases hpos : positions[i]? with
    | none => rfl
    | some p =>
      rcases lineOf_cases (LineIndex.ofSource source) p.start with ⟨start, hs, hle, _⟩ | ⟨_, heq⟩
      · exact absurd (hnone p start hpos hs) (Int.not_lt.2 hle)
      · exact heq
  lineFor_of_no_instruction h := lineFor_ofParts_of_not_startsAt code positions h _
  lineFor_operand hstart hget hlow hhigh :=
    lineFor_ofParts_of_not_startsAt code positions
      (hstart.not_startsAt_operand hget hlow hhigh) _
  lineFor_past_end h :=
    lineFor_ofParts_of_not_startsAt code positions
      (fun _ hstart => Nat.not_lt.2 h hstart.lt_length) _
  lt_count_iff i := by
    rw [PcLineMap.mappedCount_add_unmappedCount, exists_startsAt_iff, PcLineMap.size,
      PcLineMap.ofParts, List.length_map]

theorem ofParts_congr {positions' : List Position}
    (h : ∀ i, (∃ pc, StartsAt code i pc) → positions'[i]? = positions[i]?) (index : LineIndex) :
    PcLineMap.ofParts (instructionsOf code) positions' index =
      .ofParts (instructionsOf code) positions index := by
  unfold PcLineMap.ofParts
  congr 1
  apply List.map_congr_left
  intro insn hmem
  obtain ⟨i, hget⟩ := List.getElem?_of_mem hmem
  have hindex : insn.index = i := by
    rw [index_of_getElem?_placed hget, Nat.zero_add]
  rw [lineOfInstruction, lineOfInstruction, hindex, h i ⟨_, startsAt_of_getElem? hget⟩]

end OfParts

section Building

variable {sourceMap code : Option String} {source m c : String} {policy : EmptyFieldPolicy}

theorem buildPcLineMap_of_readings {bytes : List UInt8} {positions : List Position}
    (hm : ¬ NoMap (some m)) (hc : ¬ NoCode (some c)) (hb : bytesOfText c = .ok bytes)
    (hp : readPositions policy m = .ok positions) :
    buildPcLineMap (some m) (some c) source policy =
      .ok (.ofParts (instructionsOf bytes) positions (LineIndex.ofSource source)) := by
  rw [buildPcLineMap_of_present hm hc, decodeText_of_bytesOfText hb, hp]
  rfl

/-- A map that is built is empty or made of decoded bytes and read positions. -/
theorem buildPcLineMap_cases {map : PcLineMap}
    (h : buildPcLineMap sourceMap code source policy = .ok map) :
    map = .empty ∨ ∃ bytes positions,
      map = .ofParts (instructionsOf bytes) positions (LineIndex.ofSource source) := by
  by_cases hmissing : NoMap sourceMap ∨ NoCode code
  · rw [buildPcLineMap_of_missing hmissing] at h
    cases h
    exact Or.inl rfl
  · obtain ⟨m, c, rfl, rfl, hm, hc⟩ := exists_of_not_missing hmissing
    rw [buildPcLineMap_of_present hm hc] at h
    cases hb : bytesOfText c with
    | error e =>
      rw [decodeText, hb] at h
      cases h
    | ok bytes =>
      rw [decodeText_of_bytesOfText hb] at h
      cases hp : readPositions policy m with
      | error e =>
        rw [hp] at h
        cases h
      | ok positions =>
        rw [hp] at h
        cases h
        exact Or.inr ⟨bytes, positions, rfl⟩

/-- A program counter has no line or one of the lines of the source. -/
theorem lineFor_cases {map : PcLineMap}
    (h : buildPcLineMap sourceMap code source policy = .ok map) (pc : Nat) :
    map.lineFor pc = unmappedLine ∨
      0 < map.lineFor pc ∧ map.lineFor pc ≤ (sourceLines source).length := by
  rcases buildPcLineMap_cases h with rfl | ⟨bytes, positions, rfl⟩
  · exact Or.inl rfl
  · by_cases hstart : ∃ i, StartsAt bytes i pc
    · obtain ⟨i, hi⟩ := hstart
      rw [lineFor_ofParts bytes positions hi]
      cases positions[i]? with
      | none => exact Or.inl rfl
      | some p =>
        rcases lineOf_cases (LineIndex.ofSource source) p.start with ⟨o, _, _, heq⟩ | ⟨_, heq⟩
        · refine Or.inr ⟨?_, lineOf_le_length_sourceLines source p.start⟩
          simp only [heq]
          exact Int.lt_add_one_of_le (Int.natCast_nonneg _)
        · exact Or.inl heq
    · exact Or.inl (lineFor_ofParts_of_not_startsAt bytes positions (not_exists.1 hstart) _)

end Building

/-- **Program counters are aligned with lines.** A missing input gives the map without entries,
whatever the other one holds. Otherwise a fault of the code comes before one of the source map,
and without a fault the map is aligned, and is the same for every source map that agrees on the
positions of the instructions. -/
theorem buildPcLineMap_aligned (source : String) (policy : EmptyFieldPolicy) :
    (∀ sourceMap code, NoMap sourceMap ∨ NoCode code →
      buildPcLineMap sourceMap code source policy = .ok .empty) ∧
    ∀ m c, ¬ NoMap (some m) → ¬ NoCode (some c) →
      (∀ e, bytesOfText c = .error e →
        buildPcLineMap (some m) (some c) source policy = .error (.decode e)) ∧
      ∀ bytes, bytesOfText c = .ok bytes →
        (∀ e, readPositions policy m = .error e →
          buildPcLineMap (some m) (some c) source policy = .error (.mapFormat e)) ∧
        ∀ positions, readPositions policy m = .ok positions →
          ∃ map, buildPcLineMap (some m) (some c) source policy = .ok map ∧
            Aligned bytes (bytesOf source) positions map ∧
            ∀ m' positions', ¬ NoMap (some m') → readPositions policy m' = .ok positions' →
              (∀ i, (∃ pc, StartsAt bytes i pc) → positions'[i]? = positions[i]?) →
              buildPcLineMap (some m') (some c) source policy = .ok map := by
  constructor
  · intro sourceMap code h
    exact buildPcLineMap_of_missing h
  · intro m c hm hc
    constructor
    · intro e he
      rw [buildPcLineMap_of_present hm hc, decodeText, he]
      rfl
    · intro bytes hb
      constructor
      · intro e he
        rw [buildPcLineMap_of_present hm hc, decodeText_of_bytesOfText hb, he]
        rfl
      · intro positions hp
        refine ⟨_, buildPcLineMap_of_readings hm hc hb hp, aligned_ofParts bytes positions source,
          ?_⟩
        intro m' positions' hm' hp' hagree
        rw [buildPcLineMap_of_readings hm' hc hb hp', ofParts_congr bytes positions hagree]

/-- Two pushes and an addition, with one position more than instructions: the second push begins
behind the operand of the first one, and an operand has no line. -/
theorem buildPcLineMap_aligned_two_pushes :
    ∃ map, buildPcLineMap (some "0:1:0:-;0:1;2:1;4:1") (some "0x6001600201") "A\nB\nC\n" .absent =
        .ok map ∧
      map.lineFor 0 = 1 ∧ map.lineFor 1 = -1 ∧ map.lineFor 2 = 1 ∧ map.lineFor 4 = 2 := by
  have hm : ¬ NoMap (some "0:1:0:-;0:1;2:1;4:1") := fun h => absurd (h _ rfl) (by decide)
  have hc : ¬ NoCode (some "0x6001600201") := fun h => absurd (h _ rfl) (by decide)
  obtain ⟨map, hbuild, haligned, _⟩ :=
    (((buildPcLineMap_aligned "A\nB\nC\n" .absent).2 _ _ hm hc).2
      [0x60, 0x01, 0x60, 0x02, 0x01] rfl).2 _ rfl
  have h0 : StartsAt [0x60, 0x01, 0x60, 0x02, 0x01] 0 0 := .first (by decide)
  have h1 : StartsAt [0x60, 0x01, 0x60, 0x02, 0x01] 1 2 := .next h0 rfl (by decide)
  have h2 : StartsAt [0x60, 0x01, 0x60, 0x02, 0x01] 2 4 := .next h1 rfl (by decide)
  refine ⟨map, hbuild, ?_, ?_, ?_, ?_⟩
  · exact haligned.lineFor_of_start h0 rfl rfl (by decide)
  · exact haligned.lineFor_operand h0 rfl (by decide) (by decide)
  · exact haligned.lineFor_of_start h1 rfl rfl (by decide)
  · exact haligned.lineFor_of_start h2 rfl rfl (by decide)

end GasLens.Source
