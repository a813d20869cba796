/-
  GasLens/Proofs/InheritedPositions.lean
  ======================================
  **The two policies on empty fields side by side** — repeating the record before adds values and
  changes none.

  Both policies refuse the same source maps for the same reason, because a fault lies in the text
  of a record and not in what an empty field stands for. Where both read positions, `LastOf` says
  what repeating makes of them: each field is the last value written so far, however far back it
  stands (`lastOf_filledFrom`). A start that is written hides all earlier ones, a negative one
  too, so every program counter that has a line without repeating keeps it
  (`lineOfInstruction_apply`).
-/
import GasLens.Proofs.PcAlignment

namespace GasLens.Source

open GasLens.Text GasLens.Bytecode

/-! ### The last value written so far -/

/-- Every field of a position is the last value that some positions have for it. -/
structure LastOf (ps : List Position) (p : Position) : Prop where
  start : p.start = (ps.filterMap Position.start).getLast?
  length : p.length = (ps.filterMap Position.length).getLast?
  file : p.file = (ps.filterMap Position.file).getLast?
  jump : p.jump = (ps.filterMap Position.jump).getLast?
  modifier : p.modifier = (ps.filterMap Position.modifier).getLast?

theorem lastOf_nil : LastOf [] .blank := ⟨rfl, rfl, rfl, rfl, rfl⟩

/-- One more position: its own value comes last, if it has one. -/
theorem getLast?_filterMap_concat {α : Type} (field : Position → Option α) (ps : List Position)
    (p : Position) :
    ((ps ++ [p]).filterMap field).getLast? =
      (field p <|> (ps.filterMap field).getLast?) := by
  rw [List.filterMap_append]
  cases h : field p with
  | none => simp [h]
  | some a => simp [h]

theorem LastOf.concat {ps : List Position} {previous : Position} (h : LastOf ps previous)
    (p : Position) : LastOf (ps ++ [p]) (p.orElse previous) where
  start := by rw [getLast?_filterMap_concat, ← h.start]; rfl
  length := by rw [getLast?_filterMap_concat, ← h.length]; rfl
  file := by rw [getLast?_filterMap_concat, ← h.file]; rfl
  jump := by rw [getLast?_filterMap_concat, ← h.jump]; rfl
  modifier := by rw [getLast?_filterMap_concat, ← h.modifier]; rfl

/-- What is carried from one filled position to the next is the last value of each field. -/
theorem lastOf_filledFrom {seen : List Position} {previous : Position}
    (h : LastOf seen previous) {ps : List Position} {i : Nat} {q : Position}
    (hq : (filledFrom previous ps)[i]? = some q) : LastOf (seen ++ ps.take (i + 1)) q := by
  induction ps generalizing seen previous i with
  | nil => cases hq
  | cons p ps ih =>
    cases i with
    | zero =>
      cases hq
      exact h.concat p
    | succ i =>
      have htail := ih (h.concat p) hq
      rwa [List.append_assoc] at htail

/-! ### Reading under both policies -/

/-- Neither policy has a part in whether a source map is read. -/
theorem readPositions_cases (text : String) :
    (∃ e, ∀ policy, readPositions policy text = .error e) ∨
      ∃ ps, ∀ policy, readPositions policy text = .ok (policy.apply ps) := by
  cases h : readRecords 0 (split ';' text.toList) with
  | error e => exact Or.inl ⟨e, fun policy => by rw [readPositions, h]; rfl⟩
  | ok ps => exact Or.inr ⟨ps, fun policy => by rw [readPositions, h]; rfl⟩

/-! ### Lines under both policies -/

/-- An instruction that has a line by the positions as they are written has it by the filled ones
as well. -/
theorem lineOfInstruction_apply {ps : List Position} {index : LineIndex} {insn : Instruction}
    (h : 0 < lineOfInstruction ps index insn) :
    lineOfInstruction (EmptyFieldPolicy.inheritPrevious.apply ps) index insn =
      lineOfInstruction ps index insn := by
  unfold lineOfInstruction at h ⊢
  cases hp : ps[insn.index]? with
  | none =>
    rw [hp] at h
    cases h
  | some p =>
    rw [hp] at h
    obtain ⟨hlt, hget⟩ := List.getElem?_eq_some_iff.1 hp
    have hfilled : insn.index < (filledFrom .blank ps).length := by
      rw [length_filledFrom]
      exact hlt
    have hlast := lastOf_filledFrom lastOf_nil (List.getElem?_eq_getElem hfilled)
    have htake : ps.take (insn.index + 1) = ps.take insn.index ++ [p] := by
      rw [List.take_add_one, hp]
      rfl
    -- a position without a start has no line, so this one has a start, and it comes last
    have hstart : (filledFrom .blank ps)[insn.index].start = p.start := by
      rw [hlast.start, List.nil_append, htake, getLast?_filterMap_concat]
      cases hs : p.start with
      | none =>
        simp only [hs] at h
        cases h
      | some start => rfl
    rw [EmptyFieldPolicy.apply, List.getElem?_eq_getElem hfilled]
    exact congrArg index.lineOf hstart

section Maps

variable (code : List Instruction) (ps : List Position) (index : LineIndex)

theorem lineFor_ofParts_eq (pc : Nat) :
    (PcLineMap.ofParts code ps index).lineFor pc =
      ((code.find? fun insn => insn.pc == pc).map (lineOfInstruction ps index)).getD
        unmappedLine := by
  rw [PcLineMap.lineFor, PcLineMap.ofParts, List.find?_map, Option.map_map]
  rfl

theorem lineFor_ofParts_apply {pc : Nat}
    (h : 0 < (PcLineMap.ofParts code ps index).lineFor pc) :
    (PcLineMap.ofParts code (EmptyFieldPolicy.inheritPrevious.apply ps) index).lineFor pc =
      (PcLineMap.ofParts code ps index).lineFor pc := by
  rw [lineFor_ofParts_eq] at h
  rw [lineFor_ofParts_eq, lineFor_ofParts_eq]
  cases hfound : code.find? fun insn => insn.pc == pc with
  | none => rfl
  | some insn =>
    rw [hfound] at h
    exact lineOfInstruction_apply h

theorem mappedCount_ofParts_le :
    (PcLineMap.ofParts code ps index).mappedCount ≤
      (PcLineMap.ofParts code (EmptyFieldPolicy.inheritPrevious.apply ps) index).mappedCount := by
  rw [PcLineMap.mappedCount, PcLineMap.mappedCount, PcLineMap.ofParts, PcLineMap.ofParts,
    List.countP_map, List.countP_map]
  apply List.countP_mono_left
  intro insn _ hpos
  have hline : 0 < lineOfInstruction ps index insn := of_decide_eq_true hpos
  have hfilled := lineOfInstruction_apply hline
  exact decide_eq_true (lt_of_lt_of_eq hline hfilled.symm)

end Maps

/-! ### Both policies side by side -/

/-- A map extends another one over the same program counters. -/
structure Extends (wider map : PcLineMap) : Prop where
  keys_eq : wider.entries.map Prod.fst = map.entries.map Prod.fst
  lineFor_eq {pc : Nat} : 0 < map.lineFor pc → wider.lineFor pc = map.lineFor pc
  mappedCount_le : map.mappedCount ≤ wider.mappedCount

theorem extends_ofParts (code : List Instruction) (ps : List Position) (index : LineIndex) :
    Extends (.ofParts code (EmptyFieldPolicy.inheritPrevious.apply ps) index)
      (.ofParts code ps index) where
  keys_eq := by rw [PcLineMap.keys_ofParts, PcLineMap.keys_ofParts]
  lineFor_eq := lineFor_ofParts_apply code ps index
  mappedCount_le := mappedCount_ofParts_le code ps index

/-- Whether a map is built does not depend on the policy either. -/
theorem buildPcLineMap_cases_of_policy (sourceMap code : Option String) (source : String) :
    (∃ e, ∀ policy, buildPcLineMap sourceMap code source policy = .error e) ∨
      (∀ policy, buildPcLineMap sourceMap code source policy = .ok .empty) ∨
      ∃ instructions ps, ∀ policy, buildPcLineMap sourceMap code source policy =
        .ok (.ofParts instructions (policy.apply ps) (LineIndex.ofSource source)) := by
  unfold buildPcLineMap
  cases presentMap? sourceMap with
  | none => exact Or.inr (Or.inl fun _ => rfl)
  | some m =>
    cases presentCode? code with
    | none => exact Or.inr (Or.inl fun _ => rfl)
    | some c =>
      cases hc : decodeText c with
      | error e =>
        left
        refine ⟨.decode e, fun policy => ?_⟩
        simp only [hc]
        rfl
      | ok instructions =>
        rcases readPositions_cases m with ⟨e, he⟩ | ⟨ps, hps⟩
        · left
          refine ⟨.mapFormat e, fun policy => ?_⟩
          simp only [hc, he policy]
          rfl
        · right; right
          refine ⟨instructions, ps, fun policy => ?_⟩
          simp only [hc, hps policy]
          rfl

/-- **Repeating extends leaving absent.** Both policies refuse a source map with the same fault,
or both read as many positions, of which the repeating ones hold the last value written so far in
every field. Both build a map or fail alike, and the map of the repeating policy has the same
program counters, keeps every line of the other one and has no fewer lines. -/
theorem inheritPrevious_extends_absent :
    (∀ text,
      (∃ e, readPositions .absent text = .error e ∧
        readPositions .inheritPrevious text = .error e) ∨
      ∃ ps qs, readPositions .absent text = .ok ps ∧
        readPositions .inheritPrevious text = .ok qs ∧ qs.length = ps.length ∧
        ∀ i q, qs[i]? = some q → LastOf (ps.take (i + 1)) q) ∧
    ∀ sourceMap code source,
      (∃ e, buildPcLineMap sourceMap code source .absent = .error e ∧
        buildPcLineMap sourceMap code source .inheritPrevious = .error e) ∨
      ∃ map wider, buildPcLineMap sourceMap code source .absent = .ok map ∧
        buildPcLineMap sourceMap code source .inheritPrevious = .ok wider ∧
        Extends wider map := by
  constructor
  · intro text
    rcases readPositions_cases text with ⟨e, he⟩ | ⟨ps, hps⟩
    · exact Or.inl ⟨e, he _, he _⟩
    · refine Or.inr ⟨ps, filledFrom .blank ps, hps _, hps _, length_filledFrom _ _, ?_⟩
      intro i q hq
      exact lastOf_filledFrom lastOf_nil hq
  · intro sourceMap code source
    rcases buildPcLineMap_cases_of_policy sourceMap code source with
      ⟨e, he⟩ | hempty | ⟨instructions, ps, hparts⟩
    · exact Or.inl ⟨e, he _, he _⟩
    · exact Or.inr ⟨.empty, .empty, hempty _, hempty _, rfl, fun _ => rfl, Nat.le_refl _⟩
    · exact Or.inr ⟨_, _, hparts _, hparts _, extends_ofParts instructions ps _⟩

/-- A run of empty records repeats the first one, and a negative start written behind it stands
for no line rather than for the line before. -/
example :
    (readPositions .inheritPrevious "3:1:0:-:2;;;-1").map (List.map Position.start) =
      .ok [some 3, some 3, some 3, some (-1)] := by
  decide +kernel

end GasLens.Source
