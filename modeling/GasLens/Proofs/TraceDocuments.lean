/-
  GasLens/Proofs/TraceDocuments.lean
  ==================================
  **Traces as documents** — a trace may be written in many ways, and is read as a whole or not at
  all.

  A document shows a trace (`Trace.IsShownBy`) by the last members of some names, so neither the
  order of its members nor others among them matter. Members may be left out where they say no
  more than is assumed without them, and each amount of gas has its own spelling (`IsCost`).

  A reader is opened once, into the readings of its members (`stepOfMembers_eq_ok_iff`,
  `ofMembers_eq_ok_iff`). These say at the same time when a trace is read, and that no part of
  one can fail alone.
-/
import GasLens.Proofs.CostKeys
import GasLens.Proofs.Doubles
import GasLens.Proofs.Members
import GasLens.Proofs.Numerals
import GasLens.Proofs.Readings
import GasLens.Trace.Basic

namespace GasLens

open GasLens.Text

namespace Trace

open Json

/-! ### Amounts -/

/-- A text is an amount of gas: decimal, or hexadecimal after `0x`, with or without a plus sign. -/
def IsCostText (text : List Char) (n : Nat) : Prop :=
  ∃ digits, (text = digits ∨ text = '+' :: digits) ∧ IsNumeral 10 digits n ∨
    (text = '0' :: 'x' :: digits ∨ text = '0' :: 'x' :: '+' :: digits) ∧ IsNumeral 16 digits n

theorem not_isNumeral_of_x {digits : List Char} {n : Nat} :
    ¬ IsNumeral 10 ('0' :: 'x' :: digits) n := by
  rintro ⟨_, values, hvalues, _⟩
  cases hvalues with
  | cons _ hrest =>
    cases hrest with
    | cons hx _ =>
      have hvalue := (alphanumericValue?_of_isDigitOf (by decide) hx).symm
      cases hvalue
      exact absurd hx.1 (by decide)

theorem readCostText_eq_ok_iff {s : String} {n : Nat} :
    readCostText s = .ok n ↔ IsCostText s.toList n ∧ n < 2 ^ 64 := by
  have hbound : n ≤ maxU64 ↔ n < 2 ^ 64 := Nat.le_sub_one_iff_lt (by decide)
  unfold readCostText
  split
  · rename_i digits htext
    rw [readNat_eq_ok_iff (by decide) (by decide), htext, hbound]
    constructor
    · rintro ⟨text, rfl | rfl, hnumeral, hn⟩
      · exact ⟨⟨_, Or.inr ⟨Or.inl rfl, hnumeral⟩⟩, hn⟩
      · exact ⟨⟨_, Or.inr ⟨Or.inr rfl, hnumeral⟩⟩, hn⟩
    · rintro ⟨⟨text, ⟨hdecimal, hnumeral⟩ | ⟨hhexadecimal, hnumeral⟩⟩, hn⟩
      · rcases hdecimal with rfl | hplus
        · exact absurd hnumeral not_isNumeral_of_x
        · cases hplus
      · refine ⟨text, ?_, hnumeral, hn⟩
        rcases hhexadecimal with h | h
        · exact Or.inl (List.cons.inj (List.cons.inj h).2).2
        · exact Or.inr (List.cons.inj (List.cons.inj h).2).2
  · rename_i hdecimal
    rw [readNat_eq_ok_iff (by decide) (by decide), hbound]
    constructor
    · rintro ⟨text, hsign, hnumeral, hn⟩
      exact ⟨⟨text, Or.inl ⟨hsign, hnumeral⟩⟩, hn⟩
    · rintro ⟨⟨text, ⟨hsign, hnumeral⟩ | ⟨hhexadecimal, _⟩⟩, hn⟩
      · exact ⟨text, hsign, hnumeral, hn⟩
      · rcases hhexadecimal with h | h
        · exact absurd h (hdecimal _)
        · exact absurd h (hdecimal _)

/-- An amount of gas as it may be written. -/
inductive IsCost : Nat → Json → Prop where
  | integer {n : Nat} (hn : n < 2 ^ 64) : IsCost n (.number (.integer n))
  | text {n : Nat} {s : String} (h : IsCostText s.toList n) (hn : n < 2 ^ 64) :
    IsCost n (.string s)
  | null : IsCost 0 .null

/-- A text that is no amount of gas, or a number below zero. -/
inductive IsBadCost : Json → Prop where
  | text {s : String} (h : ∀ n, n < 2 ^ 64 → ¬ IsCostText s.toList n) : IsBadCost (.string s)
  | integer {n : Int} (h : n < 0) : IsBadCost (.number (.integer n))
  | double {x : Float} (h : x < Decimal.ofNat 0) : IsBadCost (.number (.double x))

theorem readCost_string {s : String} {n : Nat} :
    readCost (.string s) = .ok n ↔ IsCostText s.toList n ∧ n < 2 ^ 64 := by
  rw [← readCostText_eq_ok_iff, readCost]
  cases readCostText s with
  | ok m => simp only [Except.ok.injEq]
  | error fault => simp only [reduceCtorEq]

theorem readCost_of_isCost {n : Nat} {j : Json} (h : IsCost n j) : readCost j.normal = .ok n := by
  cases h with
  | integer hn =>
    show readCost (.number (.integer n)) = .ok n
    rw [readCost, if_pos (Int.natCast_nonneg n)]
    rfl
  | text h hn => exact readCost_string.2 ⟨h, hn⟩
  | null => rfl

theorem readCost_of_isBadCost {j : Json} (h : IsBadCost j) (n : Nat) :
    readCost j.normal ≠ .ok n := by
  intro hread
  cases h with
  | text h =>
    obtain ⟨htext, hn⟩ := readCost_string.1 hread
    exact h n hn htext
  | integer h =>
    have herror := (if_neg (Int.not_le.2 h)).symm.trans hread
    cases herror
  | double h =>
    have herror := (if_neg (Decimal.not_zero_le_of_lt h)).symm.trans hread
    cases herror

/-! ### Readers by their parts -/

theorem stepOfMembers_eq_ok_iff {ms : List (String × Json)} {s : Step} :
    stepOfMembers ms = .ok s ↔
      readOr 1 readCount (lastMember? "depth" ms) = .ok s.depth ∧
      readOr 0 readCost (lastMember? "gasCost" ms) = .ok s.cost ∧
      readOr unknownOp readText (lastMember? "op" ms) = .ok s.op ∧
      readGiven "pc" readCount (lastMember? "pc" ms) = .ok s.pc := by
  simp only [stepOfMembers, bind_eq_ok_iff]
  constructor
  · rintro ⟨depth, hdepth, cost, hcost, op, hop, pc, hpc, h⟩
    cases h
    exact ⟨hdepth, hcost, hop, hpc⟩
  · rintro ⟨hdepth, hcost, hop, hpc⟩
    exact ⟨_, hdepth, _, hcost, _, hop, _, hpc, rfl⟩

theorem stepOfItems_eq_ok_iff {js : List Json} {s : Step} :
    stepOfItems js = .ok s ↔
      readGiven "pc" readCount js[0]? = .ok s.pc ∧
      readOr unknownOp readText js[1]? = .ok s.op ∧
      readOr 0 readCost js[2]? = .ok s.cost ∧
      readOr 1 readCount js[3]? = .ok s.depth ∧ js.length ≤ 4 := by
  simp only [stepOfItems, bind_eq_ok_iff]
  constructor
  · rintro ⟨pc, hpc, op, hop, cost, hcost, depth, hdepth, h⟩
    split at h
    · cases h
    · rename_i hlength
      cases h
      exact ⟨hpc, hop, hcost, hdepth, Nat.le_of_not_lt hlength⟩
  · rintro ⟨hpc, hop, hcost, hdepth, hlength⟩
    refine ⟨_, hpc, _, hop, _, hcost, _, hdepth, ?_⟩
    rw [if_neg (Nat.not_lt.2 hlength)]
    rfl

theorem ofMembers_eq_ok_iff {ms : List (String × Json)} {t : Trace} :
    ofMembers ms = .ok t ↔
      readOr false readFlag (lastMember? "failed" ms) = .ok t.failed ∧
      readOr 0 readCost (lastMember? "gas" ms) = .ok t.gas ∧
      readOr "" readText (lastMember? "returnValue" ms) = .ok t.returnValue ∧
      readOr none readStepList (lastMember? "structLogs" ms) = .ok (some t.steps) := by
  simp only [ofMembers, bind_eq_ok_iff]
  constructor
  · rintro ⟨failed, hfailed, gas, hgas, value, hvalue, steps, hsteps, h⟩
    cases steps with
    | none => cases h
    | some steps =>
      cases h
      exact ⟨hfailed, hgas, hvalue, hsteps⟩
  · rintro ⟨hfailed, hgas, hvalue, hsteps⟩
    exact ⟨_, hfailed, _, hgas, _, hvalue, _, hsteps, rfl⟩

theorem readSteps_eq_ok_iff {js : List Json} {steps : List Step} :
    readSteps js = .ok steps ↔ List.Forall₂ (fun j s => readStep j = .ok s) js steps := by
  induction js generalizing steps with
  | nil =>
    constructor
    · intro h
      cases h
      exact .nil
    · intro h
      cases h
      rfl
  | cons j js ih =>
    simp only [readSteps, bind_eq_ok_iff]
    constructor
    · rintro ⟨s, hs, rest, hrest, h⟩
      cases h
      exact .cons hs (ih.1 hrest)
    · intro h
      cases h with
      | @cons _ s _ rest hs hrest => exact ⟨s, hs, rest, ih.2 hrest, rfl⟩

theorem map_some_eq_ok_iff {x : Except TraceFault (List Step)} {steps : List Step} :
    x.map some = .ok (some steps) ↔ x = .ok steps := by
  cases x <;> simp [Except.map]

/-- The steps of a trace are the items of one list, each read on its own. -/
theorem readStepList_eq_ok_iff {o : Option Json} {steps : List Step} :
    readOr none readStepList (o.map normal) = .ok (some steps) ↔
      ∃ items, o = some (.array items) ∧
        List.Forall₂ (fun item s => readStep item.normal = .ok s) items steps := by
  constructor
  · intro h
    cases o with
    | none => cases h
    | some j =>
      cases j with
      | array items =>
        refine ⟨items, rfl, ?_⟩
        have hsteps := readSteps_eq_ok_iff.1 (map_some_eq_ok_iff.1 h)
        rwa [normalItems_eq_map, List.forall₂_map_left_iff] at hsteps
      | _ => cases h
  · rintro ⟨items, rfl, hitems⟩
    apply map_some_eq_ok_iff.2
    rw [readSteps_eq_ok_iff, normalItems_eq_map, List.forall₂_map_left_iff]
    exact hitems

/-- A trace is read from an object by the last members of its names. -/
theorem ofJson_eq_ok_iff {j : Json} {t : Trace} :
    ofJson j = .ok t ↔ ∃ ms, j = .object ms ∧
      readOr false readFlag ((lastMember? "failed" ms).map normal) = .ok t.failed ∧
      readOr 0 readCost ((lastMember? "gas" ms).map normal) = .ok t.gas ∧
      readOr "" readText ((lastMember? "returnValue" ms).map normal) = .ok t.returnValue ∧
      ∃ items, lastMember? "structLogs" ms = some (.array items) ∧
        List.Forall₂ (fun item s => readStep item.normal = .ok s) items t.steps := by
  constructor
  · intro h
    cases j with
    | object ms =>
      have hparts := ofMembers_eq_ok_iff.1 h
      simp only [lastMember?_normal] at hparts
      obtain ⟨hfailed, hgas, hvalue, hsteps⟩ := hparts
      exact ⟨ms, rfl, hfailed, hgas, hvalue, readStepList_eq_ok_iff.1 hsteps⟩
    | _ => cases h
  · rintro ⟨ms, rfl, hfailed, hgas, hvalue, hsteps⟩
    apply ofMembers_eq_ok_iff.2
    simp only [lastMember?_normal]
    exact ⟨hfailed, hgas, hvalue, readStepList_eq_ok_iff.2 hsteps⟩

theorem readStep_object_eq_ok_iff {ms : List (String × Json)} {s : Step} :
    readStep (Json.object ms).normal = .ok s ↔
      readOr 1 readCount ((lastMember? "depth" ms).map normal) = .ok s.depth ∧
      readOr 0 readCost ((lastMember? "gasCost" ms).map normal) = .ok s.cost ∧
      readOr unknownOp readText ((lastMember? "op" ms).map normal) = .ok s.op ∧
      readGiven "pc" readCount ((lastMember? "pc" ms).map normal) = .ok s.pc := by
  rw [normal, readStep, stepOfMembers_eq_ok_iff]
  simp only [lastMember?_normal]

/-! ### Documents of a trace -/

/-- A member writes a value, or is left out if the value is the one assumed without it. -/
def IsGiven {α : Type} (Writes : α → Json → Prop) (default value : α) : Option Json → Prop
  | some j => Writes value j
  | none => value = default

theorem readOr_of_isGiven {α : Type} {Writes : α → Json → Prop} {read : Json → Except TraceFault α}
    {default value : α} {o : Option Json}
    (hread : ∀ j, Writes value j → read j.normal = .ok value)
    (h : IsGiven Writes default value o) : readOr default read (o.map normal) = .ok value := by
  cases o with
  | none =>
    cases h
    rfl
  | some j => exact hread j h

/-- A count, written as a number of 64 bits. -/
def IsCount (n : Nat) (j : Json) : Prop := n < 2 ^ 64 ∧ j = .number (.integer n)

theorem readCount_of_isCount {n : Nat} {j : Json} (h : IsCount n j) :
    readCount j.normal = .ok n := by
  obtain ⟨_, rfl⟩ := h
  show readCount (.number (.integer n)) = .ok n
  rw [readCount, readAs, nat?, if_pos (Int.natCast_nonneg n)]
  rfl

theorem readText_of_isText {s : String} {j : Json} (h : j = .string s) :
    readText j.normal = .ok s := by
  rw [h]
  rfl

theorem readFlag_of_isFlag {b : Bool} {j : Json} (h : j = .bool b) : readFlag j.normal = .ok b := by
  rw [h]
  rfl

/-- An object shows a step by its members, among any others. -/
structure StepShownBy (s : Step) (ms : List (String × Json)) : Prop where
  pc : ∃ j, lastMember? "pc" ms = some j ∧ IsCount s.pc j
  op : IsGiven (fun op j => j = .string op) "UNKNOWN" s.op (lastMember? "op" ms)
  cost : IsGiven IsCost 0 s.cost (lastMember? "gasCost" ms)
  depth : IsGiven IsCount 1 s.depth (lastMember? "depth" ms)

/-- An object shows a trace by its members, among any others. -/
structure ShownBy (t : Trace) (ms : List (String × Json)) : Prop where
  gas : IsGiven IsCost 0 t.gas (lastMember? "gas" ms)
  failed : IsGiven (fun failed j => j = .bool failed) false t.failed (lastMember? "failed" ms)
  returnValue :
    IsGiven (fun value j => j = .string value) "" t.returnValue (lastMember? "returnValue" ms)
  steps : ∃ items : List (List (String × Json)),
    lastMember? "structLogs" ms = some (.array (items.map .object)) ∧
      List.Forall₂ StepShownBy t.steps items

theorem StepShownBy.readStep_eq {s : Step} {ms : List (String × Json)} (h : StepShownBy s ms) :
    readStep (Json.object ms).normal = .ok s := by
  obtain ⟨⟨j, hpc, hcount⟩, hop, hcost, hdepth⟩ := h
  rw [readStep_object_eq_ok_iff]
  refine ⟨?_, ?_, ?_, ?_⟩
  · exact readOr_of_isGiven (fun j => readCount_of_isCount) hdepth
  · exact readOr_of_isGiven (fun j => readCost_of_isCost) hcost
  · exact readOr_of_isGiven (fun j => readText_of_isText) hop
  · rw [hpc]
    exact readCount_of_isCount hcount

theorem ShownBy.ofJson_eq {t : Trace} {ms : List (String × Json)} (h : t.ShownBy ms) :
    ofJson (.object ms) = .ok t := by
  obtain ⟨hgas, hfailed, hvalue, items, hitems, hsteps⟩ := h
  rw [ofJson_eq_ok_iff]
  refine ⟨ms, rfl, ?_, ?_, ?_, items.map .object, hitems, ?_⟩
  · exact readOr_of_isGiven (fun j => readFlag_of_isFlag) hfailed
  · exact readOr_of_isGiven (fun j => readCost_of_isCost) hgas
  · exact readOr_of_isGiven (fun j => readText_of_isText) hvalue
  · rw [List.forall₂_map_left_iff]
    exact hsteps.flip.imp fun ms s hs => hs.readStep_eq

/-! ### Spoiled documents -/

/-- A step without a program counter, or with a bad amount of gas. -/
inductive IsSpoiledStep : Json → Prop where
  | noPc {ms : List (String × Json)} (h : lastMember? "pc" ms = none) : IsSpoiledStep (.object ms)
  | badCost {ms : List (String × Json)} {j : Json} (h : lastMember? "gasCost" ms = some j)
    (hj : IsBadCost j) : IsSpoiledStep (.object ms)
  | noItem : IsSpoiledStep (.array [])
  | badItem {items : List Json} {j : Json} (h : items[2]? = some j) (hj : IsBadCost j) :
    IsSpoiledStep (.array items)

/-- An object without steps, or with a bad amount of gas or a spoiled step anywhere. -/
inductive IsSpoiled (ms : List (String × Json)) : Prop where
  | badGas {j : Json} (h : lastMember? "gas" ms = some j) (hj : IsBadCost j)
  | noSteps (h : lastMember? "structLogs" ms = none)
  | nullSteps (h : lastMember? "structLogs" ms = some .null)
  | badStep {items : List Json} {item : Json} (h : lastMember? "structLogs" ms = some (.array items))
    (hitem : item ∈ items) (hbad : IsSpoiledStep item)

theorem readStep_of_isSpoiledStep {j : Json} (h : IsSpoiledStep j) (s : Step) :
    readStep j.normal ≠ .ok s := by
  intro hread
  cases h with
  | noPc h =>
    obtain ⟨_, _, _, hpc⟩ := readStep_object_eq_ok_iff.1 hread
    rw [h] at hpc
    cases hpc
  | badCost h hj =>
    obtain ⟨_, hcost, _, _⟩ := readStep_object_eq_ok_iff.1 hread
    rw [h] at hcost
    exact readCost_of_isBadCost hj s.cost hcost
  | noItem => cases hread
  | badItem h hj =>
    obtain ⟨_, _, hcost, _, _⟩ := stepOfItems_eq_ok_iff.1 hread
    rw [normalItems_eq_map, List.getElem?_map, h] at hcost
    exact readCost_of_isBadCost hj s.cost hcost

/-- A spoiled document is not read, whatever else stands in it. -/
theorem ofJson_of_isSpoiled {ms : List (String × Json)} (h : IsSpoiled ms) :
    ∃ fault, ofJson (.object ms) = .error fault := by
  cases hread : ofJson (.object ms) with
  | error fault => exact ⟨fault, rfl⟩
  | ok t =>
    obtain ⟨ms', hms, _, hgas, _, items, hitems, hsteps⟩ := ofJson_eq_ok_iff.1 hread
    cases hms
    cases h with
    | badGas h hj =>
      rw [h] at hgas
      exact absurd hgas (readCost_of_isBadCost hj t.gas)
    | noSteps h =>
      rw [h] at hitems
      cases hitems
    | nullSteps h =>
      rw [h] at hitems
      cases hitems
    | badStep h hitem hbad =>
      rw [h] at hitems
      cases hitems
      obtain ⟨i, hi⟩ := List.mem_iff_get.1 hitem
      have hstep := hsteps.get i.2 (hsteps.length_eq ▸ i.2)
      rw [← hi] at hbad
      exact absurd hstep (readStep_of_isSpoiledStep hbad _)

/-- **Reading traces.** A document that shows a trace is read as that trace, however its amounts
of gas are written. A text is an amount of gas exactly if it is a numeral of a word. One bad
amount, one step without a program counter or no steps at all spoil the whole document, and what
is read has a step for every item, in the same order. -/
theorem documents_are_read_whole :
    (∀ (t : Trace) (ms : List (String × Json)), t.ShownBy ms → ofJson (.object ms) = .ok t) ∧
      (∀ (s : String) (n : Nat),
        readCost (.string s) = .ok n ↔ IsCostText s.toList n ∧ n < 2 ^ 64) ∧
      (∀ ms : List (String × Json), IsSpoiled ms → ∃ fault, ofJson (.object ms) = .error fault) ∧
      ∀ (j : Json) (t : Trace), ofJson j = .ok t →
        ∃ ms items, j = .object ms ∧ lastMember? "structLogs" ms = some (.array items) ∧
          List.Forall₂ (fun item s => readStep item.normal = .ok s) items t.steps := by
  refine ⟨?_, ?_, ?_, ?_⟩
  · intro t ms h
    exact h.ofJson_eq
  · intro s n
    exact readCost_string
  · intro ms h
    exact ofJson_of_isSpoiled h
  · intro j t h
    obtain ⟨ms, hms, _, _, _, items, hitems, hsteps⟩ := ofJson_eq_ok_iff.1 h
    exact ⟨ms, items, hms, hitems, hsteps⟩

/-- Costs in three spellings, members in any order and members without a meaning. -/
theorem documents_are_read_whole_mixed :
    let t : Trace := ⟨43512, false, "", [⟨0, "PUSH1", 12, 1⟩, ⟨2, "UNKNOWN", 7, 1⟩]⟩
    let first : List (String × Json) :=
      [("gasCost", .string "0xC"), ("op", .string "PUSH1"), ("pc", .number (.integer 0))]
    let second : List (String × Json) :=
      [("pc", .number (.integer 2)), ("refund", .null), ("gasCost", .string "+07")]
    let ms : List (String × Json) :=
      [("structLogs", .array [.object first, .object second]), ("error", .null),
        ("gas", .number (.integer 43512))]
    t.ShownBy ms ∧ ofJson (.object ms) = .ok t := by
  intro t first second ms
  have hzero : IsDigitOf 10 '0' 0 := ⟨by decide, Or.inl rfl⟩
  have hseven : IsDigitOf 10 '7' 7 := ⟨by decide, Or.inl rfl⟩
  have htwelve : IsDigitOf 16 'C' 12 := ⟨by decide, Or.inr rfl⟩
  have hdecimal : IsNumeral 10 ['0', '7'] 7 :=
    ⟨by decide, [0, 7], .cons hzero (.cons hseven .nil), rfl⟩
  have hhexadecimal : IsNumeral 16 ['C'] 12 := ⟨by decide, [12], .cons htwelve .nil, rfl⟩
  have hfirstCost : IsCost 12 (.string "0xC") :=
    .text ⟨_, Or.inr ⟨Or.inl rfl, hhexadecimal⟩⟩ (by decide)
  have hsecondCost : IsCost 7 (.string "+07") :=
    .text ⟨_, Or.inl ⟨Or.inr rfl, hdecimal⟩⟩ (by decide)
  have hgas : IsCost 43512 (.number (.integer 43512)) := .integer (by decide)
  have hfirst : StepShownBy ⟨0, "PUSH1", 12, 1⟩ first :=
    ⟨⟨_, rfl, by decide, rfl⟩, rfl, hfirstCost, rfl⟩
  have hsecond : StepShownBy ⟨2, "UNKNOWN", 7, 1⟩ second :=
    ⟨⟨_, rfl, by decide, rfl⟩, rfl, hsecondCost, rfl⟩
  have ht : t.ShownBy ms :=
    ⟨hgas, rfl, rfl, [first, second], rfl, .cons hfirst (.cons hsecond .nil)⟩
  exact ⟨ht, documents_are_read_whole.1 t ms ht⟩

end Trace

end GasLens
