/-
  GasLens/Proofs/ContractChoice.lean
  ==================================
  **The chosen contract** — which contract a text of the compiler gives, or why it gives none.

  The text lists units, and each unit contracts, in an order of its own (`Listing`). All that is
  said of the choice is said of this list (`Listing.Selects`): of all remarks, then of one unit,
  then of one contract. Reading puts the units and the contracts into maps, where the first name
  is the least one, and the order of the text is gone.

  Each outcome follows from its condition, and one of the conditions always holds. So the
  conditions exclude one another although the choice tests them one after the other.
-/
import GasLens.Compiler.Contract
import GasLens.Proofs.ByteOrder
import GasLens.Proofs.Maps
import Mathlib.Data.List.Permutation

namespace GasLens.Compiler

open GasLens.Text

/-! ### Answers as they are written -/

/-- The members of an object in their order, each read in the same way. -/
def membersIn {α : Type} (read : Json → Option α) : Json → Option (List (String × α))
  | .object members => members.mapM fun m => (read m.2).map fun a => (m.1, a)
  | _ => none

section Members

variable {α β : Type} (read : Json → Option α)

theorem readMap_eq (j : Json) : readMap read j = (membersIn read j).map SortedMap.ofList := by
  cases j <;> rfl

theorem membersIn_map (f : α → β) (j : Json) :
    membersIn (fun j => (read j).map f) j =
      (membersIn read j).map (List.map fun m => (m.1, f m.2)) := by
  cases j with
  | object members =>
    simp only [membersIn]
    induction members with
    | nil => rfl
    | cons m ms ih =>
      rw [List.mapM_cons, List.mapM_cons, ih]
      cases read m.2 with
      | none => rfl
      | some a => cases ms.mapM fun m => (read m.2).map fun a => (m.1, a) <;> rfl
  | _ => rfl

end Members

/-- What the compiler answered, with its units and contracts in the order of the text. -/
structure Listing where
  diagnostics : List Diagnostic
  units : List (String × List (String × Artifact))

namespace Listing

/-- The answer of the compiler, its order kept. -/
def read? (j : Json) : Option Listing :=
  match j.fields? [("errors", .defaulted), ("contracts", .defaulted)] false with
  | some [diagnostics, contracts] => do
    let diagnostics ← Json.givenOr? [] (Json.listOf? readDiagnostic) diagnostics
    let units ← Json.givenOr? [] (membersIn (membersIn readArtifact)) contracts
    return ⟨diagnostics, units⟩
  | _ => none

/-- What the text of an answer lists. -/
def ofText? (text : String) : Option Listing :=
  (Json.readOutline? outputOutline text).bind read?

/-- The answer with its units and contracts in the order of their names. -/
def output (l : Listing) : Output :=
  ⟨l.diagnostics, .ofList (l.units.map fun u => (u.1, .ofList u.2))⟩

/-- An answer is read in its order, and the order is forgotten after that. -/
theorem readOutput_eq (j : Json) : readOutput j = (read? j).map output := by
  have hunits : readMap (readMap readArtifact) = fun j =>
      (membersIn (membersIn readArtifact) j).map fun units =>
        SortedMap.ofList (units.map fun u => (u.1, SortedMap.ofList u.2)) := by
    funext j
    have hunit : readMap readArtifact = fun j =>
        (membersIn readArtifact j).map SortedMap.ofList := funext (readMap_eq readArtifact)
    rw [readMap_eq, hunit, membersIn_map, Option.map_map]
    rfl
  unfold readOutput read?
  generalize j.fields? [("errors", .defaulted), ("contracts", .defaulted)] false = fields
  rcases fields with _ | _ | ⟨diagnostics, _ | ⟨contracts, _ | ⟨_, _⟩⟩⟩
  · rfl
  · rfl
  · rfl
  · simp only [hunits]
    cases Json.givenOr? [] (Json.listOf? readDiagnostic) diagnostics with
    | none => rfl
    | some ds =>
      cases contracts with
      | none => rfl
      | some j =>
        simp only [Json.givenOr?]
        cases membersIn (membersIn readArtifact) j <;> rfl
  · rfl

theorem readText_eq (text : String) :
    (Json.readOutline? outputOutline text).bind readOutput = (ofText? text).map output := by
  rw [ofText?, Option.map_bind]
  congr 1
  funext j
  exact readOutput_eq j

end Listing

/-! ### Codes -/

/-- The code of a contract is more than white space. -/
def Artifact.HasCode (a : Artifact) : Prop := ∃ c ∈ a.runtime.object.toList, isBlank c = false

/-- A library is named whose address is missing. -/
def Code.HasGaps (c : Code) : Prop :=
  ∃ files, c.linkReferences = some files ∧ ∃ file ∈ files.entries, file.2.entries ≠ []

/-- One of the two codes of a contract has gaps. -/
def Artifact.HasGaps (a : Artifact) : Prop := a.creation.HasGaps ∨ a.runtime.HasGaps

theorem isDeployable_iff {a : Artifact} : a.isDeployable = true ↔ a.HasCode := by
  simp [Artifact.isDeployable, Artifact.HasCode, allBlank]

theorem isUnlinked_iff {c : Code} : c.isUnlinked = true ↔ c.HasGaps := by
  unfold Code.isUnlinked Code.HasGaps
  cases c.linkReferences with
  | none => simp
  | some files => simp [SortedMap.values]

theorem isUnlinked_or_iff {a : Artifact} :
    (a.creation.isUnlinked || a.runtime.isUnlinked) = true ↔ a.HasGaps := by
  rw [Bool.or_eq_true, isUnlinked_iff, isUnlinked_iff, Artifact.HasGaps]

/-! ### Contracts of a unit -/

section Unit

variable {unit : List (String × Artifact)} {wanted : Option String}

/-- The contract of the wanted name, or without a name the first one that has code. -/
inductive IsChosen (unit : List (String × Artifact)) : Option String → String × Artifact → Prop
  | named {name : String} {a : Artifact} (hmem : (name, a) ∈ unit) :
      IsChosen unit (some name) (name, a)
  | first {e : String × Artifact} (hmem : e ∈ unit) (hcode : e.2.HasCode)
      (hleast : ∀ e' ∈ unit, e'.2.HasCode → bytesOf e.1 ≤ bytesOf e'.1) : IsChosen unit none e

/-- Why no contract of a unit is chosen. -/
inductive IsMissing (unit : List (String × Artifact)) : Option String → String → Prop
  | unknown {name : String} (hname : ∀ e ∈ unit, e.1 ≠ name) :
      IsMissing unit (some name) ("contract " ++ name ++ " not found in " ++ unitName)
  | codeless (hcode : ∀ e ∈ unit, ¬ e.2.HasCode) :
      IsMissing unit none ("no deployable contract in " ++ unitName)

variable (hnodup : (unit.map Prod.fst).Nodup)

include hnodup

theorem IsChosen.unique {e e' : String × Artifact} (h : IsChosen unit wanted e)
    (h' : IsChosen unit wanted e') : e = e' := by
  have hname : e ∈ unit → e' ∈ unit → e.1 = e'.1 → e = e' := fun hmem hmem' =>
    List.inj_on_of_nodup_map hnodup hmem hmem'
  cases h with
  | named hmem =>
    cases h' with
    | named hmem' => exact hname hmem hmem' rfl
  | first hmem hcode hleast =>
    cases h' with
    | first hmem' hcode' hleast' =>
      have hle := bytesOf_le_iff.1 (hleast e' hmem' hcode')
      have hge := bytesOf_le_iff.1 (hleast' e hmem hcode)
      exact hname hmem hmem' (Std.le_antisymm hle hge)

/-- In the order of their names, the first contract with code has the least name. -/
theorem isChosen_of_find? {e : String × Artifact}
    (h : ((SortedMap.ofList unit).entries.find? fun e => e.2.isDeployable) = some e) :
    IsChosen unit none e := by
  have hperm := SortedMap.entries_ofList_perm hnodup
  have hascending := List.pairwise_map.1 (SortedMap.ofList unit).ascending
  obtain ⟨hcode, before, after, heq, hbefore⟩ := List.find?_eq_some_iff_append.1 h
  refine .first (hperm.mem_iff.1 (List.mem_of_find?_eq_some h)) (isDeployable_iff.1 hcode) ?_
  intro e' hmem hcode'
  rw [bytesOf_le_iff]
  rw [← hperm.mem_iff, heq, List.mem_append] at hmem
  rw [heq, List.pairwise_append, List.pairwise_cons] at hascending
  -- what is listed before has no code, and what is listed after has a greater name
  rcases hmem with hmem | hmem
  · have hnot := hbefore e' hmem
    rw [isDeployable_iff.2 hcode'] at hnot
    cases hnot
  · rcases List.mem_cons.1 hmem with rfl | hmem
    · exact Std.le_refl _
    · exact Std.le_of_lt (hascending.2.1.1 e' hmem)

theorem not_hasCode_of_find? {e : String × Artifact}
    (h : ((SortedMap.ofList unit).entries.find? fun e => e.2.isDeployable) = none)
    (hmem : e ∈ unit) : ¬ e.2.HasCode := by
  intro hcode
  have hlisted := (SortedMap.entries_ofList_perm hnodup).mem_iff.2 hmem
  exact List.find?_eq_none.1 h e hlisted (isDeployable_iff.2 hcode)

theorem select_of_isChosen {e : String × Artifact} (h : IsChosen unit wanted e) :
    select (.ofList unit) wanted = .ok e := by
  cases h with
  | named hmem =>
    rw [select, (SortedMap.get?_ofList_eq_some_iff hnodup).2 hmem]
  | first hmem hcode hleast =>
    rw [select]
    cases hfind : (SortedMap.ofList unit).entries.find? fun e => e.2.isDeployable with
    | none => exact absurd hcode (not_hasCode_of_find? hnodup hfind hmem)
    | some e' =>
      have hfirst : IsChosen unit none e := .first hmem hcode hleast
      rw [hfirst.unique hnodup (isChosen_of_find? hnodup hfind)]

theorem select_of_isMissing {message : String} (h : IsMissing unit wanted message) :
    select (.ofList unit) wanted = .error (.compilation message) := by
  cases h with
  | unknown hname =>
    rename_i name
    rw [select]
    cases hget : (SortedMap.ofList unit).get? name with
    | none => rfl
    | some a =>
      have hmem := (SortedMap.get?_ofList_eq_some_iff hnodup).1 hget
      exact absurd rfl (hname _ hmem)
  | codeless hcode =>
    rw [select]
    cases hfind : (SortedMap.ofList unit).entries.find? fun e => e.2.isDeployable with
    | none => rfl
    | some e =>
      cases isChosen_of_find? hnodup hfind with
      | first hmem hcode' hleast => exact absurd hcode' (hcode e hmem)

theorem isChosen_or_isMissing (wanted : Option String) :
    (∃ e, IsChosen unit wanted e) ∨ ∃ message, IsMissing unit wanted message := by
  cases wanted with
  | some name =>
    by_cases hname : ∃ e ∈ unit, e.1 = name
    · obtain ⟨e, hmem, rfl⟩ := hname
      exact Or.inl ⟨e, .named hmem⟩
    · push Not at hname
      exact Or.inr ⟨_, .unknown hname⟩
  | none =>
    cases hfind : (SortedMap.ofList unit).entries.find? fun e => e.2.isDeployable with
    | some e => exact Or.inl ⟨e, isChosen_of_find? hnodup hfind⟩
    | none => exact Or.inr ⟨_, .codeless fun e hmem => not_hasCode_of_find? hnodup hfind hmem⟩

end Unit

/-! ### Outcomes -/

namespace Listing

variable (l : Listing)

/-- No unit has the name of another, and in a unit no contract has the name of another. -/
structure IsDistinct : Prop where
  units : (l.units.map Prod.fst).Nodup
  contracts : ∀ u ∈ l.units, (u.2.map Prod.fst).Nodup

/-- No remark is an error. -/
def IsSuccess : Prop := ∀ d ∈ l.diagnostics, d.severity ≠ "error"

/-- The texts of the remarks that are errors, one on a line. -/
def errorText : String :=
  "\n".intercalate ((l.diagnostics.filter fun d => d.severity = "error").map Diagnostic.text)

/-- The fields of a contract, with all remarks as warnings. -/
def compiled (source : String) (e : String × Artifact) : CompiledContract where
  name := e.1
  abi := e.2.abi
  creationCode := e.2.creation.object
  runtimeCode := e.2.runtime.object
  runtimeSourceMap := e.2.runtime.sourceMap
  methodIdentifiers := e.2.methodIdentifiers
  warnings := l.diagnostics.map Diagnostic.text
  source := source

/-- The fault of a contract that has gaps in its code. -/
def linksLibraries (name : String) : Fault :=
  .unsupported (name ++ " links external libraries\n(see " ++
    WarningCode.libraryPlaceholder.url ++ ")")

/-- What becomes of an answer. -/
inductive Selects (source : String) (wanted : Option String) :
    Except Fault CompiledContract → Prop
  | errors (h : ¬ l.IsSuccess) : Selects source wanted (.error (.compilation l.errorText))
  | noUnit (h : l.IsSuccess) (hunit : ∀ u ∈ l.units, u.1 ≠ unitName) :
      Selects source wanted (.error (.compilation ("no contracts in " ++ unitName)))
  | missing {unit : List (String × Artifact)} {message : String} (h : l.IsSuccess)
      (hunit : (unitName, unit) ∈ l.units) (hmissing : IsMissing unit wanted message) :
      Selects source wanted (.error (.compilation message))
  | unlinked {unit : List (String × Artifact)} {e : String × Artifact} (h : l.IsSuccess)
      (hunit : (unitName, unit) ∈ l.units) (hchosen : IsChosen unit wanted e)
      (hgaps : e.2.HasGaps) : Selects source wanted (.error (linksLibraries e.1))
  | selected {unit : List (String × Artifact)} {e : String × Artifact} (h : l.IsSuccess)
      (hunit : (unitName, unit) ∈ l.units) (hchosen : IsChosen unit wanted e)
      (hlinked : ¬ e.2.HasGaps) : Selects source wanted (.ok (l.compiled source e))

variable {l} {source : String} {wanted : Option String}

theorem isSuccess_iff : l.IsSuccess ↔ l.output.diagnostics.filter Diagnostic.isError = [] := by
  simp [IsSuccess, output, Diagnostic.isError, List.filter_eq_nil_iff]

theorem get?_contracts_eq_some_iff (hdistinct : l.IsDistinct) {name : String}
    {unit : SortedMap String Artifact} :
    l.output.contracts.get? name = some unit ↔
      ∃ members, (name, members) ∈ l.units ∧ unit = .ofList members := by
  have hnodup : ((l.units.map fun u => (u.1, SortedMap.ofList u.2)).map Prod.fst).Nodup := by
    rw [List.map_map]
    exact hdistinct.units
  rw [output, SortedMap.get?_ofList_eq_some_iff hnodup, List.mem_map]
  constructor
  · rintro ⟨⟨name', members⟩, hmem, heq⟩
    cases heq
    exact ⟨members, hmem, rfl⟩
  · rintro ⟨members, hmem, rfl⟩
    exact ⟨(name, members), hmem, rfl⟩

theorem get?_contracts_of_mem (hdistinct : l.IsDistinct) {unit : List (String × Artifact)}
    (hunit : (unitName, unit) ∈ l.units) :
    l.output.contracts.get? unitName = some (.ofList unit) :=
  (get?_contracts_eq_some_iff hdistinct).2 ⟨unit, hunit, rfl⟩

theorem get?_contracts_of_forall_ne (hdistinct : l.IsDistinct)
    (hunit : ∀ u ∈ l.units, u.1 ≠ unitName) : l.output.contracts.get? unitName = none := by
  cases hget : l.output.contracts.get? unitName with
  | none => rfl
  | some unit =>
    obtain ⟨members, hmem, -⟩ := (get?_contracts_eq_some_iff hdistinct).1 hget
    exact absurd rfl (hunit _ hmem)

theorem contract_of_isChosen (hdistinct : l.IsDistinct) (h : l.IsSuccess)
    {unit : List (String × Artifact)} (hunit : (unitName, unit) ∈ l.units)
    {e : String × Artifact} (hchosen : IsChosen unit wanted e) :
    l.output.contract source wanted =
      if e.2.creation.isUnlinked || e.2.runtime.isUnlinked then .error (linksLibraries e.1)
      else .ok (l.compiled source e) := by
  have hget := get?_contracts_of_mem hdistinct hunit
  have hselect := select_of_isChosen (hdistinct.contracts _ hunit) hchosen
  have hwarnings : (l.output.diagnostics.filter fun d => !d.isError) = l.diagnostics := by
    refine List.filter_eq_self.2 fun d hd => ?_
    simpa [Diagnostic.isError] using h d hd
  simp only [Output.contract, isSuccess_iff.1 h, hget, hselect, hwarnings]
  rfl

/-- Each outcome follows from its condition. -/
theorem contract_of_selects (hdistinct : l.IsDistinct) {r : Except Fault CompiledContract}
    (h : l.Selects source wanted r) : l.output.contract source wanted = r := by
  cases h with
  | errors h =>
    have hfilter : (l.output.diagnostics.filter Diagnostic.isError).isEmpty = false := by
      rw [isSuccess_iff] at h
      exact Bool.eq_false_iff.2 fun hempty => h (List.isEmpty_iff.1 hempty)
    simp only [Output.contract, hfilter]
    rfl
  | noUnit h hunit =>
    have hget := get?_contracts_of_forall_ne hdistinct hunit
    simp only [Output.contract, isSuccess_iff.1 h, hget]
    rfl
  | missing h hunit hmissing =>
    have hget := get?_contracts_of_mem hdistinct hunit
    have hselect := select_of_isMissing (hdistinct.contracts _ hunit) hmissing
    simp only [Output.contract, isSuccess_iff.1 h, hget, hselect]
    rfl
  | unlinked h hunit hchosen hgaps =>
    rw [contract_of_isChosen hdistinct h hunit hchosen, if_pos]
    rwa [isUnlinked_or_iff]
  | selected h hunit hchosen hgaps =>
    rw [contract_of_isChosen hdistinct h hunit hchosen, if_neg]
    rwa [isUnlinked_or_iff]

/-- One of the conditions always holds. -/
theorem exists_selects (hdistinct : l.IsDistinct) (source : String) (wanted : Option String) :
    ∃ r, l.Selects source wanted r := by
  by_cases h : l.IsSuccess
  · by_cases hunit : ∃ u ∈ l.units, u.1 = unitName
    · obtain ⟨⟨_, unit⟩, hmem, rfl⟩ := hunit
      rcases isChosen_or_isMissing (hdistinct.contracts _ hmem) wanted with
        ⟨e, hchosen⟩ | ⟨message, hmissing⟩
      · by_cases hgaps : e.2.HasGaps
        · exact ⟨_, .unlinked h hmem hchosen hgaps⟩
        · exact ⟨_, .selected h hmem hchosen hgaps⟩
      · exact ⟨_, .missing h hmem hmissing⟩
    · push Not at hunit
      exact ⟨_, .noUnit h hunit⟩
  · exact ⟨_, .errors h⟩

theorem contract_eq_iff_selects (hdistinct : l.IsDistinct) {r : Except Fault CompiledContract} :
    l.output.contract source wanted = r ↔ l.Selects source wanted r := by
  constructor
  · rintro rfl
    obtain ⟨r, hr⟩ := exists_selects hdistinct source wanted
    rwa [contract_of_selects hdistinct hr]
  · exact contract_of_selects hdistinct

/-! ### What the choice depends on -/

/-- Two answers have the same remarks, and the unit of the source has the same contracts in both,
in any order. -/
structure Agrees (l l' : Listing) : Prop where
  diagnostics : l.diagnostics = l'.diagnostics
  unit : ∀ unit, (unitName, unit) ∈ l.units →
    ∃ unit', (unitName, unit') ∈ l'.units ∧ unit.Perm unit'
  noUnit : (∀ u ∈ l.units, u.1 ≠ unitName) → ∀ u ∈ l'.units, u.1 ≠ unitName

theorem Agrees.get?_contracts {l' : Listing} (h : l.Agrees l') (hdistinct : l.IsDistinct)
    (hdistinct' : l'.IsDistinct) :
    l.output.contracts.get? unitName = l'.output.contracts.get? unitName := by
  by_cases hunit : ∃ u ∈ l.units, u.1 = unitName
  · obtain ⟨⟨_, unit⟩, hmem, rfl⟩ := hunit
    obtain ⟨unit', hmem', hperm⟩ := h.unit unit hmem
    rw [get?_contracts_of_mem hdistinct hmem, get?_contracts_of_mem hdistinct' hmem',
      SortedMap.ofList_eq_of_perm (hdistinct.contracts _ hmem) hperm]
  · push Not at hunit
    rw [get?_contracts_of_forall_ne hdistinct hunit,
      get?_contracts_of_forall_ne hdistinct' (h.noUnit hunit)]

end Listing

/-- The choice sees the remarks and one unit. -/
theorem Output.contract_congr {o o' : Output} (hdiagnostics : o.diagnostics = o'.diagnostics)
    (hunit : o.contracts.get? unitName = o'.contracts.get? unitName) (source : String)
    (wanted : Option String) : o.contract source wanted = o'.contract source wanted := by
  unfold Output.contract
  rw [hdiagnostics, hunit]

theorem contractOf_eq {text source : String} {wanted : Option String} {l : Listing}
    (hread : Listing.ofText? text = some l) :
    contractOf text source wanted = l.output.contract source wanted := by
  rw [contractOf, Listing.readText_eq, hread]
  rfl

/-- **The chosen contract of a text.** What is read of a text is what it lists, in the order of
the names. With different names, a text gives the outcome whose condition its list fulfils, and
texts that agree on the remarks and on the unit of the source give the same outcome. -/
theorem contractOf_eq_iff_selects (text source : String) (wanted : Option String) :
    (Json.readOutline? outputOutline text).bind readOutput =
        (Listing.ofText? text).map Listing.output ∧
      ∀ l, Listing.ofText? text = some l → l.IsDistinct →
        (∀ r, contractOf text source wanted = r ↔ l.Selects source wanted r) ∧
        ∀ text' l', Listing.ofText? text' = some l' → l'.IsDistinct → l.Agrees l' →
          contractOf text' source wanted = contractOf text source wanted := by
  refine ⟨Listing.readText_eq text, ?_⟩
  intro l hread hdistinct
  constructor
  · intro r
    rw [contractOf_eq hread]
    exact Listing.contract_eq_iff_selects hdistinct
  · intro text' l' hread' hdistinct' hagrees
    rw [contractOf_eq hread, contractOf_eq hread']
    exact (Output.contract_congr hagrees.diagnostics
      (hagrees.get?_contracts hdistinct hdistinct') source wanted).symm

/-- A contract of which only the code is given. -/
def withCode (code : String) : Artifact := ⟨.null, noCode, ⟨code, none, none⟩, .empty⟩

/-- A contract without code comes first by its name, and is passed over in both orders. -/
theorem contractOf_eq_iff_selects_otherOrder :
    contractOf ("\x7b\"contracts\":\x7b\"UserContract.sol\":\x7b" ++
        "\"B\":\x7b\"evm\":\x7b\"deployedBytecode\":\x7b\"object\":\"60\"\x7d\x7d\x7d," ++
        "\"A\":\x7b\x7d\x7d\x7d\x7d") "S" none =
      .ok ⟨"B", .null, "", "60", none, .empty, [], "S"⟩ ∧
    contractOf ("\x7b\"contracts\":\x7b\"L.sol\":\x7b\x7d,\"UserContract.sol\":\x7b" ++
        "\"A\":\x7b\x7d," ++
        "\"B\":\x7b\"evm\":\x7b\"deployedBytecode\":\x7b\"object\":\"60\"\x7d\x7d\x7d" ++
        "\x7d\x7d\x7d") "S" none =
      .ok ⟨"B", .null, "", "60", none, .empty, [], "S"⟩ := by
  let l : Listing := ⟨[], [("UserContract.sol", [("B", withCode "60"), ("A", withCode "")])]⟩
  let l' : Listing :=
    ⟨[], [("L.sol", []), ("UserContract.sol", [("A", withCode ""), ("B", withCode "60")])]⟩
  have hdistinct : l.IsDistinct := ⟨by decide, by simp [l]⟩
  have hdistinct' : l'.IsDistinct := ⟨by decide, by simp [l']⟩
  have hagrees : l.Agrees l' := by
    refine ⟨rfl, ?_, fun hunit => absurd rfl (hunit _ List.mem_cons_self)⟩
    intro unit hunit
    cases List.mem_singleton.1 hunit
    exact ⟨_, List.mem_cons_of_mem _ List.mem_cons_self, List.Perm.swap _ _ _⟩
  have hchosen : IsChosen [("B", withCode "60"), ("A", withCode "")] none
      ("B", withCode "60") := by
    refine .first List.mem_cons_self ⟨'6', by decide, by decide⟩ ?_
    intro e hmem hcode
    rcases List.mem_cons.1 hmem with rfl | hmem
    · exact Std.le_refl _
    · cases List.mem_singleton.1 hmem
      obtain ⟨c, hc, -⟩ := hcode
      cases hc
  have hlinked : ¬ (withCode "60").HasGaps := by
    rintro (⟨files, hfiles, -⟩ | ⟨files, hfiles, -⟩) <;> cases hfiles
  have hboth : ∀ text text', Listing.ofText? text = some l → Listing.ofText? text' = some l' →
      contractOf text "S" none = .ok (l.compiled "S" ("B", withCode "60")) ∧
        contractOf text' "S" none = .ok (l.compiled "S" ("B", withCode "60")) := by
    intro text text' hread hread'
    obtain ⟨hselects, hsame⟩ := (contractOf_eq_iff_selects text "S" none).2 l hread hdistinct
    have hchoice := (hselects _).2 (.selected nofun List.mem_cons_self hchosen hlinked)
    exact ⟨hchoice, (hsame text' l' hread' hdistinct' hagrees).trans hchoice⟩
  exact hboth _ _ (by cbv) (by cbv)

end GasLens.Compiler
