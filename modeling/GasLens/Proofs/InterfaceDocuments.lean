/-
  GasLens/Proofs/InterfaceDocuments.lean
  ======================================
  **The functions of an interface** — a description gives its functions in their order, or fails.

  What is wrong with a document is said for the document as it was written, at any depth
  (`IsMalformedParam`, `IsMalformedFunction`). A reader fails exactly there
  (`readParam_eq_none_iff`, `readFunction_eq_none_iff`), so an entry that does not say that it is
  a function has no part in it. A function that is written is read back whole.
-/
import GasLens.Abi.Document
import GasLens.Proofs.Members
import GasLens.Proofs.Readings

namespace GasLens.Abi

open Json

/-! ### Fields -/

section Fields

variable {α : Type} {read : Json → Option α} {field : Option Json}

theorem string?_normal (j : Json) : j.normal.string? = j.string? := by
  cases j <;> rfl

theorem given?_eq_none_iff :
    given? read (field.map normal) = none ↔
      field = none ∨ ∃ j, field = some j ∧ read j.normal = none := by
  cases field <;> simp [given?]

theorem givenOr?_eq_none_iff {default : α} :
    givenOr? default read (field.map normal) = none ↔
      ∃ j, field = some j ∧ read j.normal = none := by
  cases field <;> simp [givenOr?]

/-- A list is not read if it is no list, or if one of its items is not read. -/
theorem listOf?_normal_eq_none_iff {j : Json} :
    listOf? read j.normal = none ↔
      j.array? = none ∨ ∃ items, j = .array items ∧ ∃ item ∈ items, read item.normal = none := by
  cases j with
  | array items =>
    rw [normal, listOf?, normalItems_eq_map, mapM_eq_none_iff]
    simp [array?]
  | _ => simp [normal, listOf?, array?]

end Fields

/-! ### Parameters -/

/-- A field of a parameter: by its name in an object, and by its place in an array. -/
def paramField (name : String) (place : Nat) : Json → Option Json
  | .object ms => lastMember? name ms
  | .array items => items[place]?
  | _ => none

/-- An array with more items than a parameter has fields. -/
def HasRest : Json → Prop
  | .array items => 3 < items.length
  | _ => False

/-- What is wrong with a parameter, or with one of its components at any depth. -/
inductive IsMalformedParam : Json → Prop
  | rest {j : Json} (h : HasRest j) : IsMalformedParam j
  | name {j n : Json} (hfield : paramField "name" 0 j = some n) (h : n.string? = none) :
      IsMalformedParam j
  | noType {j : Json} (h : paramField "type" 1 j = none) : IsMalformedParam j
  | type {j t : Json} (hfield : paramField "type" 1 j = some t) (h : t.string? = none) :
      IsMalformedParam j
  | components {j cs : Json} (hfield : paramField "components" 2 j = some cs)
      (h : cs.array? = none) : IsMalformedParam j
  | component {j c : Json} {items : List Json}
      (hfield : paramField "components" 2 j = some (.array items)) (hmem : c ∈ items)
      (h : IsMalformedParam c) : IsMalformedParam j

theorem depth_lt_of_paramField {name : String} {place : Nat} {j j' : Json}
    (h : paramField name place j = some j') : j'.normal.depth < j.normal.depth := by
  cases j with
  | object ms => exact depth_lt_of_lastMember? h
  | array items => exact depth_lt_of_mem_items (List.mem_of_getElem? h)
  | _ => cases h

theorem fields?_paramShape {j : Json} (hrest : ¬ HasRest j) :
    j.normal.fields? paramShape false = (paramField "type" 1 j).map fun kind =>
      [(paramField "name" 0 j).map normal, some kind.normal,
        (paramField "components" 2 j).map normal] := by
  cases j with
  | object ms =>
    rw [fields?_normal_object]
    simp only [paramField, paramShape, List.mapM_cons, List.mapM_nil, allowed_defaulted]
    cases lastMember? "type" ms <;> rfl
  | array items =>
    rcases items with _ | ⟨name, _ | ⟨kind, _ | ⟨components, _ | ⟨extra, items⟩⟩⟩⟩
    · rfl
    · rfl
    · rfl
    · rfl
    · exact absurd (Nat.le_add_left 4 items.length) hrest
  | _ => rfl

theorem readParam_of_hasRest {fuel : Nat} {j : Json} (hrest : HasRest j) :
    readParam fuel j.normal = none := by
  cases fuel with
  | zero => rfl
  | succ fuel =>
    match j, hrest with
    | .array (_ :: _ :: _ :: _ :: _), _ => rfl

/-- The fields of a parameter, read one after the other. -/
theorem readParam_normal (fuel : Nat) {j : Json} (hrest : ¬ HasRest j) :
    readParam (fuel + 1) j.normal = do
      let name ← givenOr? "" string? ((paramField "name" 0 j).map normal)
      let kind ← given? string? ((paramField "type" 1 j).map normal)
      let components ←
        givenOr? [] (listOf? (readParam fuel)) ((paramField "components" 2 j).map normal)
      return ⟨name, kind, components⟩ := by
  rw [readParam, fields?_paramShape hrest]
  cases paramField "type" 1 j with
  | none => cases givenOr? "" string? ((paramField "name" 0 j).map normal) <;> rfl
  | some kind => rfl

/-- A parameter is read unless something is wrong with it. -/
theorem readParam_eq_none_iff {fuel : Nat} {j : Json} (hdepth : j.normal.depth < fuel) :
    readParam fuel j.normal = none ↔ IsMalformedParam j := by
  induction fuel generalizing j with
  | zero => cases hdepth
  | succ fuel ih =>
    by_cases hrest : HasRest j
    · exact iff_of_true (readParam_of_hasRest hrest) (.rest hrest)
    · -- components are less deep, so the fuel that is left is enough for them
      have hcomponent : ∀ {items : List Json} {c : Json},
          paramField "components" 2 j = some (.array items) → c ∈ items →
            (readParam fuel c.normal = none ↔ IsMalformedParam c) := by
        intro items c hfield hmem
        have houter := depth_lt_of_paramField hfield
        have hinner := depth_lt_of_mem_items hmem
        exact ih (by omega)
      rw [readParam_normal fuel hrest]
      refine (bind_eq_none_iff_or fun _ => bind_eq_none_iff_or fun _ => bind_eq_none_iff_or fun _ =>
        iff_false_intro (Option.some_ne_none _)).trans ?_
      rw [givenOr?_eq_none_iff, given?_eq_none_iff, givenOr?_eq_none_iff]
      simp only [string?_normal, listOf?_normal_eq_none_iff]
      constructor
      · rintro (⟨n, hfield, h⟩ | (h | ⟨t, hfield, h⟩) | ⟨cs, hfield, h | ⟨items, rfl, c, hmem, h⟩⟩ | h)
        · exact .name hfield h
        · exact .noType h
        · exact .type hfield h
        · exact .components hfield h
        · exact .component hfield hmem ((hcomponent hfield hmem).1 h)
        · exact h.elim
      · intro h
        cases h with
        | rest h => exact absurd h hrest
        | name hfield h => exact Or.inl ⟨_, hfield, h⟩
        | noType h => exact Or.inr (Or.inl (Or.inl h))
        | type hfield h => exact Or.inr (Or.inl (Or.inr ⟨_, hfield, h⟩))
        | components hfield h => exact Or.inr (Or.inr (Or.inl ⟨_, hfield, Or.inl h⟩))
        | component hfield hmem h =>
          exact Or.inr (Or.inr (Or.inl ⟨_, hfield, Or.inr ⟨_, rfl, _, hmem,
            (hcomponent hfield hmem).2 h⟩⟩))

/-! ### Lists of parameters -/

/-- What is wrong with a list of parameters. -/
inductive IsMalformedParams : Json → Prop
  | noList {j : Json} (h : j.array? = none) : IsMalformedParams j
  | param {items : List Json} {p : Json} (hmem : p ∈ items) (h : IsMalformedParam p) :
      IsMalformedParams (.array items)

/-- Parameters cannot be read exactly if one of them is malformed, at whatever depth. -/
theorem readParams_eq_none_iff {j : Json} :
    readParams j.normal = none ↔ IsMalformedParams j := by
  have hparam : ∀ {items : List Json} {p : Json}, j = .array items → p ∈ items →
      (readParam (j.normal.depth + 1) p.normal = none ↔ IsMalformedParam p) := by
    rintro items p rfl hmem
    have hdepth := depth_lt_of_mem_items hmem
    exact readParam_eq_none_iff (by omega)
  rw [readParams, listOf?_normal_eq_none_iff]
  constructor
  · rintro (h | ⟨items, hj, p, hmem, h⟩)
    · exact .noList h
    · have hbad := (hparam hj hmem).1 h
      subst hj
      exact .param hmem hbad
  · intro h
    cases h with
    | noList h => exact Or.inl h
    | param hmem h => exact Or.inr ⟨_, rfl, _, hmem, (hparam rfl hmem).2 h⟩

/-! ### Functions -/

/-- A mutability as a document: its name, or an object with its name alone. -/
def IsMutability (j : Json) : Prop :=
  ∃ m : Mutability, j.normal = .string m.name ∨ j.normal = .object [(m.name, .null)]

/-- What is wrong with a function that has these members. -/
inductive IsMalformedFunction (ms : List (String × Json)) : Prop
  | noName (h : lastMember? "name" ms = none)
  | name {n : Json} (hfield : lastMember? "name" ms = some n) (h : n.string? = none)
  | params {field : String} {ps : Json} (hside : field = "inputs" ∨ field = "outputs")
      (hfield : lastMember? field ms = some ps) (h : IsMalformedParams ps)
  | mutability {m : Json} (hfield : lastMember? "stateMutability" ms = some m)
      (h : ¬ IsMutability m)
  | payable {b : Json} (hfield : lastMember? "payable" ms = some b) (hnull : b ≠ .null)
      (h : b.bool? = none)

theorem ofName?_eq_some_iff {s : String} {m : Mutability} :
    Mutability.ofName? s = some m ↔ s = m.name := by
  constructor
  · unfold Mutability.ofName?
    repeat' split
    all_goals
      intro h
      cases h
    all_goals assumption
  · rintro rfl
    cases m <;> rfl

theorem readMutability_eq_some_iff {j : Json} {m : Mutability} :
    readMutability j = some m ↔ j = .string m.name ∨ j = .object [(m.name, .null)] := by
  constructor
  · unfold readMutability
    split
    · intro h
      rw [ofName?_eq_some_iff.1 h]
      exact Or.inl rfl
    · intro h
      rw [ofName?_eq_some_iff.1 h]
      exact Or.inr rfl
    · exact nofun
  · rintro (rfl | rfl)
    · exact ofName?_eq_some_iff.2 rfl
    · exact ofName?_eq_some_iff.2 rfl

theorem readMutability_eq_none_iff {j : Json} :
    readMutability j.normal = none ↔ ¬ IsMutability j := by
  simp only [Option.eq_none_iff_forall_ne_some, ne_eq, readMutability_eq_some_iff, IsMutability,
    not_exists]

theorem givenOptional?_bool?_eq_none_iff {field : Option Json} :
    givenOptional? bool? (field.map normal) = none ↔
      ∃ b, field = some b ∧ b ≠ .null ∧ b.bool? = none := by
  cases field with
  | none => simp [givenOptional?]
  | some b => cases b <;> simp [givenOptional?, optional?, normal, bool?]

theorem readFunction_normal (ms : List (String × Json)) :
    readFunction (Json.object ms).normal = do
      let name ← given? string? ((lastMember? "name" ms).map normal)
      let inputs ← givenOr? [] readParams ((lastMember? "inputs" ms).map normal)
      let outputs ← givenOr? [] readParams ((lastMember? "outputs" ms).map normal)
      let mutability ←
        givenOr? .nonpayable readMutability ((lastMember? "stateMutability" ms).map normal)
      let payable ← givenOptional? bool? ((lastMember? "payable" ms).map normal)
      return ⟨name, inputs, outputs, mutability, payable⟩ := by
  rw [readFunction, fields?_normal_object]
  simp only [functionShape, List.mapM_cons, List.mapM_nil, allowed_defaulted]
  cases lastMember? "name" ms <;> rfl

/-- A function is read unless something is wrong with it. -/
theorem readFunction_eq_none_iff {ms : List (String × Json)} :
    readFunction (Json.object ms).normal = none ↔ IsMalformedFunction ms := by
  rw [readFunction_normal]
  refine (bind_eq_none_iff_or fun _ => bind_eq_none_iff_or fun _ => bind_eq_none_iff_or fun _ =>
    bind_eq_none_iff_or fun _ => bind_eq_none_iff_or fun _ =>
      iff_false_intro (Option.some_ne_none _)).trans ?_
  simp only [given?_eq_none_iff, givenOr?_eq_none_iff, givenOptional?_bool?_eq_none_iff,
    string?_normal, readParams_eq_none_iff, readMutability_eq_none_iff]
  constructor
  · rintro ((h | ⟨n, hfield, h⟩) | ⟨ps, hfield, h⟩ | ⟨ps, hfield, h⟩ | ⟨m, hfield, h⟩ |
      ⟨b, hfield, hnull, h⟩ | h)
    · exact .noName h
    · exact .name hfield h
    · exact .params (Or.inl rfl) hfield h
    · exact .params (Or.inr rfl) hfield h
    · exact .mutability hfield h
    · exact .payable hfield hnull h
    · exact h.elim
  · intro h
    cases h with
    | noName h => exact Or.inl (Or.inl h)
    | name hfield h => exact Or.inl (Or.inr ⟨_, hfield, h⟩)
    | params hside hfield h =>
      rcases hside with rfl | rfl
      · exact Or.inr (Or.inl ⟨_, hfield, h⟩)
      · exact Or.inr (Or.inr (Or.inl ⟨_, hfield, h⟩))
    | mutability hfield h => exact Or.inr (Or.inr (Or.inr (Or.inl ⟨_, hfield, h⟩)))
    | payable hfield hnull h =>
      exact Or.inr (Or.inr (Or.inr (Or.inr (Or.inl ⟨_, hfield, hnull, h⟩))))

/-! ### Written functions -/

theorem paramsToJson_eq_map (ps : List Param) : paramsToJson ps = ps.map Param.toJson := by
  induction ps with
  | nil => rfl
  | cons p ps ih => rw [paramsToJson, ih, List.map_cons]

theorem listOf?_normal_map {α : Type} {read : Json → Option α} {write : α → Json} {as : List α}
    (h : ∀ a ∈ as, read (write a).normal = some a) :
    listOf? read (Json.array (as.map write)).normal = some as := by
  rw [normal, listOf?, normalItems_eq_map, List.map_map]
  exact mapM_map_of_forall h

theorem not_hasRest_toJson (p : Param) : ¬ HasRest p.toJson := by
  obtain ⟨name, kind, components⟩ := p
  cases components <;> simp [Param.toJson, HasRest]

/-- Without components their member is left out. -/
theorem paramField_toJson (p : Param) :
    paramField "name" 0 p.toJson = some (.string p.name) ∧
      paramField "type" 1 p.toJson = some (.string p.kind) ∧
      paramField "components" 2 p.toJson =
        if p.components.isEmpty then none else some (.array (p.components.map Param.toJson)) := by
  obtain ⟨name, kind, components⟩ := p
  cases components <;> simp [Param.toJson, paramField, lastMember?, paramsToJson_eq_map]

theorem depth_toJson_lt {p c : Param} (hmem : c ∈ p.components) :
    c.toJson.normal.depth < p.toJson.normal.depth := by
  have hfield := (paramField_toJson p).2.2
  rw [if_neg (by simpa using List.ne_nil_of_mem hmem)] at hfield
  exact Nat.lt_trans (depth_lt_of_mem_items (List.mem_map_of_mem hmem))
    (depth_lt_of_paramField hfield)

theorem readParam_toJson {fuel : Nat} {p : Param} (hdepth : p.toJson.normal.depth < fuel) :
    readParam fuel p.toJson.normal = some p := by
  induction fuel generalizing p with
  | zero => cases hdepth
  | succ fuel ih =>
    obtain ⟨hname, hkind, hfield⟩ := paramField_toJson p
    have hcomponents : givenOr? [] (listOf? (readParam fuel))
        ((paramField "components" 2 p.toJson).map normal) = some p.components := by
      rw [hfield]
      split
      · rename_i hempty
        rw [List.isEmpty_iff.1 hempty]
        rfl
      · apply listOf?_normal_map
        intro c hmem
        have hlt := depth_toJson_lt hmem
        exact ih (by omega)
    rw [readParam_normal fuel (not_hasRest_toJson p), hname, hkind, hcomponents]
    cases p
    rfl

theorem readParams_toJson (ps : List Param) :
    readParams (Json.array (paramsToJson ps)).normal = some ps := by
  rw [paramsToJson_eq_map]
  refine listOf?_normal_map fun p hmem => readParam_toJson ?_
  exact Nat.lt_succ_of_lt (depth_lt_of_mem_items (List.mem_map_of_mem hmem))

/-- The members of a function among the entries of a description. -/
def entryMembers (f : Function) : List (String × Json) := ("type", .string "function") :: f.members

theorem lastMember?_entryMembers (f : Function) :
    lastMember? "type" (entryMembers f) = some (.string "function") ∧
      lastMember? "name" (entryMembers f) = some (.string f.name) ∧
      lastMember? "inputs" (entryMembers f) = some (.array (paramsToJson f.inputs)) ∧
      lastMember? "outputs" (entryMembers f) = some (.array (paramsToJson f.outputs)) ∧
      lastMember? "stateMutability" (entryMembers f) = some (.string f.mutability.name) ∧
      lastMember? "payable" (entryMembers f) = f.payable.map .bool := by
  cases hpayable : f.payable <;>
    simp [entryMembers, Function.members, lastMember?, hpayable]

/-- A function that is written is read back. -/
theorem readFunction_entryMembers (f : Function) :
    readFunction (Json.object (entryMembers f)).normal = some f := by
  obtain ⟨-, hname, hinputs, houtputs, hmutability, hpayable⟩ := lastMember?_entryMembers f
  have hreadParams : ∀ ps : List Param, givenOr? [] readParams
      ((some (Json.array (paramsToJson ps))).map normal) = some ps := readParams_toJson
  have hreadMutability : givenOr? .nonpayable readMutability
      ((some (Json.string f.mutability.name)).map normal) = some f.mutability :=
    readMutability_eq_some_iff.2 (Or.inl rfl)
  have hreadPayable : givenOptional? bool? ((f.payable.map Json.bool).map normal) =
      some f.payable := by
    cases f.payable <;> rfl
  rw [readFunction_normal, hname, hinputs, houtputs, hmutability, hpayable, hreadParams,
    hreadParams, hreadMutability, hreadPayable]
  rfl

/-! ### Descriptions -/

/-- A document is a function, as a value: the order of its members does not matter. -/
def Encodes (f : Function) (j : Json) : Prop := j.normal = (Json.object (entryMembers f)).normal

/-- Functions in their order, with other entries between them. -/
inductive Interleaves : List Function → List Json → Prop
  | nil : Interleaves [] []
  | function {f : Function} {fs : List Function} {j : Json} {js : List Json}
      (hentry : Encodes f j) (hrest : Interleaves fs js) : Interleaves (f :: fs) (j :: js)
  | other {fs : List Function} {j : Json} {js : List Json}
      (hother : j.member? "type" ≠ some (.string "function")) (hrest : Interleaves fs js) :
      Interleaves fs (j :: js)

/-- An entry that says it is a function, and has something wrong with it. -/
def IsMalformedEntry (j : Json) : Prop :=
  ∃ ms, j = .object ms ∧ lastMember? "type" ms = some (.string "function") ∧ IsMalformedFunction ms

theorem isFunctionEntry_normal {j : Json} :
    isFunctionEntry j.normal = true ↔ j.member? "type" = some (.string "function") := by
  cases j with
  | object ms =>
    rw [normal, isFunctionEntry, member?, lastMember?_normal, member?]
    cases lastMember? "type" ms with
    | none => simp
    | some t => cases t <;> simp [normal]
  | _ => simp [normal, isFunctionEntry, member?]

theorem encodes_of_perm {f : Function} {ms : List (String × Json)}
    (hperm : (entryMembers f).Perm ms) : Encodes f (.object ms) := by
  have hnodup : ((entryMembers f).map Prod.fst).Nodup := by
    cases hpayable : f.payable <;> simp [entryMembers, Function.members, hpayable]
  exact (normal_object_of_perm hnodup hperm).symm

theorem Encodes.isFunctionEntry {f : Function} {j : Json} (h : Encodes f j) :
    isFunctionEntry j.normal = true := by
  rw [h, isFunctionEntry_normal]
  exact (lastMember?_entryMembers f).1

theorem Encodes.readFunction {f : Function} {j : Json} (h : Encodes f j) :
    readFunction j.normal = some f := by
  rw [h, readFunction_entryMembers]

theorem functionsOf_array (entries : List Json) :
    functionsOf (.array entries) = functionsOfEntries (entries.map normal) := by
  rw [functionsOf, normal, normalItems_eq_map]

theorem Interleaves.functionsOfEntries {fs : List Function} {js : List Json}
    (h : Interleaves fs js) : functionsOfEntries (js.map normal) = .ok fs := by
  induction h with
  | nil => rfl
  | function hentry hrest ih =>
    rw [List.map_cons, Abi.functionsOfEntries, if_pos hentry.isFunctionEntry, hentry.readFunction,
      ih]
    rfl
  | other hother hrest ih =>
    rw [List.map_cons, Abi.functionsOfEntries, if_neg (mt isFunctionEntry_normal.1 hother)]
    exact ih

theorem readFunction_normal_eq_none_iff {j : Json} (hentry : isFunctionEntry j.normal = true) :
    readFunction j.normal = none ↔ IsMalformedEntry j := by
  rw [isFunctionEntry_normal] at hentry
  cases j with
  | object ms =>
    rw [readFunction_eq_none_iff]
    constructor
    · intro h
      exact ⟨ms, rfl, hentry, h⟩
    · rintro ⟨ms', hms, -, h⟩
      cases hms
      exact h
  | _ => cases hentry

theorem IsMalformedEntry.isFunctionEntry {j : Json} (h : IsMalformedEntry j) :
    isFunctionEntry j.normal = true := by
  obtain ⟨ms, rfl, htype, -⟩ := h
  exact isFunctionEntry_normal.2 htype

/-- The functions of a description are read unless something is wrong with one of them. -/
theorem exists_error_functionsOfEntries_iff {js : List Json} :
    (∃ fault, functionsOfEntries (js.map normal) = .error fault) ↔
      ∃ j ∈ js, IsMalformedEntry j := by
  induction js with
  | nil => exact iff_of_false nofun nofun
  | cons j js ih =>
    rw [List.exists_mem_cons_iff, ← ih, List.map_cons]
    by_cases hentry : isFunctionEntry j.normal = true
    · rw [Abi.functionsOfEntries, if_pos hentry, ← readFunction_normal_eq_none_iff hentry]
      cases readFunction j.normal with
      | none => simp
      | some f => simp [map_eq_error_iff]
    · have hother : ¬ IsMalformedEntry j := fun h => hentry h.isFunctionEntry
      rw [Abi.functionsOfEntries, if_neg hentry]
      simp only [hother, false_or]

/-- **The functions of a description.** Functions that are written between any other entries are
read back as they are, in their order. A description is not read if and only if one of the
entries that say they are functions is malformed, whatever the other entries are. -/
theorem functionsOf_array_of_interleaves (entries : List Json) :
    (∀ fs, Interleaves fs entries → functionsOf (.array entries) = .ok fs) ∧
      ((∃ fault, functionsOf (.array entries) = .error fault) ↔
        ∃ j ∈ entries, IsMalformedEntry j) := by
  rw [functionsOf_array]
  constructor
  · intro fs h
    exact h.functionsOfEntries
  · exact exists_error_functionsOfEntries_iff

/-- The type of an entry may come last, and a component without a type spoils the whole. -/
theorem functionsOf_array_of_interleaves_fill :
    let f : Function :=
      ⟨"fill", [⟨"order", "tuple", [⟨"id", "uint256", []⟩]⟩], [], .payable, some true⟩
    let event : Json := .object [("type", .string "event"), ("name", .null)]
    let written : Json := .object (f.members ++ [("type", .string "function")])
    let spoilt : Json := .object [("type", .string "function"), ("name", .string "g"),
      ("inputs", .array [.object [("type", .string "tuple"), ("components", .array [.object []])]])]
    Interleaves [f] [.null, event, written] ∧
      functionsOf (.array [.null, event, written]) = .ok [f] ∧
      ∃ fault, functionsOf (.array [event, written, spoilt]) = .error fault := by
  intro f event written spoilt
  have hwritten : Encodes f written := encodes_of_perm (List.perm_append_singleton _ _).symm
  have hfs : Interleaves [f] [.null, event, written] :=
    .other nofun (.other (by simp [event, member?, lastMember?]) (.function hwritten .nil))
  have hcomponent : IsMalformedParam
      (.object [("type", .string "tuple"), ("components", .array [.object []])]) :=
    .component rfl List.mem_cons_self (.noType rfl)
  have hspoilt : IsMalformedEntry spoilt :=
    ⟨_, rfl, rfl, .params (Or.inl rfl) rfl (.param List.mem_cons_self hcomponent)⟩
  exact ⟨hfs, (functionsOf_array_of_interleaves _).1 _ hfs,
    (functionsOf_array_of_interleaves _).2.2 ⟨spoilt, by simp, hspoilt⟩⟩

end GasLens.Abi
