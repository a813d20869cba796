/-
  GasLens/Proofs/SourceMapGrammar.lean
  ====================================
  **Which texts are source maps** — the fields that may stand in a text, and the one that is
  reported if a text is refused.

  What a text holds is said with the library's `List.splitOn` and by the names of the fields, not
  by how the fields are read. A reading that succeeds has refused no field
  (`not_isMalformed_of_readRecords`), and one that fails reports the malformed field that comes
  first (`isFirstMalformed_of_readRecords`). A reading does one or the other, and there is one
  first malformed field, so both hold the other way round as well.
-/
import GasLens.Proofs.Readings
import GasLens.Proofs.SourceMapText
import Mathlib.Data.Prod.Lex

namespace GasLens

open GasLens.Text

/-! ### Fields -/

/-- The names of the fields in their order. -/
def fieldNames : List String := ["start", "length", "file", "jump", "modifier"]

namespace MapField

/-- The place of a field in its record is that of its name. -/
def index (field : MapField) : Nat := fieldNames.idxOf field.name

/-- A jump is one of three characters, and any other field a whole number of 64 bits. -/
def IsWellFormed : MapField → List Char → Prop
  | .jump, value => value = ['i'] ∨ value = ['o'] ∨ value = ['-']
  | .start, value | .length, value | .file, value | .modifier, value =>
    ∃ n, IsInteger value n ∧ IsInt64 n

/-- A field refuses a text that is neither empty nor well-formed. -/
def Refuses (field : MapField) (value : List Char) : Prop :=
  value ≠ [] ∧ ¬ field.IsWellFormed value

theorem index_injective : Function.Injective index := by
  have hfield : ∀ f : MapField, [start, length, file, jump, modifier][f.index]? = some f := by
    intro f
    cases f <;> rfl
  intro f g h
  have hf := hfield f
  rw [h, hfield g] at hf
  exact (Option.some.inj hf).symm

theorem isWellFormed_iff_of_ne {field : MapField} {value : List Char} (h : field ≠ .jump) :
    field.IsWellFormed value ↔ ∃ n, readInt64 value = .ok n := by
  simp only [readInt64_eq_ok_iff]
  cases field with
  | jump => exact absurd rfl h
  | _ => exact Iff.rfl

end MapField

namespace Source

theorem Jump.read?_eq_some_iff {value : List Char} {j : Jump} :
    Jump.read? value = some j ↔ value = [j.symbol] := by
  constructor
  · intro h
    unfold Jump.read? at h
    split at h <;> cases h <;> rfl
  · rintro rfl
    cases j <;> rfl

theorem isWellFormed_jump_iff {value : List Char} :
    MapField.jump.IsWellFormed value ↔ ∃ j, Jump.read? value = some j := by
  simp only [Jump.read?_eq_some_iff]
  constructor
  · rintro (h | h | h)
    · exact ⟨.into, h⟩
    · exact ⟨.out, h⟩
    · exact ⟨.regular, h⟩
  · rintro ⟨j, h⟩
    cases j with
    | into => exact Or.inl h
    | out => exact Or.inr (Or.inl h)
    | regular => exact Or.inr (Or.inr h)

section Fields

variable {record : Nat} {field : MapField} {value : List Char} {e : MapFault}

/-- A field of a number fails exactly on the texts that it refuses. -/
theorem readNumberField_eq_error_iff (h : field ≠ .jump) :
    readNumberField record field value = .error e ↔
      field.Refuses value ∧ e = ⟨record, field, String.ofList value⟩ := by
  rw [MapField.Refuses, MapField.isWellFormed_iff_of_ne h]
  unfold readNumberField
  cases value with
  | nil => simp
  | cons c cs => cases readInt64 (c :: cs) <;> simp [eq_comm]

theorem readJumpField_eq_error_iff :
    readJumpField record value = .error e ↔
      MapField.jump.Refuses value ∧ e = ⟨record, .jump, String.ofList value⟩ := by
  rw [MapField.Refuses, isWellFormed_jump_iff]
  unfold readJumpField
  cases value with
  | nil => simp
  | cons c cs => cases Jump.read? (c :: cs) <;> simp [eq_comm]

theorem not_refuses_of_readNumberField {o : Option Int} (hfield : field ≠ .jump)
    (h : readNumberField record field value = .ok o) : ¬ field.Refuses value := by
  intro hrefuses
  rw [(readNumberField_eq_error_iff hfield).2 ⟨hrefuses, rfl⟩] at h
  cases h

theorem not_refuses_of_readJumpField {o : Option Jump} (h : readJumpField record value = .ok o) :
    ¬ MapField.jump.Refuses value := by
  intro hrefuses
  rw [readJumpField_eq_error_iff.2 ⟨hrefuses, rfl⟩] at h
  cases h

end Fields

/-! ### Records -/

/-- The text of a field in a record, where a missing field is empty. -/
def fieldOf (raw : List Char) (field : MapField) : List Char := fieldAt (split ':' raw) field.index

section Records

variable {record : Nat} {raw value : List Char} {field : MapField} {e : MapFault} {p : Position}

theorem fieldOf_eq_of_getElem? (h : (raw.splitOn ':')[field.index]? = some value) :
    fieldOf raw field = value := by
  rw [fieldOf, fieldAt, split_eq_splitOn, List.getD_eq_getElem?_getD, h, Option.getD_some]

/-- A field that is not empty is not missing. -/
theorem getElem?_fieldOf (h : fieldOf raw field ≠ []) :
    (raw.splitOn ':')[field.index]? = some (fieldOf raw field) := by
  rw [fieldOf, fieldAt, split_eq_splitOn, List.getD_eq_getElem?_getD] at h ⊢
  cases hvalue : (raw.splitOn ':')[field.index]? with
  | none =>
    rw [hvalue] at h
    exact absurd rfl h
  | some value => rfl

theorem readRecord_eq (record : Nat) (raw : List Char) :
    readRecord record raw = do
      let start ← readNumberField record .start (fieldOf raw .start)
      let length ← readNumberField record .length (fieldOf raw .length)
      let file ← readNumberField record .file (fieldOf raw .file)
      let jump ← readJumpField record (fieldOf raw .jump)
      let modifier ← readNumberField record .modifier (fieldOf raw .modifier)
      return ⟨start, length, file, jump, modifier⟩ :=
  rfl

theorem not_refuses_of_readRecord (h : readRecord record raw = .ok p) (field : MapField) :
    ¬ field.Refuses (fieldOf raw field) := by
  simp only [readRecord_eq, bind_eq_ok_iff] at h
  obtain ⟨_, hstart, _, hlength, _, hfile, _, hjump, _, hmodifier, -⟩ := h
  cases field with
  | start => exact not_refuses_of_readNumberField (by decide) hstart
  | length => exact not_refuses_of_readNumberField (by decide) hlength
  | file => exact not_refuses_of_readNumberField (by decide) hfile
  | jump => exact not_refuses_of_readJumpField hjump
  | modifier => exact not_refuses_of_readNumberField (by decide) hmodifier

/-- No field before one refuses its text. -/
def AcceptsBefore (raw : List Char) (field : MapField) : Prop :=
  ∀ before : MapField, before.index < field.index → ¬ before.Refuses (fieldOf raw before)

/-- A fault is of the first field in a record that refuses its text. -/
structure IsFirstRefused (record : Nat) (raw : List Char) (e : MapFault) : Prop where
  record_eq : e.record = record
  value_eq : e.value.toList = fieldOf raw e.field
  refuses : e.field.Refuses (fieldOf raw e.field)
  before : AcceptsBefore raw e.field

theorem acceptsBefore_start (raw : List Char) : AcceptsBefore raw .start :=
  fun _ h => absurd h (Nat.not_lt_zero _)

theorem AcceptsBefore.next {next : MapField} (h : AcceptsBefore raw field)
    (hfield : ¬ field.Refuses (fieldOf raw field)) (hnext : next.index = field.index + 1) :
    AcceptsBefore raw next := by
  intro before hlt
  rw [hnext] at hlt
  rcases Nat.lt_succ_iff_lt_or_eq.1 hlt with hlt | heq
  · exact h before hlt
  · rw [MapField.index_injective heq]
    exact hfield

theorem AcceptsBefore.isFirstRefused (h : AcceptsBefore raw field)
    (he : field.Refuses (fieldOf raw field) ∧
      e = ⟨record, field, String.ofList (fieldOf raw field)⟩) : IsFirstRefused record raw e := by
  obtain ⟨hrefuses, rfl⟩ := he
  exact ⟨rfl, String.toList_ofList, hrefuses, h⟩

/-- Reading a record fails at the first field that refuses its text. -/
theorem isFirstRefused_of_readRecord (h : readRecord record raw = .error e) :
    IsFirstRefused record raw e := by
  simp only [readRecord_eq, bind_eq_error_iff] at h
  -- a field is read only if those before it have been, so each step adds one that accepts its text
  have hstart := acceptsBefore_start raw
  rcases h with h | ⟨_, hread, h⟩
  · exact hstart.isFirstRefused ((readNumberField_eq_error_iff (by decide)).1 h)
  have hlength : AcceptsBefore raw .length :=
    hstart.next (not_refuses_of_readNumberField (by decide) hread) rfl
  rcases h with h | ⟨_, hread, h⟩
  · exact hlength.isFirstRefused ((readNumberField_eq_error_iff (by decide)).1 h)
  have hfile : AcceptsBefore raw .file :=
    hlength.next (not_refuses_of_readNumberField (by decide) hread) rfl
  rcases h with h | ⟨_, hread, h⟩
  · exact hfile.isFirstRefused ((readNumberField_eq_error_iff (by decide)).1 h)
  have hjump : AcceptsBefore raw .jump :=
    hfile.next (not_refuses_of_readNumberField (by decide) hread) rfl
  rcases h with h | ⟨_, hread, h⟩
  · exact hjump.isFirstRefused (readJumpField_eq_error_iff.1 h)
  have hmodifier : AcceptsBefore raw .modifier :=
    hjump.next (not_refuses_of_readJumpField hread) rfl
  rcases h with h | ⟨_, _, h⟩
  · exact hmodifier.isFirstRefused ((readNumberField_eq_error_iff (by decide)).1 h)
  · cases h

end Records

/-! ### Source maps -/

def recordsOf (text : String) : List (List Char) := text.toList.splitOn ';'

/-- The texts between the colons of a record are its fields. -/
def HasField (raws : List (List Char)) (record : Nat) (field : MapField) (value : List Char) :
    Prop :=
  ∃ raw, raws[record]? = some raw ∧ (raw.splitOn ':')[field.index]? = some value

/-- A field is neither empty nor well-formed. -/
def IsMalformed (raws : List (List Char)) (record : Nat) (field : MapField) (value : List Char) :
    Prop :=
  HasField raws record field value ∧ field.Refuses value

/-- The place of a field in a source map: records come one after another, and so do the fields
of a record. -/
def place (record : Nat) (field : MapField) : ℕ ×ₗ ℕ := toLex (record, field.index)

/-- A fault is of the malformed field that comes first. -/
structure IsFirstMalformed (raws : List (List Char)) (e : MapFault) : Prop where
  malformed : IsMalformed raws e.record e.field e.value.toList
  first : ∀ record field value, IsMalformed raws record field value →
    place e.record e.field ≤ place record field

section Maps

variable {raws : List (List Char)} {raw value : List Char} {start record record' : Nat}
  {field field' : MapField} {e e' : MapFault} {ps : List Position} {policy : EmptyFieldPolicy}
  {text : String}

theorem place_le_iff :
    place record field ≤ place record' field' ↔
      record < record' ∨ record = record' ∧ field.index ≤ field'.index :=
  Prod.Lex.toLex_le_toLex

theorem isMalformed_iff :
    IsMalformed raws record field value ↔
      ∃ raw, raws[record]? = some raw ∧ value = fieldOf raw field ∧ field.Refuses value := by
  constructor
  · rintro ⟨⟨raw, hraw, hvalue⟩, hrefuses⟩
    exact ⟨raw, hraw, (fieldOf_eq_of_getElem? hvalue).symm, hrefuses⟩
  · rintro ⟨raw, hraw, rfl, hrefuses⟩
    exact ⟨⟨raw, hraw, getElem?_fieldOf hrefuses.1⟩, hrefuses⟩

theorem isMalformed_cons_zero :
    IsMalformed (raw :: raws) 0 field value ↔ value = fieldOf raw field ∧ field.Refuses value := by
  simp [isMalformed_iff]

theorem isMalformed_cons_succ :
    IsMalformed (raw :: raws) (record + 1) field value ↔ IsMalformed raws record field value :=
  Iff.rfl

/-- There is one first malformed field. -/
theorem IsFirstMalformed.unique (h : IsFirstMalformed raws e) (h' : IsFirstMalformed raws e') :
    e = e' := by
  have hplace := le_antisymm (h.first _ _ _ h'.malformed) (h'.first _ _ _ h.malformed)
  obtain ⟨hrecord, hindex⟩ := Prod.mk.inj (toLex.injective hplace)
  have hfield := MapField.index_injective hindex
  obtain ⟨raw, hraw, hvalue, -⟩ := isMalformed_iff.1 h.malformed
  obtain ⟨raw', hraw', hvalue', -⟩ := isMalformed_iff.1 h'.malformed
  rw [← hrecord, hraw] at hraw'
  cases hraw'
  rw [← hfield, ← hvalue] at hvalue'
  rw [MapFault.mk.injEq]
  exact ⟨hrecord, hfield, (String.toList_injective hvalue').symm⟩

theorem not_isMalformed_of_readRecords (h : readRecords start raws = .ok ps) :
    ¬ IsMalformed raws record field value := by
  induction raws generalizing start record ps with
  | nil =>
    rintro ⟨⟨raw, hraw, -⟩, -⟩
    cases hraw
  | cons raw raws ih =>
    simp only [readRecords, bind_eq_ok_iff] at h
    obtain ⟨p, hp, rest, hrest, -⟩ := h
    cases record with
    | zero =>
      rw [isMalformed_cons_zero]
      rintro ⟨rfl, hrefuses⟩
      exact not_refuses_of_readRecord hp field hrefuses
    | succ record =>
      rw [isMalformed_cons_succ]
      exact ih hrest

/-- A text that is not read has a malformed field, and the first one is reported. -/
theorem isFirstMalformed_of_readRecords (h : readRecords start raws = .error e) :
    ∃ record, e.record = start + record ∧ IsFirstMalformed raws { e with record } := by
  induction raws generalizing start with
  | nil => cases h
  | cons raw raws ih =>
    simp only [readRecords, bind_eq_error_iff] at h
    rcases h with h | ⟨p, hp, h | ⟨_, _, h⟩⟩
    · have hfirst := isFirstRefused_of_readRecord h
      refine ⟨0, hfirst.record_eq, ?_, ?_⟩
      · rw [isMalformed_cons_zero, hfirst.value_eq]
        exact ⟨rfl, hfirst.refuses⟩
      · intro record field value hmalformed
        rw [place_le_iff]
        cases record with
        | zero =>
          obtain ⟨rfl, hrefuses⟩ := isMalformed_cons_zero.1 hmalformed
          exact Or.inr ⟨rfl, Nat.not_lt.1 fun hlt => hfirst.before field hlt hrefuses⟩
        | succ record => exact Or.inl (Nat.succ_pos record)
    -- the first record has been read, so it has no malformed field that could come first
    · obtain ⟨first, hrecord, hfirst⟩ := ih h
      refine ⟨first + 1, by omega, hfirst.malformed, ?_⟩
      intro record field value hmalformed
      rw [place_le_iff]
      cases record with
      | zero =>
        obtain ⟨rfl, hrefuses⟩ := isMalformed_cons_zero.1 hmalformed
        exact absurd hrefuses (not_refuses_of_readRecord hp field)
      | succ record =>
        rcases place_le_iff.1 (hfirst.first record field value hmalformed) with hlt | ⟨heq, hle⟩
        · exact Or.inl (Nat.succ_lt_succ hlt)
        · exact Or.inr ⟨congrArg Nat.succ heq, hle⟩
    · cases h

theorem readPositions_eq (policy : EmptyFieldPolicy) (text : String) :
    readPositions policy text = (readRecords 0 (recordsOf text)).map policy.apply := by
  rw [readPositions, split_eq_splitOn, recordsOf]

theorem exists_readPositions_iff :
    (∃ ps, readPositions policy text = .ok ps) ↔
      ∀ record field value, ¬ IsMalformed (recordsOf text) record field value := by
  simp only [readPositions_eq, map_eq_ok_iff]
  constructor
  · rintro ⟨_, ps, hps, -⟩ record field value
    exact not_isMalformed_of_readRecords hps
  · intro hnone
    cases hread : readRecords 0 (recordsOf text) with
    | error e =>
      obtain ⟨record, -, hfirst⟩ := isFirstMalformed_of_readRecords hread
      exact absurd hfirst.malformed (hnone _ _ _)
    | ok ps => exact ⟨_, ps, rfl, rfl⟩

theorem length_readPositions (h : readPositions policy text = .ok ps) :
    ps.length = text.toList.count ';' + 1 := by
  rw [readPositions, map_eq_ok_iff] at h
  obtain ⟨qs, hqs, rfl⟩ := h
  rw [policy.length_apply, length_readRecords hqs, length_split]

/-- The first malformed field is reported, and nothing else is. -/
theorem readPositions_eq_error_iff :
    readPositions policy text = .error e ↔ IsFirstMalformed (recordsOf text) e := by
  have hfirst : ∀ {e}, readPositions policy text = .error e →
      IsFirstMalformed (recordsOf text) e := by
    intro e h
    rw [readPositions_eq, map_eq_error_iff] at h
    obtain ⟨record, hrecord, hfirst⟩ := isFirstMalformed_of_readRecords h
    rw [Nat.zero_add] at hrecord
    rwa [← hrecord] at hfirst
  constructor
  · exact hfirst
  · intro he
    cases hread : readPositions policy text with
    | error e' => rw [he.unique (hfirst hread)]
    | ok ps => exact absurd he.malformed (exists_readPositions_iff.1 ⟨ps, hread⟩ _ _ _)

/-- **The grammar of source maps.** A text is read exactly if each of the first five fields of
each of its records is empty or well-formed, and there is then one position more than there are
semicolons. If it is not read, the malformed field that comes first is reported. -/
theorem readPositions_grammar (policy : EmptyFieldPolicy) (text : String) :
    ((∃ ps, readPositions policy text = .ok ps) ↔
        ∀ record field value, HasField (recordsOf text) record field value →
          value = [] ∨ field.IsWellFormed value) ∧
      (∀ ps, readPositions policy text = .ok ps → ps.length = text.toList.count ';' + 1) ∧
      ∀ e, readPositions policy text = .error e ↔ IsFirstMalformed (recordsOf text) e := by
  refine ⟨?_, fun ps => length_readPositions, fun e => readPositions_eq_error_iff⟩
  rw [exists_readPositions_iff]
  simp only [IsMalformed, MapField.Refuses, not_and, not_not, or_iff_not_imp_left]

/-- Of three malformed fields, the jump in the second record comes first; the surplus field in the
first record is none of them. -/
example :
    readPositions .absent "1:2:3:i:4:x;5:::-o:+;y" = .error ⟨1, .jump, "-o"⟩ := by
  decide +kernel

end Maps

end Source

end GasLens
