/-
  GasLens/Source/Position.lean
  ============================
  **Source maps** — the list of positions that a compiler writes beside its code, one for each
  instruction.

  Records stand between semicolons, and the five fields of a record between colons. A field that
  is empty or missing is no fault; one that is present has to be well-formed. What an empty field
  means is a policy: nothing, or the value of the record before.
-/
import GasLens.Text.Search
import GasLens.Text.Integer
import GasLens.Fault

namespace GasLens.Source

open GasLens.Text

inductive EmptyFieldPolicy where
  /-- No value. -/
  | absent
  /-- The value of the record before. -/
  | inheritPrevious
  deriving DecidableEq, Repr

def EmptyFieldPolicy.name : EmptyFieldPolicy → String
  | .absent => "absent"
  | .inheritPrevious => "inherit-previous"

/-- How a jump relates to functions. -/
inductive Jump where
  | into | out | regular
  deriving DecidableEq, Repr

def Jump.symbol : Jump → Char
  | .into => 'i'
  | .out => 'o'
  | .regular => '-'

def Jump.read? : List Char → Option Jump
  | ['i'] => some .into
  | ['o'] => some .out
  | ['-'] => some .regular
  | _ => none

/-- The position of one instruction in the source. -/
structure Position where
  start : Option Int
  length : Option Int
  file : Option Int
  jump : Option Jump
  modifier : Option Int
  deriving DecidableEq, Repr

namespace Position

def blank : Position := ⟨none, none, none, none, none⟩

/-- A position with its missing values taken from another one. -/
def orElse (p previous : Position) : Position where
  start := p.start <|> previous.start
  length := p.length <|> previous.length
  file := p.file <|> previous.file
  jump := p.jump <|> previous.jump
  modifier := p.modifier <|> previous.modifier

end Position

/-- The field of a number in the record of an index. -/
def fieldAt (fields : List (List Char)) (n : Nat) : List Char := fields.getD n []

/-- A field that holds a whole number of 64 bits, or nothing. -/
def readNumberField (record : Nat) (field : MapField) (value : List Char) :
    Except MapFault (Option Int) :=
  if value.isEmpty then .ok none
  else match readInt64 value with
    | .ok n => .ok (some n)
    | .error _ => .error ⟨record, field, String.ofList value⟩

/-- A field that holds a kind of jump, or nothing. -/
def readJumpField (record : Nat) (value : List Char) : Except MapFault (Option Jump) :=
  if value.isEmpty then .ok none
  else match Jump.read? value with
    | some j => .ok (some j)
    | none => .error ⟨record, .jump, String.ofList value⟩

/-- The record of an index; fields behind the fifth are passed over. -/
def readRecord (record : Nat) (raw : List Char) : Except MapFault Position := do
  let fields := split ':' raw
  let start ← readNumberField record .start (fieldAt fields 0)
  let length ← readNumberField record .length (fieldAt fields 1)
  let file ← readNumberField record .file (fieldAt fields 2)
  let jump ← readJumpField record (fieldAt fields 3)
  let modifier ← readNumberField record .modifier (fieldAt fields 4)
  return ⟨start, length, file, jump, modifier⟩

/-- Records from an index on, as they are written; the first fault counts. -/
def readRecords : Nat → List (List Char) → Except MapFault (List Position)
  | _, [] => .ok []
  | record, raw :: r => do
    let p ← readRecord record raw
    let ps ← readRecords (record + 1) r
    return p :: ps

/-- Positions with their missing values taken from the filled position before. -/
def filledFrom : Position → List Position → List Position
  | _, [] => []
  | previous, p :: r => p.orElse previous :: filledFrom (p.orElse previous) r

def EmptyFieldPolicy.apply : EmptyFieldPolicy → List Position → List Position
  | .absent, ps => ps
  | .inheritPrevious, ps => filledFrom .blank ps

def readPositions (policy : EmptyFieldPolicy) (text : String) :
    Except MapFault (List Position) :=
  (readRecords 0 (split ';' text.toList)).map policy.apply

theorem Position.orElse_blank (p : Position) : p.orElse .blank = p := by
  cases p; simp [orElse, blank]

/-- There is one record more than there are semicolons. -/
theorem length_readRecords {raws : List (List Char)} {record : Nat} {ps : List Position}
    (h : readRecords record raws = .ok ps) : ps.length = raws.length := by
  induction raws generalizing record ps with
  | nil => simp [readRecords] at h; simp [← h]
  | cons raw r ih =>
    unfold readRecords at h
    cases hp : readRecord record raw with
    | error e => simp [hp, bind, Except.bind] at h
    | ok p =>
      cases hr : readRecords (record + 1) r with
      | error e => simp [hp, hr, bind, Except.bind] at h
      | ok qs =>
        simp [hp, hr, bind, Except.bind, pure, Except.pure] at h
        simp [← h, ih hr]

theorem length_filledFrom (previous : Position) (ps : List Position) :
    (filledFrom previous ps).length = ps.length := by
  induction ps generalizing previous with
  | nil => rfl
  | cons p ps ih => exact congrArg (· + 1) (ih (p.orElse previous))

/-- Neither policy adds a position or leaves one out. -/
theorem EmptyFieldPolicy.length_apply (policy : EmptyFieldPolicy) (ps : List Position) :
    (policy.apply ps).length = ps.length := by
  cases policy with
  | absent => rfl
  | inheritPrevious => exact length_filledFrom .blank ps

end GasLens.Source
