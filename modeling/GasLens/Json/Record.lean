/-
  GasLens/Json/Record.lean
  ========================
  **Records in documents** — reading the fields of a record, by name or by position.

  A record is written as an object with the names of its fields, or as an array with the fields
  in the order of their declaration. A name may occur once. Unknown names are skipped unless the
  record is closed. Which fields may be missing depends on the field and on the form.
-/
import GasLens.Json.Basic

namespace GasLens.Json

/-- Whether a field may be missing. -/
inductive Presence where
  /-- The field is never missing. -/
  | required
  /-- The field may be missing among names, but not among positions. -/
  | optional
  /-- The field has a default and may be missing in both forms. -/
  | defaulted
  deriving DecidableEq, Repr

/-- The fields of a record in the order of their declaration. -/
abbrev RecordShape := List (String × Presence)

/-- A field among names: at most once. -/
def namedField (members : List (String × Json)) (field : String × Presence) :
    Option (Option Json) :=
  match members.filter fun m => m.1 == field.1 with
  | [] => if field.2 = .required then none else some none
  | [m] => some (some m.2)
  | _ => none

/-- Fields by position; none may be left over on either side, defaults apart. -/
def positionalFields : RecordShape → List Json → Option (List (Option Json))
  | [], [] => some []
  | [], _ :: _ => none
  | f :: fs, [] =>
    if f.2 = .defaulted then (positionalFields fs []).map (none :: ·) else none
  | _ :: fs, j :: js => (positionalFields fs js).map (some j :: ·)

/-- The fields of a record in the order of their declaration, where they are given. -/
def fields? (shape : RecordShape) (closed : Bool) : Json → Option (List (Option Json))
  | .object members =>
    if closed && !(members.all fun m => shape.any fun f => f.1 == m.1) then none
    else shape.mapM (namedField members)
  | .array items => positionalFields shape items
  | _ => none

def given? {α : Type} (read : Json → Option α) : Option Json → Option α
  | some j => read j
  | none => none

/-- A field read where it is given, else its default. -/
def givenOr? {α : Type} (default : α) (read : Json → Option α) : Option Json → Option α
  | some j => read j
  | none => some default

def givenOptional? {α : Type} (read : Json → Option α) : Option Json → Option (Option α)
  | some j => j.optional? read
  | none => some none

end GasLens.Json
