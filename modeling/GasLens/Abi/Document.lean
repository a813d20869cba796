/-
  GasLens/Abi/Document.lean
  =========================
  **Interface documents** — the functions of an interface description, read from its document
  and written into one.

  Only entries that say they are functions are read; one of these that is not well-formed spoils
  the whole document, and no other entry matters.
-/
import GasLens.Abi.Function
import GasLens.Json.Record
import GasLens.Fault

namespace GasLens.Abi

/-! ### Writing -/

mutual

/-- A parameter as a document. Without components their member is left out. -/
def Param.toJson : Param → Json
  | ⟨name, kind, components⟩ =>
    .object ([("name", .string name), ("type", .string kind)] ++
      match components with
      | [] => []
      | c :: cs => [("components", .array (c.toJson :: paramsToJson cs))])

def paramsToJson : List Param → List Json
  | [] => []
  | p :: ps => p.toJson :: paramsToJson ps

end

/-- The members of a function; the flag is left out where it is not given. -/
def Function.members (f : Function) : List (String × Json) :=
  [("name", .string f.name), ("inputs", .array (paramsToJson f.inputs)),
   ("outputs", .array (paramsToJson f.outputs)),
   ("stateMutability", .string f.mutability.name)] ++
    f.payable.toList.map fun b => ("payable", .bool b)

def Function.toJson (f : Function) : Json := .object f.members

/-! ### Reading -/

/-- A mutability: its name, or an object with its name alone. -/
def readMutability : Json → Option Mutability
  | .string s => Mutability.ofName? s
  | .object [(name, .null)] => Mutability.ofName? name
  | _ => none

def paramShape : Json.RecordShape :=
  [("name", .defaulted), ("type", .required), ("components", .defaulted)]

def functionShape : Json.RecordShape :=
  [("name", .required), ("inputs", .defaulted), ("outputs", .defaulted),
   ("stateMutability", .defaulted), ("payable", .defaulted)]

/-- A parameter whose components are nested at most as deep as the fuel says. -/
def readParam : Nat → Json → Option Param
  | 0, _ => none
  | fuel + 1, j =>
    match j.fields? paramShape false with
    | some [name, kind, components] => do
      let name ← Json.givenOr? "" Json.string? name
      let kind ← Json.given? Json.string? kind
      let components ← Json.givenOr? [] (Json.listOf? (readParam fuel)) components
      return ⟨name, kind, components⟩
    | _ => none

def readParams (j : Json) : Option (List Param) := j.listOf? (readParam (j.depth + 1))

def readFunction (j : Json) : Option Function :=
  match j.fields? functionShape false with
  | some [name, inputs, outputs, mutability, payable] => do
    let name ← Json.given? Json.string? name
    let inputs ← Json.givenOr? [] readParams inputs
    let outputs ← Json.givenOr? [] readParams outputs
    let mutability ← Json.givenOr? .nonpayable readMutability mutability
    let payable ← Json.givenOptional? Json.bool? payable
    return ⟨name, inputs, outputs, mutability, payable⟩
  | _ => none

def isFunctionEntry (j : Json) : Bool :=
  match j.member? "type" with
  | some (.string s) => s = "function"
  | _ => false

/-- The functions among the entries of a description, in their order. -/
def functionsOfEntries : List Json → Except Fault (List Function)
  | [] => .ok []
  | j :: r =>
    if isFunctionEntry j then
      match readFunction j with
      | some f => (functionsOfEntries r).map (f :: ·)
      | none => .error (.internal "Invalid ABI entry: unexpected shape")
    else functionsOfEntries r

def functionsOf (abi : Json) : Except Fault (List Function) :=
  match abi.normal with
  | .array entries => functionsOfEntries entries
  | _ => .error (.internal "ABI is not an array")

end GasLens.Abi
