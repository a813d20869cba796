/-
  GasLens/Compiler/Contract.lean
  ==============================
  **Compiled contracts** — one contract out of everything that the compiler answered.

  Errors of the compiler come before everything else. Then the contract is chosen: by its name,
  or the first one with code to deploy. Code that still needs libraries is not supported.
-/
import GasLens.Abi.Document
import GasLens.Compiler.Source
import GasLens.Json.Reader
import GasLens.Log
import GasLens.Source.PcLineMap

namespace GasLens

open GasLens.Source GasLens.Text

/-- One contract, ready to be deployed and mapped. -/
structure CompiledContract where
  name : String
  abi : Json
  /-- The code that creates the contract, in hexadecimal. -/
  creationCode : String
  /-- The code of the contract itself, in hexadecimal. -/
  runtimeCode : String
  runtimeSourceMap : Option String
  methodIdentifiers : SortedMap String String
  warnings : List String
  /-- The text that the source map refers to. -/
  source : String

namespace CompiledContract

def functions (c : CompiledContract) : Except Fault (List Abi.Function) := Abi.functionsOf c.abi

def creationBytes (c : CompiledContract) : Except DecodeFault (List UInt8) :=
  Bytecode.bytesOfText c.creationCode

def pcLineMap (c : CompiledContract) (policy : EmptyFieldPolicy) : Except Fault PcLineMap :=
  buildPcLineMap c.runtimeSourceMap (some c.runtimeCode) c.source policy

def toJson (c : CompiledContract) : Json :=
  .object
    [("contractName", .string c.name), ("abi", c.abi), ("bytecode", .string c.creationCode),
     ("deployedBytecode", .string c.runtimeCode),
     ("runtimeSourceMap", .ofOption .string c.runtimeSourceMap),
     ("methodIdentifiers",
       .object (c.methodIdentifiers.entries.map fun e => (e.1, .string e.2))),
     ("warnings", .array (c.warnings.map Json.string))]

end CompiledContract

namespace Compiler

/-! ### What the compiler answers -/

structure Diagnostic where
  severity : String
  message : String
  formatted : Option String
  deriving DecidableEq, Repr

/-- A code with its source map and the places where addresses of libraries are missing. -/
structure Code where
  object : String
  sourceMap : Option String
  linkReferences : Option (SortedMap String (SortedMap String (List (Nat × Nat))))

structure Artifact where
  abi : Json
  creation : Code
  runtime : Code
  methodIdentifiers : SortedMap String String

structure Output where
  diagnostics : List Diagnostic
  /-- The contracts by the unit they are in and their name. -/
  contracts : SortedMap String (SortedMap String Artifact)

def Diagnostic.isError (d : Diagnostic) : Bool := d.severity == "error"

def Diagnostic.text (d : Diagnostic) : String := d.formatted.getD d.message

/-- Whether addresses of libraries are missing. -/
def Code.isUnlinked (c : Code) : Bool :=
  c.linkReferences.any fun files => files.values.any fun libraries => !libraries.entries.isEmpty

def Artifact.isDeployable (a : Artifact) : Bool := !allBlank a.runtime.object

/-! ### Reading -/

/-- An object as a map; the last member of a name counts. -/
def readMap {α : Type} (read : Json → Option α) : Json → Option (SortedMap String α)
  | .object members =>
    (members.mapM fun m => (read m.2).map fun a => (m.1, a)).map SortedMap.ofList
  | _ => none

def codeOutline : Json.Outline :=
  .record [("object", .whole), ("sourceMap", .whole),
    ("linkReferences", .each (.each (.each (.fields ["start", "length"]))))]

def artifactOutline : Json.Outline :=
  .record [("abi", .whole), ("evm", .record [("bytecode", codeOutline),
    ("deployedBytecode", codeOutline), ("methodIdentifiers", .whole)]), ("metadata", .whole)]

def outputOutline : Json.Outline :=
  .record [("errors", .each (.fields ["severity", "message", "formattedMessage"])),
    ("contracts", .each (.each artifactOutline))]

def readDiagnostic (j : Json) : Option Diagnostic :=
  match j.fields? [("severity", .required), ("message", .defaulted),
      ("formattedMessage", .defaulted)] false with
  | some [severity, message, formatted] => do
    let severity ← Json.given? Json.string? severity
    let message ← Json.givenOr? "" Json.string? message
    let formatted ← Json.givenOptional? Json.string? formatted
    return ⟨severity, message, formatted⟩
  | _ => none

def readLinkReference (j : Json) : Option (Nat × Nat) :=
  match j.fields? [("start", .required), ("length", .required)] false with
  | some [start, length] => do
    return (← Json.given? Json.nat? start, ← Json.given? Json.nat? length)
  | _ => none

def noCode : Code := ⟨"", none, none⟩

def readCode (j : Json) : Option Code :=
  match j.fields? [("object", .defaulted), ("sourceMap", .optional),
      ("linkReferences", .optional)] false with
  | some [object, sourceMap, linkReferences] => do
    let object ← Json.givenOr? "" Json.string? object
    let sourceMap ← Json.givenOptional? Json.string? sourceMap
    let linkReferences ←
      Json.givenOptional? (readMap (readMap (Json.listOf? readLinkReference))) linkReferences
    return ⟨object, sourceMap, linkReferences⟩
  | _ => none

def readMachineOutput (j : Json) : Option (Code × Code × SortedMap String String) :=
  match j.fields? [("bytecode", .defaulted), ("deployedBytecode", .defaulted),
      ("methodIdentifiers", .defaulted)] false with
  | some [creation, runtime, identifiers] => do
    let creation ← Json.givenOr? noCode readCode creation
    let runtime ← Json.givenOr? noCode readCode runtime
    let identifiers ← Json.givenOr? .empty (readMap Json.string?) identifiers
    return (creation, runtime, identifiers)
  | _ => none

/-- A contract. Its metadata is only checked to be a text. -/
def readArtifact (j : Json) : Option Artifact :=
  match j.fields? [("abi", .defaulted), ("evm", .defaulted), ("metadata", .defaulted)] false with
  | some [abi, machine, metadata] => do
    let (creation, runtime, identifiers) ←
      Json.givenOr? (noCode, noCode, .empty) readMachineOutput machine
    let _ ← Json.givenOr? "" Json.string? metadata
    return ⟨(abi.getD .null).normal, creation, runtime, identifiers⟩
  | _ => none

def readOutput (j : Json) : Option Output :=
  match j.fields? [("errors", .defaulted), ("contracts", .defaulted)] false with
  | some [diagnostics, contracts] => do
    let diagnostics ← Json.givenOr? [] (Json.listOf? readDiagnostic) diagnostics
    let contracts ← Json.givenOr? .empty (readMap (readMap readArtifact)) contracts
    return ⟨diagnostics, contracts⟩
  | _ => none

/-! ### Choosing a contract -/

/-- The contract of a name, or without a name the first one that can be deployed. -/
def select (unit : SortedMap String Artifact) (wanted : Option String) :
    Except Fault (String × Artifact) :=
  match wanted with
  | some name =>
    match unit.get? name with
    | some a => .ok (name, a)
    | none => .error (.compilation ("contract " ++ name ++ " not found in " ++ unitName))
  | none =>
    match unit.entries.find? fun e => e.2.isDeployable with
    | some e => .ok e
    | none => .error (.compilation ("no deployable contract in " ++ unitName))

/-- The chosen contract of an answer, compiled from the given source. -/
def Output.contract (o : Output) (source : String) (wanted : Option String) :
    Except Fault CompiledContract :=
  let errors := o.diagnostics.filter Diagnostic.isError
  if !errors.isEmpty then
    .error (.compilation ("\n".intercalate (errors.map Diagnostic.text)))
  else match o.contracts.get? unitName with
    | none => .error (.compilation ("no contracts in " ++ unitName))
    | some unit => do
      let (name, a) ← select unit wanted
      if a.creation.isUnlinked || a.runtime.isUnlinked then
        throw (.unsupported (name ++ " links external libraries\n(see " ++
          WarningCode.libraryPlaceholder.url ++ ")"))
      let warnings := (o.diagnostics.filter fun d => !d.isError).map Diagnostic.text
      return ⟨name, a.abi, a.creation.object, a.runtime.object, a.runtime.sourceMap,
        a.methodIdentifiers, warnings, source⟩

def unreadableOutput : Fault := .compilation "unreadable compiler output: unexpected shape"

def contractOf (output source : String) (wanted : Option String) :
    Except Fault CompiledContract :=
  match (Json.readOutline? outputOutline output).bind readOutput with
  | some o => o.contract source wanted
  | none => .error unreadableOutput

end Compiler

end GasLens
