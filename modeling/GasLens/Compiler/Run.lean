/-
  GasLens/Compiler/Run.lean
  =========================
  **Running the compiler** — from a source to a compiled contract, through a program that is
  given a request and answers with its output.

  The program is a value: what it answers when asked for its version, and what it answers to a
  request.
-/
import GasLens.Compiler.Contract
import GasLens.Json.Writer

namespace GasLens.Compiler

open GasLens.Text

/-- What a program leaves behind when it ends. -/
structure Completion where
  succeeded : Bool
  output : String
  errors : String
  deriving DecidableEq, Repr

/-- A program that may fail to start, with the reason. -/
structure Executable where
  version : Except String Completion
  answer : Json → Except String Completion

/-- A command that cannot be started, for the given reason. -/
def Executable.missing (reason : String) : Executable := ⟨.error reason, fun _ => .error reason⟩

structure Settings where
  command : String
  optimize : Bool
  runs : Nat
  deriving DecidableEq, Repr

/-- The settings that hold unless others are given. -/
def Settings.ofCommand (command : String) : Settings := ⟨command, false, defaultOptimizerRuns⟩

def startFault (command reason : String) : Fault :=
  .internal ("failed to run " ++ command ++ ": " ++ reason)

def version (settings : Settings) (tool : Executable) : Except Fault String :=
  match tool.version with
  | .error reason => .error (startFault settings.command reason)
  | .ok r =>
    match versionOf? r.output with
    | some v => .ok v
    | none => .error (.internal ("unrecognized " ++ settings.command ++ " --version output"))

/-- The text that the program answers to a request. If it fails without an answer, its errors
are the diagnostics. -/
def outputOf (settings : Settings) (tool : Executable) (input : Json) : Except Fault String :=
  match tool.answer input with
  | .error reason => .error (startFault settings.command reason)
  | .ok r =>
    if !r.succeeded && r.output.isEmpty then .error (.compilation (trimString r.errors))
    else .ok r.output

def recordCount : Option String → Nat
  | some map => (splitString ';' map).length
  | none => 0

def requestFor (settings : Settings) (source : String) : Json :=
  request (stripFences source) settings.optimize settings.runs

def logContract (j : Journal) (logger : Logger) (c : CompiledContract) : Journal :=
  let j := if c.warnings.isEmpty then j
    else (j.warn logger .compilerWarning
      ("Compiler warnings:\n" ++ "\n".intercalate c.warnings) false).2
  j.write logger .info ("compiled " ++ c.name ++ ": " ++
    natText ((bytesOf c.runtimeCode).length / 2) ++ " runtime bytes, " ++
    natText (recordCount c.runtimeSourceMap) ++ " source map records")

/-- The contract that a source compiles to, and what was logged about it. -/
def compile (settings : Settings) (tool : Executable) (logger : Logger) (source : String)
    (wanted : Option String) (j : Journal) : Except Fault CompiledContract × Journal :=
  let stripped := stripFences source
  let j := j.write logger .debug ("compiling " ++ unitName ++ " (" ++
    natText (bytesOf stripped).length ++ " bytes) with " ++ settings.command)
  match outputOf settings tool (requestFor settings source) with
  | .error e => (.error e, j)
  | .ok output =>
    match contractOf output stripped wanted with
    | .error e => (.error e, j)
    | .ok c => (.ok c, logContract j logger c)

end GasLens.Compiler
