/-
  GasLens/Report/Document.lean
  ============================
  **Report documents** — reports written to be kept, and read back.

  The records of a report are closed: a member that is not theirs is a fault. The numbers of the
  lines are the names of members and have to be written as integers are.
-/
import GasLens.Json.Reader
import GasLens.Json.Record
import GasLens.Json.Writer
import GasLens.Profile.Document
import GasLens.Report.Basic

namespace GasLens

open GasLens.Source GasLens.Text

/-! ### Writing -/

def Sample.toJson (s : Sample) : Json :=
  .object [("cost", .ofNat s.cost), ("reverted", .bool s.reverted)]

def FunctionReport.toJson (r : FunctionReport) : Json :=
  .object
    [("name", .string r.name), ("samples", .array (r.samples.map Sample.toJson)),
     ("min", .ofNat r.min), ("max", .ofNat r.max), ("avg", .ofFloat r.avg), ("p95", .ofNat r.p95),
     ("costByLine", lineCostsToJson r.costByLine), ("skippedIterations", .ofNat r.skipped),
     ("tracedIterations", .ofNat r.traced)]

namespace ContractReport

def toJson (c : ContractReport) : Json :=
  .object
    [("name", .string c.name), ("iterationsPerFunction", .ofNat c.iterations),
     ("functions", .array (c.functions.map FunctionReport.toJson))]

def write (c : ContractReport) : String := c.toJson.pretty

end ContractReport

/-! ### Reading -/

/-- The number of a line from the name of a member, written as an integer of 64 bits. -/
def readLineKey (name : String) : Option Line :=
  match Json.readNumber name.toList with
  | some (.integer n, []) => if n ≤ maxI64 then some n else none
  | _ => none

def readLineEntry (m : String × Json) : Option (Line × Nat) := do
  let line ← readLineKey m.1
  let cost ← m.2.nat?
  return (line, cost)

def readLineCosts : Json → Option (SortedMap Line Nat)
  | .object members => (members.mapM readLineEntry).map SortedMap.ofList
  | _ => none

def sampleShape : Json.RecordShape := [("cost", .required), ("reverted", .required)]

def readSample (j : Json) : Option Sample :=
  match j.fields? sampleShape true with
  | some [cost, reverted] => do
    return ⟨← Json.given? Json.nat? cost, ← Json.given? Json.bool? reverted⟩
  | _ => none

def functionReportShape : Json.RecordShape :=
  [("name", .required), ("samples", .required), ("min", .required), ("max", .required),
   ("avg", .required), ("p95", .required), ("costByLine", .required),
   ("skippedIterations", .defaulted), ("tracedIterations", .defaulted)]

def readFunctionReport (j : Json) : Option FunctionReport :=
  match j.fields? functionReportShape true with
  | some [name, samples, min, max, avg, p95, costByLine, skipped, traced] => do
    let name ← Json.given? Json.string? name
    let samples ← Json.given? (Json.listOf? readSample) samples
    let min ← Json.given? Json.nat? min
    let max ← Json.given? Json.nat? max
    let avg ← Json.given? Json.float? avg
    let p95 ← Json.given? Json.nat? p95
    let costByLine ← Json.given? readLineCosts costByLine
    let skipped ← Json.givenOr? 0 Json.nat? skipped
    let traced ← Json.givenOr? 0 Json.nat? traced
    return ⟨name, samples, min, max, avg, p95, costByLine, skipped, traced⟩
  | _ => none

namespace ContractReport

def shape : Json.RecordShape :=
  [("name", .required), ("iterationsPerFunction", .required), ("functions", .required)]

def ofJson? (j : Json) : Option ContractReport :=
  match j.fields? shape true with
  | some [name, iterations, functions] => do
    let name ← Json.given? Json.string? name
    let iterations ← Json.given? Json.nat? iterations
    let functions ← Json.given? (Json.listOf? readFunctionReport) functions
    return ⟨name, iterations, functions⟩
  | _ => none

/-- What is wanted of a report: all of it, with the numbers of lines as they are written. -/
def outline : Json.Outline :=
  .record [("name", .whole), ("iterationsPerFunction", .whole),
    ("functions", .each (.record (functionReportShape.map fun field =>
      (field.1, if field.1 = "costByLine" then .numbered .whole else .whole))))]

/-- The report that a text holds, not yet checked. -/
def ofText? (s : String) : Option ContractReport := (Json.readOutline? outline s).bind ofJson?

def read (s : String) : Checked (Except Fault ContractReport) :=
  match ofText? s with
  | none => some (.error (.invalidReport "unreadable report"))
  | some c => c.validate.map fun verdict => verdict.map fun _ => c

end ContractReport

end GasLens
