/-
  GasLens/Fault.lean
  ==================
  **Faults** — everything that can go wrong between a source text and a gas report.

  A fault is a cause; its wording is `Fault.message`. Two questions decide what a run does about
  it: whether it ends the run (`Fault.isFatal`), and whether asking for the same trace again
  could help (`Fault.isRetryable`).
-/
import GasLens.Text.Quoted
import GasLens.Text.Integer

namespace GasLens

open GasLens.Text

/-- Why a text is no bytecode. -/
inductive DecodeFault where
  /-- There are no digits. -/
  | empty
  /-- The number of digits is odd. -/
  | oddLength (length : Nat)
  /-- A character is no hexadecimal digit. -/
  | invalidHex (char : Char) (index : Nat)
  deriving DecidableEq, Repr

/-- The five fields of a position record, in their order. -/
inductive MapField where
  | start | length | file | jump | modifier
  deriving DecidableEq, Repr

/-- A field of a position record that is present but not well-formed. -/
structure MapFault where
  record : Nat
  field : MapField
  value : String
  deriving DecidableEq, Repr

/-- Why a document is no execution trace. -/
inductive TraceFault where
  /-- The document is no object. -/
  | notObject
  /-- There is no list of steps. -/
  | missingSteps
  /-- A cost is a number below zero. -/
  | negativeCost (written : String)
  /-- A cost is no amount of gas. -/
  | invalidCost (written : String)
  /-- The document has another shape. -/
  | malformed (reason : String)
  deriving DecidableEq, Repr

inductive Fault where
  | decode (cause : DecodeFault)
  | mapFormat (cause : MapFault)
  | invalidTrace (cause : TraceFault)
  | compilation (diagnostics : String)
  | noReceipt (function : String) (timeout : Nat)
  | traceNotMined (transaction : String)
  | traceUnavailable (transaction reason : String)
  | deploy (reason : String)
  | rpc (reason : String)
  | invalidReport (reason : String)
  | unsupported (feature : String)
  | internal (reason : String)
  deriving DecidableEq, Repr

/-! ### Wording -/

def MapField.name : MapField → String
  | .start => "start"
  | .length => "length"
  | .file => "file"
  | .jump => "jump"
  | .modifier => "modifier"

def DecodeFault.message : DecodeFault → String
  | .empty => "Empty bytecode"
  | .oddLength n => "Odd-length hex bytecode (" ++ natText n ++ " characters)"
  | .invalidHex c i =>
    "Invalid hex character " ++ quotedSingle c ++ " at position " ++ natText i

def MapFault.message (f : MapFault) : String :=
  "Malformed source map field `" ++ f.field.name ++ "` in record " ++ natText f.record ++ ": " ++
    quoted f.value

def TraceFault.reason : TraceFault → String
  | .notObject => "trace is not an object"
  | .missingSteps => "missing structLogs"
  | .negativeCost written => "negative cost " ++ written
  | .invalidCost written => "invalid cost " ++ written
  | .malformed reason => reason

def TraceFault.message (f : TraceFault) : String := "Invalid trace format: " ++ f.reason

def Fault.message : Fault → String
  | .decode cause => cause.message
  | .mapFormat cause => cause.message
  | .invalidTrace cause => cause.message
  | .compilation diagnostics => "Compilation failed:\n" ++ diagnostics
  | .noReceipt function timeout =>
    "No receipt for " ++ function ++ " within " ++ natText timeout ++ "ms"
  | .traceNotMined transaction => "Transaction " ++ transaction ++ " not yet mined"
  | .traceUnavailable transaction reason =>
    "Trace unavailable for " ++ transaction ++ ": " ++ reason
  | .deploy reason => "Deployment failed: " ++ reason
  | .rpc reason => "RPC error: " ++ reason
  | .invalidReport reason => "Invalid contract report: " ++ reason
  | .unsupported feature => "Unsupported: " ++ feature
  | .internal reason => "Internal error: " ++ reason

/-! ### Consequences -/

/-- Whether a fault ends the whole run and not a single iteration. -/
def Fault.isFatal : Fault → Bool
  | .decode _ | .mapFormat _ | .compilation _ | .deploy _ | .invalidReport _
  | .unsupported _ | .internal _ => true
  | .invalidTrace _ | .noReceipt .. | .traceNotMined _ | .traceUnavailable .. | .rpc _ => false

/-- Whether asking for the trace again could succeed. -/
def Fault.isRetryable : Fault → Bool
  | .traceNotMined _ | .traceUnavailable .. | .rpc _ => true
  | _ => false

end GasLens
