/-
  GasLens/Trace/Basic.lean
  ========================
  **Execution traces** — what one transaction executed, step by step, read from the document
  that a node answers.

  A document is read as a whole or not at all. The amounts of gas in it may be numbers, decimal
  texts, hexadecimal texts or null.
-/
import GasLens.Checked
import GasLens.Json.Reader
import GasLens.Json.Writer
import GasLens.Fault

namespace GasLens

open GasLens.Text

structure Step where
  pc : Nat
  op : String
  cost : Nat
  depth : Nat
  deriving DecidableEq, Repr

/-- The steps of one transaction with its result. -/
structure Trace where
  gas : Nat
  failed : Bool
  returnValue : String
  steps : List Step
  deriving DecidableEq, Repr

namespace Trace

def empty : Trace := ⟨0, false, "", []⟩

def ofSteps (steps : List Step) : Trace := { empty with steps }

def totalCost (t : Trace) : Checked Nat := Checked.sum (t.steps.map Step.cost)

/-! ### Reading amounts and fields -/

/-- An amount of gas written as a text: hexadecimal after `0x`, else decimal. -/
def readCostText (s : String) : Except IntegerFault Nat :=
  match s.toList with
  | '0' :: 'x' :: digits => readNat 16 maxU64 digits
  | digits => readNat 10 maxU64 digits

/-- An amount of gas. A double that is not negative counts with its whole part. -/
def readCost : Json → Except TraceFault Nat
  | .null => .ok 0
  | .number (.integer n) =>
    if 0 ≤ n then .ok n.toNat else .error (.negativeCost (intText n))
  | .number (.double x) =>
    if x ≥ Decimal.ofNat 0 then .ok (Decimal.truncated x)
    else .error (.negativeCost (Json.numberText (.double x)))
  | .string s =>
    match readCostText s with
    | .ok n => .ok n
    | .error _ => .error (.invalidCost (quoted s))
  | j => .error (.invalidCost j.compact)

def readAs {α : Type} (kind : String) (f : Json → Option α) (j : Json) : Except TraceFault α :=
  match f j with
  | some a => .ok a
  | none => .error (.malformed ("expected " ++ kind))

def readCount : Json → Except TraceFault Nat := readAs "a count" Json.nat?

def readText : Json → Except TraceFault String := readAs "a text" Json.string?

def readFlag : Json → Except TraceFault Bool := readAs "a truth value" Json.bool?

def readOr {α : Type} (default : α) (read : Json → Except TraceFault α) :
    Option Json → Except TraceFault α
  | some j => read j
  | none => .ok default

def readGiven {α : Type} (name : String) (read : Json → Except TraceFault α) :
    Option Json → Except TraceFault α
  | some j => read j
  | none => .error (.malformed ("missing " ++ name))

/-! ### Reading steps and traces -/

def unknownOp : String := "UNKNOWN"

/-- A step by the names of its fields, which are read in ascending order. -/
def stepOfMembers (members : List (String × Json)) : Except TraceFault Step := do
  let depth ← readOr 1 readCount (Json.lastMember? "depth" members)
  let cost ← readOr 0 readCost (Json.lastMember? "gasCost" members)
  let op ← readOr unknownOp readText (Json.lastMember? "op" members)
  let pc ← readGiven "pc" readCount (Json.lastMember? "pc" members)
  return ⟨pc, op, cost, depth⟩

def stepOfItems (items : List Json) : Except TraceFault Step := do
  let pc ← readGiven "pc" readCount items[0]?
  let op ← readOr unknownOp readText items[1]?
  let cost ← readOr 0 readCost items[2]?
  let depth ← readOr 1 readCount items[3]?
  if 4 < items.length then throw (.malformed "too many fields")
  return ⟨pc, op, cost, depth⟩

def readStep : Json → Except TraceFault Step
  | .object members => stepOfMembers members
  | .array items => stepOfItems items
  | _ => .error (.malformed "expected a step")

/-- Steps in their order; the first fault counts. -/
def readSteps : List Json → Except TraceFault (List Step)
  | [] => .ok []
  | j :: r => do
    let s ← readStep j
    let ss ← readSteps r
    return s :: ss

def readStepList : Json → Except TraceFault (Option (List Step))
  | .null => .ok none
  | .array items => (readSteps items).map some
  | _ => .error (.malformed "expected a list of steps")

/-- A trace by the names of its fields, which are read in ascending order. -/
def ofMembers (members : List (String × Json)) : Except TraceFault Trace := do
  let failed ← readOr false readFlag (Json.lastMember? "failed" members)
  let gas ← readOr 0 readCost (Json.lastMember? "gas" members)
  let returnValue ← readOr "" readText (Json.lastMember? "returnValue" members)
  let steps ← readOr none readStepList (Json.lastMember? "structLogs" members)
  match steps with
  | some steps => return ⟨gas, failed, returnValue, steps⟩
  | none => throw .missingSteps

def ofJson (j : Json) : Except TraceFault Trace :=
  match j.normal with
  | .object members => ofMembers members
  | _ => .error .notObject

def read (s : String) : Except TraceFault Trace :=
  match Json.read? s with
  | some j => ofJson j
  | none => .error (.malformed "expected a document")

end Trace

end GasLens
