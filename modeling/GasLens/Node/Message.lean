/-
  GasLens/Node/Message.lean
  =========================
  **Messages of a node** — the requests it is sent, what it answers, and what it says about a
  transaction that was mined.
-/
import GasLens.Json.Writer
import GasLens.Node.Identifier
import GasLens.Text.Quoted

namespace GasLens.Node

open GasLens.Text

structure Request where
  method : String
  params : Json

inductive Reply where
  | result (value : Json)
  | error (code : Int) (message : String) (data : Option Json)
  /-- The request did not arrive, or no answer came back. -/
  | undelivered (reason : String)

abbrev Oracle (State : Type) := Request → State → Reply × State

def unreadableText : String := "unreadable answer of the node"

/-- A code of a refusal: an integer of 64 bits with a sign. -/
def readCode (j : Json) : Option Int := do
  let n ← j.int?
  if n < 2 ^ 63 then some n else none

def refusalShape : Json.RecordShape :=
  [("code", .required), ("message", .required), ("data", .optional)]

/-- A refusal as a document: a code, a message and data, by name or by position. -/
def readRefusal (j : Json) : Option Reply := do
  match ← Json.fields? refusalShape false j with
  | [code, message, data] =>
    return .error (← Json.given? readCode code) (← Json.given? Json.string? message)
      (← Json.givenOptional? some data)
  | _ => none

/-- The reply that a refusal stands for, readable or not. -/
def Reply.ofRefusal (j : Json) : Reply :=
  (readRefusal j.normal).getD (.undelivered unreadableText)

/-! ### Failed requests -/

mutual

def kindText : Json → String
  | .null => "Null"
  | .bool b => "Bool(" ++ toString b ++ ")"
  | .number n => "Number(" ++ Json.numberText n ++ ")"
  | .string s => "String(" ++ quoted s ++ ")"
  | .array items => "Array [" ++ ", ".intercalate (kindTexts items) ++ "]"
  | .object members => "Object \x7b" ++ ", ".intercalate (memberTexts members) ++ "\x7d"

def kindTexts : List Json → List String
  | [] => []
  | j :: r => kindText j :: kindTexts r

def memberTexts : List (String × Json) → List String
  | [] => []
  | (name, j) :: r => (quoted name ++ ": " ++ kindText j) :: memberTexts r

end

/-- Why a request has no usable answer. -/
inductive RequestFault where
  | refused (code : Int) (message : String) (data : Option Json)
  /-- The answer is not of the kind that was asked for. -/
  | unreadable
  | undelivered (reason : String)

def dataText : Option Json → String
  | none => "None"
  | some j => "Some(" ++ kindText j.normal ++ ")"

def RequestFault.text : RequestFault → String
  | .refused code message data =>
    "(code: " ++ intText code ++ ", message: " ++ message ++ ", data: " ++ dataText data ++ ")"
  | .unreadable => unreadableText
  | .undelivered reason => reason

/-! ### Receipts -/

/-- What a node says about a transaction that was mined. -/
structure NodeReceipt where
  status : Option Nat
  gasUsed : Option Nat
  contractAddress : Option (List UInt8)
  deriving DecidableEq, Repr

/-- The number of bytes of the filter of a transaction's log. -/
def bloomSize : Nat := 256

def needed {α : Type} (j : Json) (name : String) (read : Json → Option α) : Option α :=
  (j.member? name).bind read

def offered {α : Type} (j : Json) (name : String) (read : Json → Option α) :
    Option (Option α) :=
  (j.member name).optional? read

def entryShape : Json.RecordShape :=
  [("address", .required), ("topics", .required), ("data", .required), ("blockHash", .optional),
   ("blockNumber", .optional), ("transactionHash", .optional), ("transactionIndex", .optional),
   ("logIndex", .optional), ("transactionLogIndex", .optional), ("logType", .optional),
   ("removed", .optional)]

def entryPart {α : Type} (read : Json → Option α) (part : Option Json) : Option Unit :=
  (Json.givenOptional? read part).map fun _ => ()

/-- An entry of a transaction's log, of which nothing is kept. -/
def readEntry (j : Json) : Option Unit := do
  match ← Json.fields? entryShape false j.normal with
  | [address, topics, data, blockHash, blockNumber, hash, index, logIndex, entryIndex, kind,
      removed] =>
    let _ ← Json.given? (readBytes accountSize) address
    let _ ← Json.given? (Json.listOf? (readBytes transactionSize)) topics
    let _ ← Json.given? readData data
    entryPart (readBytes transactionSize) blockHash
    entryPart (readQuantity counterDigits) blockNumber
    entryPart (readBytes transactionSize) hash
    entryPart (readQuantity counterDigits) index
    entryPart (readQuantity wordDigits) logIndex
    entryPart (readQuantity wordDigits) entryIndex
    entryPart Json.string? kind
    entryPart Json.bool? removed
  | _ => none

/-- A receipt. The parts that nothing depends on must be well-formed all the same. -/
def readReceipt (j : Json) : Option NodeReceipt := do
  let _ ← needed j "transactionHash" (readBytes transactionSize)
  let _ ← needed j "transactionIndex" (readQuantity counterDigits)
  let _ ← offered j "blockHash" (readBytes transactionSize)
  let _ ← offered j "blockNumber" (readQuantity counterDigits)
  let _ ← needed j "from" (readBytes accountSize)
  let _ ← offered j "to" (readBytes accountSize)
  let _ ← needed j "cumulativeGasUsed" (readQuantity wordDigits)
  let gasUsed ← offered j "gasUsed" (readQuantity wordDigits)
  let contractAddress ← offered j "contractAddress" (readBytes accountSize)
  let _ ← needed j "logs" (Json.listOf? readEntry)
  let status ← offered j "status" (readQuantity counterDigits)
  let _ ← offered j "root" (readBytes transactionSize)
  let _ ← needed j "logsBloom" (readBytes bloomSize)
  let _ ← offered j "type" (readQuantity counterDigits)
  let _ ← offered j "effectiveGasPrice" (readQuantity wordDigits)
  return ⟨status, gasUsed, contractAddress⟩

def NodeReceipt.isReverted (r : NodeReceipt) : Bool := r.status = some 0

end GasLens.Node
