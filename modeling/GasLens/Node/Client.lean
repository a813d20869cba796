/-
  GasLens/Node/Client.lean
  ========================
  **Clients of a node** — deploying, invoking and tracing by requests to a node.

  A transaction is sent by asking for the price of gas first. Its receipt is asked for at once
  and then at regular times until the time for it is up.
-/
import GasLens.Campaign.Environment
import GasLens.Node.Message

namespace GasLens.Node

open GasLens.Text

/-- A node, the requests that it was sent, and the journal of its client. -/
structure Connection (State : Type) where
  state : State
  /-- The requests, the newest first. -/
  sent : List Request
  journal : Journal

def Connection.requests {State : Type} (c : Connection State) : List Request := c.sent.reverse

def Connection.ofState {State : Type} (state : State) (journal : Journal) : Connection State :=
  ⟨state, [], journal⟩

abbrev Exchange (State α : Type) := ExceptT Fault (StateM (Connection State)) α

/-- A node and the logger of its client. -/
structure Client (State : Type) where
  ask : Oracle State
  logger : Logger

namespace Client

variable {State : Type}

/-! ### Requests -/

/-- The result of a request, read; a failure is worded as a fault of the caller's choice. -/
def request {α : Type} (c : Client State) (method : String) (params : Json)
    (read : Json → Option α) (fault : RequestFault → Fault) : Exchange State α := fun s =>
  let question := Request.mk method params
  let (reply, state) := c.ask question s.state
  let s := { s with state, sent := question :: s.sent }
  match reply with
  | .result value =>
    match read value with
    | some a => (.ok a, s)
    | none => (.error (fault .unreadable), s)
  | .error code message data => (.error (fault (.refused code message data)), s)
  | .undelivered reason => (.error (fault (.undelivered reason)), s)

def log (c : Client State) (level : LogLevel) (message : String) : Exchange State Unit :=
  fun s => (.ok (), { s with journal := s.journal.write c.logger level message })

def rpcFault (f : RequestFault) : Fault := .rpc f.text

def deployFault (f : RequestFault) : Fault := .deploy (rpcFault f).message

/-! ### Transactions -/

structure Transaction where
  sender : List UInt8
  recipient : Option (List UInt8)
  data : List UInt8
  options : CallOptions

/-- A transaction as a document, with the price of its gas. -/
def Transaction.toJson (t : Transaction) (gasPrice : Nat) : Json :=
  .object
    ([("from", .string (markedHex t.sender))] ++
     (t.recipient.toList.map fun r => ("to", .string (markedHex r))) ++
     [("gas", .string (quantityText t.options.gasLimit)),
      ("gasPrice", .string (quantityText gasPrice)),
      ("value", .string (quantityText t.options.value)),
      ("data", .string (markedHex t.data)), ("type", .string "0x00")])

def send (c : Client State) (fault : RequestFault → Fault) (t : Transaction) :
    Exchange State (List UInt8) := do
  let gasPrice ← c.request "eth_gasPrice" .null (readQuantity wordDigits) fault
  c.request "eth_sendTransaction" (.array [t.toJson gasPrice]) (readBytes transactionSize) fault

/-- The receipt of a transaction, if it was mined. -/
def receiptOf (c : Client State) (fault : RequestFault → Fault) (transaction : List UInt8) :
    Exchange State (Option NodeReceipt) :=
  c.request "eth_getTransactionReceipt" (.array [.string (markedHex transaction)])
    (Json.optional? readReceipt) fault

def pollInterval : Nat := 100

/-- How often a receipt is asked for within a time; without any time it is not asked for. -/
def pollCount (timeout : Nat) : Nat := (timeout + pollInterval - 1) / pollInterval

/-- The receipt of a transaction, asked for at most a number of times. -/
def awaitReceipt (c : Client State) (fault : RequestFault → Fault) (transaction : List UInt8) :
    Nat → Exchange State (Option NodeReceipt)
  | 0 => return none
  | polls + 1 => do
    match ← c.receiptOf fault transaction with
    | some r => return some r
    | none => awaitReceipt c fault transaction polls

/-! ### The environment of a node -/

def firstAccount (c : Client State) : Exchange State (List UInt8) := do
  let accounts ← c.request "eth_accounts" .null (Json.listOf? (readBytes accountSize))
    fun f => .deploy ("eth_accounts failed: " ++ f.text)
  match accounts with
  | account :: _ => return account
  | [] => throw (.deploy "no accounts available on node")

def deployedAddress (name : String) : Option NodeReceipt → Except Fault (List UInt8)
  | none => .error (.deploy "no deployment receipt")
  | some r =>
    if r.isReverted then .error (.deploy ("constructor of " ++ name ++ " reverted"))
    else match r.contractAddress with
      | some address => .ok address
      | none => .error (.deploy "receipt has no contract address")

def deploy (c : Client State) (contract : CompiledContract) (options : CallOptions) :
    Exchange State Deployment := do
  let caller ← c.firstAccount
  let code ← (contract.creationBytes.mapError Fault.decode : Except Fault (List UInt8))
  let transaction ← c.send deployFault ⟨caller, none, code, options⟩
  let receipt ← c.awaitReceipt deployFault transaction (pollCount options.receiptTimeout)
  let address ← (deployedAddress contract.name receipt : Except Fault (List UInt8))
  c.log .info ("deployed " ++ contract.name ++ " at " ++ markedHex address ++ " from " ++
    markedHex caller)
  return ⟨address, caller, transaction⟩

def invoke (c : Client State) (target : Deployment) (calldata : List UInt8)
    (options : CallOptions) : Exchange State (Option Receipt) := do
  let transaction ← c.send rpcFault ⟨target.caller, some target.address, calldata, options⟩
  let receipt ← c.awaitReceipt rpcFault transaction (pollCount options.receiptTimeout)
  return receipt.map fun r =>
    ⟨r.isReverted, r.gasUsed.getD 0 % 2 ^ 64, markedHex transaction⟩

def traceOptions : Json :=
  .object [("disableStorage", .bool true), ("disableStack", .bool true),
    ("enableMemory", .bool false)]

def trace (c : Client State) (transaction : String) : Exchange State Trace := do
  let hash ← (transactionOf transaction : Except Fault (List UInt8))
  let unavailable (f : RequestFault) : Fault := .traceUnavailable transaction f.text
  let receipt ← c.receiptOf unavailable hash
  if receipt.isNone then throw (.traceNotMined transaction)
  let answer ← c.request "debug_traceTransaction" (.array [.string (markedHex hash), traceOptions])
    some unavailable
  if answer.isNull then
    throw (.traceUnavailable transaction "debug_traceTransaction returned null")
  let t ← ((Trace.ofJson answer).mapError Fault.invalidTrace : Except Fault Trace)
  c.log .debug ("trace " ++ transaction ++ ": " ++ natText t.steps.length ++ " steps")
  return t

def environment (c : Client State) : Environment (Connection State) where
  deploy contract options s := (c.deploy contract options).run s
  invoke target calldata options s := (c.invoke target calldata options).run s
  trace transaction s := (c.trace transaction).run s

end Client

end GasLens.Node
