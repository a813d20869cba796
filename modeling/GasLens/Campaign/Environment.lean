/-
  GasLens/Campaign/Environment.lean
  =================================
  **Environments** — where contracts are deployed, invoked and traced, and the record of what was
  asked of one.

  An environment is a world with three operations, each of which may change the world and may
  fail. A session holds a world, the journal and the record of all operations with their answers;
  everything that a campaign does goes through a session, so the record is complete.
-/
import GasLens.Compiler.Contract
import GasLens.Trace.Basic

namespace GasLens

structure CallOptions where
  gasLimit : Nat
  /-- The money sent along. -/
  value : Nat
  /-- How many milliseconds to wait for a receipt. -/
  receiptTimeout : Nat
  deriving DecidableEq, Repr

/-- A contract in its place, and the account that talks to it. -/
structure Deployment where
  address : List UInt8
  caller : List UInt8
  transaction : List UInt8
  deriving DecidableEq, Repr

/-- What a transaction that was mined left behind. -/
structure Receipt where
  reverted : Bool
  cost : Nat
  transaction : String
  deriving DecidableEq, Repr

/-- Where contracts live. An invocation without a receipt in time answers nothing. -/
structure Environment (World : Type) where
  deploy : CompiledContract → CallOptions → World → Except Fault Deployment × World
  invoke : Deployment → List UInt8 → CallOptions → World → Except Fault (Option Receipt) × World
  trace : String → World → Except Fault Trace × World

inductive Event where
  | deployed (contract : String) (options : CallOptions) (answer : Except Fault Deployment)
  | invoked (calldata : List UInt8) (options : CallOptions)
      (answer : Except Fault (Option Receipt))
  | traced (transaction : String) (answer : Except Fault Trace)
  | waited (milliseconds : Nat)

/-- A world, the journal, and all that happened. -/
structure Session (World : Type) where
  world : World
  journal : Journal
  /-- The events, the newest first. -/
  record : List Event

namespace Session

variable {World : Type}

def start (world : World) (journal : Journal) : Session World := ⟨world, journal, []⟩

def events (s : Session World) : List Event := s.record.reverse

def deploy (e : Environment World) (contract : CompiledContract) (options : CallOptions)
    (s : Session World) : Except Fault Deployment × Session World :=
  let (answer, world) := e.deploy contract options s.world
  (answer, { s with world, record := .deployed contract.name options answer :: s.record })

def invoke (e : Environment World) (target : Deployment) (calldata : List UInt8)
    (options : CallOptions) (s : Session World) :
    Except Fault (Option Receipt) × Session World :=
  let (answer, world) := e.invoke target calldata options s.world
  (answer, { s with world, record := .invoked calldata options answer :: s.record })

def trace (e : Environment World) (transaction : String) (s : Session World) :
    Except Fault Trace × Session World :=
  let (answer, world) := e.trace transaction s.world
  (answer, { s with world, record := .traced transaction answer :: s.record })

def wait (milliseconds : Nat) (s : Session World) : Session World :=
  { s with record := .waited milliseconds :: s.record }

def log (l : Logger) (level : LogLevel) (message : String) (s : Session World) : Session World :=
  { s with journal := s.journal.write l level message }

/-- A warning in the journal, unless it was given before. -/
def warn (l : Logger) (code : WarningCode) (message : String) (s : Session World) :
    Session World :=
  { s with journal := (s.journal.warn l code message false).2 }

end Session

end GasLens
