/-
  GasLens/Campaign/Run.lean
  =========================
  **Campaigns** — every function of a contract invoked many times, and the report about it.

  A campaign fails only before its first invocation: when the code cannot be mapped, the
  interface cannot be read, or the contract cannot be deployed. After that every failure is
  counted in the report and the campaign goes on. What can stop it then is a trace whose gas does
  not fit a word, alone or together with that of other traces of the function.
-/
import GasLens.Campaign.Call
import GasLens.Campaign.Retry
import GasLens.Profile
import GasLens.Report.Basic

namespace GasLens

open GasLens.Abi GasLens.Random GasLens.Source GasLens.Text

structure CampaignSettings where
  /-- How often each function is invoked. -/
  runs : Nat
  gasLimit : Nat
  receiptTimeout : Nat
  /-- The money that is paid in before the first invocation. -/
  seedDeposit : Nat
  retry : RetryPolicy
  policy : EmptyFieldPolicy
  deriving DecidableEq, Repr

namespace CampaignSettings

/-- The settings that hold unless others are given. -/
def standard : CampaignSettings := ⟨200, 10000000, 10000, 10 ^ 19, .standard, .absent⟩

def options (c : CampaignSettings) (value : Nat) : CallOptions :=
  ⟨c.gasLimit, value, c.receiptTimeout⟩

end CampaignSettings

/-- What stays the same throughout a campaign. -/
structure Campaign (World : Type) where
  environment : Environment World
  settings : CampaignSettings
  logger : Logger

namespace Campaign

variable {World : Type}

def invocationComponent : String := "fuzz"

def invocationLogger (c : Campaign World) : Logger := c.logger.child invocationComponent

/-! ### Paying in -/

def logSeed (l : Logger) (answer : Except Fault (Option Receipt)) (s : Session World) :
    Session World :=
  match answer with
  | .ok (some r) =>
    if r.reverted then s.warn l .seedFailed "seed deposit() reverted"
    else s.log l .info "seeded contract state with deposit()"
  | .ok none => s.warn l .seedFailed "seed deposit() got no receipt"
  | .error f => s.warn l .seedFailed ("seed deposit() failed: " ++ f.message)

/-- The payment in advance, if there is a function for it. Its outcome is only logged. -/
def seed (c : Campaign World) (target : Deployment) (functions : List Function)
    (s : Session World) : Session World :=
  match findSeedDeposit? functions with
  | none => s
  | some f =>
    match encodeCall f [] with
    | .error fault => logSeed c.logger (.error fault) s
    | .ok calldata =>
      let (answer, s) :=
        s.invoke c.environment target calldata (c.settings.options c.settings.seedDeposit)
      logSeed c.logger answer s

/-! ### One invocation -/

/-- What became of an invocation. -/
inductive Invocation where
  /-- There is no receipt. -/
  | skipped
  /-- The receipt shows no gas and does not count. -/
  | free
  /-- A sample, and its trace if that could be had. -/
  | sampled (sample : Sample) (trace : Option Trace)

def logMissingTrace (l : Logger) (function : String) (f : Fault) (s : Session World) :
    Session World :=
  let code := match f with
    | .invalidTrace _ => WarningCode.invalidTrace
    | _ => .traceUnavailable
  (s.warn l code (function ++ ": line profile skipped")).log l .debug f.message

/-- The trace of a transaction, if it can be had. -/
def traceOf (c : Campaign World) (function transaction : String) (s : Session World) :
    Option Trace × Session World :=
  match s.fetchTrace c.environment c.settings.retry c.invocationLogger transaction with
  | (.ok t, s) => (some t, s)
  | (.error f, s) => (none, logMissingTrace c.invocationLogger function f s)

/-- The name of a function and the number of the invocation, in the words of the journal. -/
def iterationText (function : String) (iteration : Nat) : String :=
  function ++ "() iter " ++ natText iteration

def sampleOf (c : Campaign World) (function : String) (iteration : Nat) (r : Receipt)
    (s : Session World) : Invocation × Session World :=
  let l := c.invocationLogger
  let place := iterationText function iteration
  let s := s.log l .debug (place ++ ": gas=" ++ natText r.cost ++ ", status=" ++
    (if r.reverted then "reverted" else "ok"))
  if r.cost = 0 then
    (.free, s.log l .debug (place ++ ": zero-cost receipt " ++ r.transaction ++ " ignored"))
  else
    let (trace, s) := c.traceOf function r.transaction s
    (.sampled ⟨r.cost, r.reverted⟩ trace, s)

def perform (c : Campaign World) (target : Deployment) (function : String) (iteration : Nat)
    (call : PlannedCall) (s : Session World) : Invocation × Session World :=
  let l := c.invocationLogger
  match call with
  | .unencodable f =>
    (.skipped, s.warn l .invocationFailed (function ++ ": cannot build calldata: " ++ f.message))
  | .call calldata payment =>
    match s.invoke c.environment target calldata (c.settings.options payment) with
    | (.ok (some r), s) => c.sampleOf function iteration r s
    | (.ok none, s) =>
      let s := s.warn l .noReceipt (Fault.noReceipt function c.settings.receiptTimeout).message
      (.skipped, s.log l .debug ("No receipt: " ++ function ++ " iter " ++ natText iteration))
    | (.error f, s) => (.skipped, s.warn l .invocationFailed (function ++ ": " ++ f.message))

end Campaign

/-! ### Reports of invocations -/

def FunctionReport.enter (map : PcLineMap) (r : FunctionReport) :
    Campaign.Invocation → Checked FunctionReport
  | .skipped => some r.skip
  | .free => some r
  | .sampled sample none => some (r.record sample)
  | .sampled sample (some t) => do (r.record sample).charge (← Profile.replay t map).costByLine

namespace Campaign

variable {World : Type}

/-- A number of invocations of a function, the first of them with the given number. Each call is
drawn when the one before it is done. -/
def iterate (c : Campaign World) (target : Deployment) (map : PcLineMap) (f : Function) :
    Nat → Nat → FunctionReport → Session World → Draw (Checked FunctionReport × Session World)
  | 0, _, r, s => return (some r, s)
  | left + 1, iteration, r, s => do
    let call ← drawPlannedCall f target.caller
    let (invocation, s) := c.perform target f.name iteration call s
    match r.enter map invocation with
    | none => return (none, s)
    | some r => iterate c target map f left (iteration + 1) r s

/-- What the journal says about a function when all its calls are made. -/
def summary (r : FunctionReport) : String :=
  r.name ++ ": " ++ natText r.samples.length ++ " samples (" ++ natText r.revertedCount ++
    " reverted), " ++ natText r.skipped ++ " skipped, " ++ natText r.traced ++
    " traced, avg " ++ Decimal.fixedPlaces 0 r.avg

def close (c : Campaign World) :
    Checked FunctionReport × Session World → Checked FunctionReport × Session World
  | (none, s) => (none, s)
  | (some r, s) => (some r.finalize, s.log c.logger .info (summary r.finalize))

def runFunction (c : Campaign World) (target : Deployment) (map : PcLineMap) (f : Function)
    (s : Session World) : Draw (Checked FunctionReport × Session World) := do
  return c.close (← c.iterate target map f c.settings.runs 0 (.ofName f.name) s)

def runFunctions (c : Campaign World) (target : Deployment) (map : PcLineMap) :
    List Function → Session World → Draw (Checked (List FunctionReport) × Session World)
  | [], s => return (some [], s)
  | f :: fs, s => do
    match ← c.runFunction target map f s with
    | (none, s) => return (none, s)
    | (some report, s) =>
      let (reports, s) ← runFunctions c target map fs s
      return (reports.map (report :: ·), s)

/-! ### The whole campaign -/

def logMap (l : Logger) (name : String) (map : PcLineMap) (s : Session World) : Session World :=
  if map.mappedCount = 0 then
    s.warn l .unmappedBytecode
      (name ++ ": no runtime instruction maps to a source line; line costs will be empty")
  else
    s.log l .debug (name ++ ": " ++ natText map.mappedCount ++ " of " ++ natText map.size ++
      " instructions mapped")

/-- The campaign against a contract. It has no value if a draw has no end. -/
def run (c : Campaign World) (contract : CompiledContract) (s : Session World) :
    Draw (Checked (Except Fault ContractReport) × Session World) :=
  match contract.pcLineMap c.settings.policy with
  | .error f => return (some (.error f), s)
  | .ok map =>
    let s := logMap c.logger contract.name map s
    match contract.functions with
    | .error f => return (some (.error f), s)
    | .ok functions =>
      match s.deploy c.environment contract (c.settings.options 0) with
      | (.error f, s) => return (some (.error f), s)
      | (.ok target, s) => do
        let (reports, s) ← c.runFunctions target map functions (c.seed target functions s)
        return (reports.map fun rs => .ok ⟨contract.name, c.settings.runs, rs⟩, s)

end Campaign

end GasLens
