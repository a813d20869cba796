/-
  GasLens/Config/Basic.lean
  =========================
  **Configurations** — everything a run can be told, what holds when nothing is said, and how one
  configuration overrides another.

  A value that differs from the built-in one overrides; a value that equals it says nothing. Times
  are kept as they were written and are read when they are needed.
-/
import GasLens.Campaign.Run
import GasLens.Compiler.Source
import GasLens.Config.Delay
import GasLens.Files
import GasLens.Toml.Value

namespace GasLens

open GasLens.Source GasLens.Text

structure Config where
  /-- The path of the source. -/
  source : Option String
  /-- The path of the settings file. -/
  file : Option String
  /-- The contract to be looked at, instead of the first one that can be deployed. -/
  contract : Option String
  rpcUrl : String
  gasLimit : Nat
  receiptTimeout : String
  runs : Nat
  seed : Option Nat
  traceAttempts : Nat
  settleDelay : String
  pendingDelay : String
  retryDelay : String
  /-- The command of the compiler. -/
  compiler : String
  optimize : Bool
  optimizerRuns : Nat
  /-- Whether empty fields of position records repeat the record before. -/
  inheritFields : Bool
  compileOnly : Bool
  /-- The transaction to be profiled. -/
  profileTransaction : Option String
  /-- The path of a report to be shown. -/
  fromReport : Option String
  jsonOutput : Option String
  reportOutput : Option String
  printSteps : Bool
  verbosity : Nat
  logJson : Bool
  noStatus : Bool
  deriving DecidableEq, Repr

inductive Mode where
  /-- Compile, deploy and invoke. -/
  | fuzz
  | compileOnly
  | profileTransaction (transaction : String)
  | fromReport (path : String)
  deriving DecidableEq, Repr

/-! ### Faults -/

inductive ConfigFault where
  | conflictingModes
  | noSource
  /-- An option is no delay. -/
  | badDelay (option value : String) (cause : Config.DelayFault)
  /-- A settings file cannot be read. -/
  | unreadable (path : String) (cause : FileFault)
  /-- A setting has a value of another type. -/
  | wrongType (expected : String) (value : Toml.Value)
  /-- A setting is no delay. -/
  | badSetting (cause : Config.DelayFault)
  /-- A setting is too large for its option. -/
  | outOfRange (option : String)
  /-- The milliseconds of a delay do not fit a word. The program stops. -/
  | overflow

def overflowText : String := "arithmetic overflow"

/-- The wording of a fault, from the outermost cause to the innermost one. -/
def ConfigFault.message : ConfigFault → String
  | .conflictingModes =>
    "--compile-only, --profile-tx and --from-report are mutually exclusive"
  | .noSource => "No Solidity source file given"
  | .badDelay option value cause =>
    "Invalid --" ++ option ++ ": " ++ quoted value ++ ": " ++ cause.message
  | .unreadable path cause =>
    "Failed to read config file: " ++ quoted path ++ ": " ++ cause.message
  | .wrongType expected value => "Expected " ++ expected ++ ", got " ++ value.shown
  | .badSetting cause => cause.message
  | .outOfRange option => option ++ " out of range: " ++ IntegerFault.tooLarge.message
  | .overflow => overflowText

namespace Config

/-! ### Built-in values -/

/-- The address of a development node on the same machine. -/
def defaultRpcUrl : String := "http://127.0.0.1:8545"

def builtIn : Config where
  source := none
  file := none
  contract := none
  rpcUrl := defaultRpcUrl
  gasLimit := CampaignSettings.standard.gasLimit
  receiptTimeout := "10s"
  runs := CampaignSettings.standard.runs
  seed := none
  traceAttempts := RetryPolicy.standard.maxAttempts
  settleDelay := "50ms"
  pendingDelay := "500ms"
  retryDelay := "1s"
  compiler := Compiler.defaultCommand
  optimize := false
  optimizerRuns := Compiler.defaultOptimizerRuns
  inheritFields := false
  compileOnly := false
  profileTransaction := none
  fromReport := none
  jsonOutput := none
  reportOutput := none
  printSteps := false
  verbosity := 0
  logJson := false
  noStatus := false

/-! ### Overriding -/

/-- The value that says something, the later one first. -/
def overridden {α : Type} [DecidableEq α] (silent earlier later : α) : α :=
  if later = silent then earlier else later

/-- A configuration with the values of a later one put over it. -/
def merge (earlier later : Config) : Config where
  source := later.source.or earlier.source
  file := later.file.or earlier.file
  contract := later.contract.or earlier.contract
  rpcUrl := overridden builtIn.rpcUrl earlier.rpcUrl later.rpcUrl
  gasLimit := overridden builtIn.gasLimit earlier.gasLimit later.gasLimit
  receiptTimeout :=
    overridden builtIn.receiptTimeout earlier.receiptTimeout later.receiptTimeout
  runs := overridden builtIn.runs earlier.runs later.runs
  seed := later.seed.or earlier.seed
  traceAttempts := overridden builtIn.traceAttempts earlier.traceAttempts later.traceAttempts
  settleDelay := overridden builtIn.settleDelay earlier.settleDelay later.settleDelay
  pendingDelay := overridden builtIn.pendingDelay earlier.pendingDelay later.pendingDelay
  retryDelay := overridden builtIn.retryDelay earlier.retryDelay later.retryDelay
  compiler := overridden builtIn.compiler earlier.compiler later.compiler
  optimize := earlier.optimize || later.optimize
  optimizerRuns := overridden builtIn.optimizerRuns earlier.optimizerRuns later.optimizerRuns
  inheritFields := earlier.inheritFields || later.inheritFields
  compileOnly := earlier.compileOnly || later.compileOnly
  profileTransaction := later.profileTransaction.or earlier.profileTransaction
  fromReport := later.fromReport.or earlier.fromReport
  jsonOutput := later.jsonOutput.or earlier.jsonOutput
  reportOutput := later.reportOutput.or earlier.reportOutput
  printSteps := earlier.printSteps || later.printSteps
  verbosity := overridden builtIn.verbosity earlier.verbosity later.verbosity
  logJson := earlier.logJson || later.logJson
  noStatus := earlier.noStatus || later.noStatus

/-! ### What a configuration says -/

/-- What the run does. At most one of the special modes may be asked for. -/
def mode (c : Config) : Except ConfigFault Mode :=
  match c.compileOnly, c.profileTransaction, c.fromReport with
  | false, none, none => .ok .fuzz
  | true, none, none => .ok .compileOnly
  | false, some transaction, none => .ok (.profileTransaction transaction)
  | false, none, some path => .ok (.fromReport path)
  | _, _, _ => .error .conflictingModes

/-- The path of the source, which every mode needs. -/
def sourcePath (c : Config) : Except ConfigFault String :=
  match c.source with
  | some path => .ok path
  | none => .error .noSource

def policy (c : Config) : EmptyFieldPolicy :=
  if c.inheritFields then .inheritPrevious else .absent

def delayOf (option value : String) : Except ConfigFault Nat :=
  match readMilliseconds value with
  | none => .error .overflow
  | some r => r.mapError (ConfigFault.badDelay option value)

def retryPolicy (c : Config) : Except ConfigFault RetryPolicy := do
  let settle ← delayOf "trace-settle-delay" c.settleDelay
  let pending ← delayOf "trace-pending-delay" c.pendingDelay
  let retry ← delayOf "trace-retry-delay" c.retryDelay
  return ⟨max 1 c.traceAttempts, settle, pending, retry⟩

def campaignSettings (c : Config) : Except ConfigFault CampaignSettings := do
  let timeout ← delayOf "receipt-timeout" c.receiptTimeout
  let retry ← c.retryPolicy
  return ⟨c.runs, c.gasLimit, timeout, CampaignSettings.standard.seedDeposit, retry, c.policy⟩

end Config

end GasLens
