/-
  GasLens/Config/Table.lean
  =========================
  **Settings files** — a configuration from the table of global settings.

  A hyphen in a name counts as an underscore, and a name that no setting has is passed over. A
  table is kept without an order: the one in which its settings are visited is not that of the
  text, and may be another one in the next run (`VisitingOrder`).
-/
import GasLens.Config.Basic
import GasLens.Toml.Document
import GasLens.Toml.Tagged

namespace GasLens.Config

open GasLens.Text GasLens.Toml

/-! ### Values of settings -/

def textSetting : Value → Except ConfigFault String
  | .string s => .ok s
  | v => .error (.wrongType "string" v)

def flagSetting : Value → Except ConfigFault Bool
  | .boolean b => .ok b
  | v => .error (.wrongType "bool" v)

def numberSetting : Value → Except ConfigFault Nat
  | .integer n => if 0 ≤ n then .ok n.toNat else .error (.wrongType "unsigned integer" (.integer n))
  | v => .error (.wrongType "unsigned integer" v)

def boundedSetting (option : String) (bound : Nat) (v : Value) : Except ConfigFault Nat := do
  let n ← numberSetting v
  if n ≤ bound then return n else throw (.outOfRange option)

/-- A delay: a number of milliseconds, or a text that is a delay. -/
def delaySetting : Value → Except ConfigFault String
  | .integer n =>
    if 0 ≤ n then .ok (intText n ++ "ms") else .error (.wrongType "duration" (.integer n))
  | .string s =>
    match readMilliseconds s with
    | none => .error .overflow
    | some (.ok _) => .ok s
    | some (.error cause) => .error (.badSetting cause)
  | v => .error (.wrongType "duration" v)

/-! ### Settings -/

/-- The name of a setting, with underscores only. -/
def settingName (key : String) : String :=
  String.ofList (key.toList.map fun c => if c = '-' then '_' else c)

def maxVerbosity : Nat := 255

def applySetting (c : Config) (key : String) (v : Value) : Except ConfigFault Config := do
  match settingName key with
  | "source" => return { c with source := some (← textSetting v) }
  | "contract" => return { c with contract := some (← textSetting v) }
  | "rpc_url" => return { c with rpcUrl := ← textSetting v }
  | "gas_limit" => return { c with gasLimit := ← numberSetting v }
  | "receipt_timeout" => return { c with receiptTimeout := ← delaySetting v }
  | "runs_per_function" | "runs" => return { c with runs := ← numberSetting v }
  | "seed" => return { c with seed := some (← numberSetting v) }
  | "trace_attempts" =>
    return { c with traceAttempts := ← boundedSetting "trace-attempts" maxU32 v }
  | "trace_settle_delay" => return { c with settleDelay := ← delaySetting v }
  | "trace_pending_delay" => return { c with pendingDelay := ← delaySetting v }
  | "trace_retry_delay" => return { c with retryDelay := ← delaySetting v }
  | "solc" => return { c with compiler := ← textSetting v }
  | "optimize" => return { c with optimize := ← flagSetting v }
  | "optimizer_runs" =>
    return { c with optimizerRuns := ← boundedSetting "optimizer-runs" maxU32 v }
  | "source_map_inherit" => return { c with inheritFields := ← flagSetting v }
  | "json_output" => return { c with jsonOutput := some (← textSetting v) }
  | "report_output" => return { c with reportOutput := some (← textSetting v) }
  | "print_steps" => return { c with printSteps := ← flagSetting v }
  | "verbose" => return { c with verbosity := ← boundedSetting "verbose" maxVerbosity v }
  | "log_json" => return { c with logJson := ← flagSetting v }
  | "no_status" => return { c with noStatus := ← flagSetting v }
  | _ => return c

/-- The configuration of settings in the order in which they are visited. -/
def ofSettings (settings : List (String × Value)) : Except ConfigFault Config :=
  settings.foldlM (fun c s => applySetting c s.1 s.2) builtIn

/-- An order in which the settings of a table are visited. -/
structure VisitingOrder where
  visited : List (String × Value) → List (String × Value)
  perm : ∀ settings, (visited settings).Perm settings

/-- The order in which the settings are written. -/
def VisitingOrder.written : VisitingOrder := ⟨id, List.Perm.refl⟩

def ofTable (order : VisitingOrder) (settings : List (String × Value)) :
    Except ConfigFault Config :=
  ofSettings (order.visited settings)

/-- The table of global settings in a document. A document without one has no settings, and so
has a moment in its place. The tag of moments is a setting like any other. -/
def globalSettings? (document : List (String × Value)) : Option (List (String × Value)) :=
  match (document.find? fun e => e.1 == "global").map Prod.snd with
  | none => some []
  | some (.table settings) => untaggedEntries? settings
  | some (.moment _) => some []
  | some _ => none

def settingsOfText? (text : String) : Option (List (String × Value)) :=
  (readDocument text).bind globalSettings?

end GasLens.Config
