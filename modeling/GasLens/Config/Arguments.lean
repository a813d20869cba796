/-
  GasLens/Config/Arguments.lean
  =============================
  **Command-line arguments** — a configuration from the words behind the command.

  The words are taken from left to right. A word that begins with two hyphens is the name of an
  option or a switch, one that begins with one hyphen is a cluster of short switches, and any
  other word is the value of the option in front of it or the source. The value of an option is
  looked at when the next option, switch or source comes, or at the end; an unknown name is
  noticed before that.
-/
import GasLens.Config.Basic

namespace GasLens.Config

open GasLens.Text

/-- What is wrong with the arguments, or what they ask for instead of a run. -/
inductive ArgumentFault where
  | unknownArgument
  /-- An option has no value, or a path is empty. -/
  | invalidValue
  /-- A value is no number of the right size. -/
  | valueValidation
  /-- Two arguments exclude each other, or one is given twice. -/
  | argumentConflict
  /-- A switch has a value. -/
  | tooManyValues
  | displayHelp
  | displayVersion
  deriving DecidableEq, Repr

inductive ValueOption where
  | source | file | contract | rpcUrl | gasLimit | receiptTimeout | runs | seed | traceAttempts
  | settleDelay | pendingDelay | retryDelay | compiler | optimizerRuns | profileTransaction
  | fromReport | jsonOutput | reportOutput
  deriving DecidableEq, Repr

inductive Switch where
  | optimize | inheritFields | compileOnly | printSteps | logJson | noStatus
  | verbose | help | version
  deriving DecidableEq, Repr

def valueOptions : List (String × ValueOption) :=
  [("config", .file), ("contract", .contract), ("rpc-url", .rpcUrl), ("gas-limit", .gasLimit),
   ("receipt-timeout", .receiptTimeout), ("runs-per-function", .runs), ("seed", .seed),
   ("trace-attempts", .traceAttempts), ("trace-settle-delay", .settleDelay),
   ("trace-pending-delay", .pendingDelay), ("trace-retry-delay", .retryDelay),
   ("solc", .compiler), ("optimizer-runs", .optimizerRuns), ("profile-tx", .profileTransaction),
   ("from-report", .fromReport), ("json-output", .jsonOutput), ("report-output", .reportOutput)]

def switches : List (String × Switch) :=
  [("optimize", .optimize), ("source-map-inherit", .inheritFields),
   ("compile-only", .compileOnly), ("print-steps", .printSteps), ("log-json", .logJson),
   ("no-status", .noStatus), ("verbose", .verbose), ("help", .help), ("version", .version)]

def shortSwitches : List (Char × Switch) := [('v', .verbose), ('h', .help), ('V', .version)]

/-! ### Values -/

def pathValue (s : String) : Except ArgumentFault String :=
  if s = "" then .error .invalidValue else .ok s

def wordValue (s : String) : Except ArgumentFault Nat :=
  match readU64 s with
  | .ok n => .ok n
  | .error _ => .error .valueValidation

/-- A number of 32 bits; it is read with its sign first. -/
def halfValue (s : String) : Except ArgumentFault Nat :=
  match readInt64 s.toList with
  | .ok n => if 0 ≤ n ∧ n ≤ maxU32 then .ok n.toNat else .error .valueValidation
  | .error _ => .error .valueValidation

def assign (c : Config) (o : ValueOption) (s : String) : Except ArgumentFault Config := do
  match o with
  | .source => return { c with source := some (← pathValue s) }
  | .file => return { c with file := some (← pathValue s) }
  | .contract => return { c with contract := some s }
  | .rpcUrl => return { c with rpcUrl := s }
  | .gasLimit => return { c with gasLimit := ← wordValue s }
  | .receiptTimeout => return { c with receiptTimeout := s }
  | .runs => return { c with runs := ← wordValue s }
  | .seed => return { c with seed := some (← wordValue s) }
  | .traceAttempts => return { c with traceAttempts := ← halfValue s }
  | .settleDelay => return { c with settleDelay := s }
  | .pendingDelay => return { c with pendingDelay := s }
  | .retryDelay => return { c with retryDelay := s }
  | .compiler => return { c with compiler := s }
  | .optimizerRuns => return { c with optimizerRuns := ← halfValue s }
  | .profileTransaction => return { c with profileTransaction := some s }
  | .fromReport => return { c with fromReport := some (← pathValue s) }
  | .jsonOutput => return { c with jsonOutput := some (← pathValue s) }
  | .reportOutput => return { c with reportOutput := some (← pathValue s) }

def turnOn (c : Config) : Switch → Except ArgumentFault Config
  | .optimize => .ok { c with optimize := true }
  | .inheritFields => .ok { c with inheritFields := true }
  | .compileOnly => .ok { c with compileOnly := true }
  | .printSteps => .ok { c with printSteps := true }
  | .logJson => .ok { c with logJson := true }
  | .noStatus => .ok { c with noStatus := true }
  | .verbose => .ok { c with verbosity := min 255 (c.verbosity + 1) }
  | .help => .error .displayHelp
  | .version => .error .displayVersion

/-! ### Words -/

/-- Arguments that have been taken in part. -/
structure Intake where
  config : Config
  /-- The options whose values are in the configuration. -/
  given : List ValueOption
  turned : List Switch
  /-- The option that was named last, with its value if that has come. -/
  pending : Option (ValueOption × Option String)
  /-- Whether every further word is the source. -/
  literal : Bool

namespace Intake

def start (c : Config) : Intake := ⟨c, [], [], none, false⟩

/-- The value of an option, which is given once. -/
def accept (i : Intake) (o : ValueOption) (s : String) : Except ArgumentFault Intake :=
  if i.given.contains o then .error .argumentConflict
  else (assign i.config o s).map fun config => { i with config, given := o :: i.given }

/-- The pending option settled. -/
def settle (i : Intake) : Except ArgumentFault Intake :=
  match i.pending with
  | none => .ok i
  | some (_, none) => .error .invalidValue
  | some (o, some s) => { i with pending := none }.accept o s

/-- A switch, which is given once unless it counts. -/
def takeSwitch (i : Intake) (s : Switch) : Except ArgumentFault Intake := do
  let i ← i.settle
  if s ≠ .verbose ∧ i.turned.contains s then throw .argumentConflict
  let config ← turnOn i.config s
  return { i with config, turned := s :: i.turned }

def takeCluster (i : Intake) : List Char → Except ArgumentFault Intake
  | [] => .ok i
  | c :: r =>
    match shortSwitches.lookup c with
    | none => .error .unknownArgument
    | some s =>
      match i.takeSwitch s with
      | .error e => .error e
      | .ok i => takeCluster i r

/-- A name behind two hyphens, and what follows its equals sign if it has one. -/
def splitName (body : List Char) : String × Option String :=
  let name := String.ofList (body.takeWhile (· ≠ '='))
  match body.dropWhile (· ≠ '=') with
  | [] => (name, none)
  | _ :: value => (name, some (String.ofList value))

def takeName (i : Intake) (body : List Char) : Except ArgumentFault Intake := do
  let (name, value) := splitName body
  match valueOptions.lookup name, switches.lookup name, value with
  | some o, _, some s =>
    let i ← i.settle
    i.accept o s
  | some o, _, none =>
    let i ← i.settle
    return { i with pending := some (o, none) }
  | none, some _, some _ => throw .tooManyValues
  | none, some s, none => i.takeSwitch s
  | none, none, _ => throw .unknownArgument

def hasSource (i : Intake) : Bool :=
  i.given.contains .source || i.pending.any fun p => p.1 = .source

def takeSource (i : Intake) (word : String) : Except ArgumentFault Intake := do
  if i.hasSource then throw .unknownArgument
  let i ← i.settle
  return { i with pending := some (.source, some word) }

/-- A word without hyphens in front: a value if one is expected, else the source. -/
def takePlain (i : Intake) (word : String) : Except ArgumentFault Intake :=
  match i.pending with
  | some (o, none) => .ok { i with pending := some (o, some word) }
  | _ => i.takeSource word

def take (i : Intake) (word : String) : Except ArgumentFault Intake :=
  if i.literal then i.takeSource word
  else match word.toList with
    | ['-', '-'] => .ok { i with literal := true }
    | '-' :: '-' :: body => i.takeName body
    | '-' :: c :: cluster => i.takeCluster (c :: cluster)
    | _ => i.takePlain word

end Intake

/-! ### All words -/

/-- Whether the special modes that were asked for exclude each other. -/
def conflicting (c : Config) : Bool :=
  (c.compileOnly && (c.profileTransaction.isSome || c.fromReport.isSome)) ||
    (c.profileTransaction.isSome && c.fromReport.isSome)

/-- The configuration before the first word: two variables of the environment stand for options
that are not given. -/
def ofEnvironment (environment : List (String × String)) : Config :=
  { builtIn with
    rpcUrl := (environment.lookup "RPC_URL").getD builtIn.rpcUrl
    compiler := (environment.lookup "SOLC").getD builtIn.compiler }

def ofArguments (environment : List (String × String)) (words : List String) :
    Except ArgumentFault Config := do
  let i ← words.foldlM Intake.take (.start (ofEnvironment environment))
  let i ← i.settle
  if conflicting i.config then throw .argumentConflict
  return i.config

end GasLens.Config
