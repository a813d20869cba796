/-
  GasLens/Log.lean
  ================
  **Logs** — what the stages of a run report, and which warnings are reported once only.

  A logger is a name within a family. Children and copies belong to the family of the logger
  they come from, and each family remembers the warnings it has seen. A journal holds what was
  logged and what every family remembers.
-/
namespace GasLens

inductive LogLevel where
  | debug | info | warn | error
  deriving DecidableEq, Repr

def LogLevel.name : LogLevel → String
  | .debug => "debug"
  | .info => "info"
  | .warn => "warn"
  | .error => "error"

/-- The kinds of warnings that have a page of their own. -/
inductive WarningCode where
  | compilerWarning
  | noReceipt
  | traceUnavailable
  | invalidTrace
  | seedFailed
  | invocationFailed
  | unmappedBytecode
  | libraryPlaceholder
  deriving DecidableEq, Repr

def WarningCode.name : WarningCode → String
  | .compilerWarning => "compiler-warning"
  | .noReceipt => "no-receipt"
  | .traceUnavailable => "trace-unavailable"
  | .invalidTrace => "invalid-trace"
  | .seedFailed => "seed-failed"
  | .invocationFailed => "invocation-failed"
  | .unmappedBytecode => "unmapped-bytecode"
  | .libraryPlaceholder => "library-placeholder"

def warningsPage : String := "https://github.com/soloptic/soloptic/wiki/warnings"

def WarningCode.url (c : WarningCode) : String := warningsPage ++ "#" ++ c.name

structure LogEntry where
  level : LogLevel
  component : String
  message : String
  code : Option WarningCode
  deriving DecidableEq, Repr

/-- A name under which entries are made, and the family that remembers its warnings. -/
structure Logger where
  component : String
  family : Nat
  deriving DecidableEq, Repr

def defaultComponent : String := "soloptic"

def Logger.child (l : Logger) (component : String) : Logger := { l with component }

/-- What was logged and what is remembered. -/
structure Journal where
  /-- The entries, the newest first. -/
  written : List LogEntry
  /-- The texts that each family has seen. -/
  seen : List (Nat × String)
  /-- The number of families. -/
  families : Nat
  deriving DecidableEq, Repr

namespace Journal

def empty : Journal := ⟨[], [], 0⟩

def entries (j : Journal) : List LogEntry := j.written.reverse

def newLogger (j : Journal) (component : String) : Logger × Journal :=
  (⟨component, j.families⟩, { j with families := j.families + 1 })

def write (j : Journal) (l : Logger) (level : LogLevel) (message : String) : Journal :=
  { j with written := ⟨level, l.component, message, none⟩ :: j.written }

def warningText (code : WarningCode) (message : String) : String :=
  message ++ "\n(see " ++ code.url ++ ")"

def hasSeen (j : Journal) (family : Nat) (text : String) : Bool := j.seen.contains (family, text)

def writeWarning (j : Journal) (l : Logger) (code : WarningCode) (text : String) : Journal :=
  { j with written := ⟨.warn, l.component, text, some code⟩ :: j.written }

/-- A warning, and whether it was logged. Unless it may be repeated, it is logged only if its
family has not seen it, and is remembered. -/
def warn (j : Journal) (l : Logger) (code : WarningCode) (message : String)
    (repeatable : Bool) : Bool × Journal :=
  let text := warningText code message
  if repeatable then (true, j.writeWarning l code text)
  else if j.hasSeen l.family text then (false, j)
  else (true, { j with seen := (l.family, text) :: j.seen }.writeWarning l code text)

end Journal

/-- The level that a number of requests for more detail stands for. -/
def levelForVerbosity (verbosity : Nat) : String :=
  match verbosity with
  | 0 => "warn"
  | 1 => "info"
  | 2 => "debug"
  | _ => "trace"

/-- The number of requests for more detail from which on a level is shown. -/
def LogLevel.shownFrom : LogLevel → Nat
  | .error | .warn => 0
  | .info => 1
  | .debug => 2

def shownEntries (verbosity : Nat) (entries : List LogEntry) : List LogEntry :=
  entries.filter fun e => e.level.shownFrom ≤ verbosity

def LogEntry.line (e : LogEntry) : String :=
  e.level.name ++ " " ++ e.component ++ ": " ++ e.message ++ "\n"

end GasLens
