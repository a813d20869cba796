/-
  GasLens/Outcome.lean
  ====================
  **Outcomes** — how a run of the command ended, and the time it took in words.
-/
import GasLens.Json.Basic
import GasLens.Text.Integer

namespace GasLens

open GasLens.Text

inductive ExitCode where
  | success
  | error
  /-- The run is complete, but no function left a sample. -/
  | noSamples
  /-- The program stopped at a sum or a product that does not fit a word. -/
  | stopped
  deriving DecidableEq, Repr

def ExitCode.number : ExitCode → Nat
  | .success => 0
  | .error => 1
  | .noSamples => 2
  | .stopped => 101

structure Duration where
  seconds : Nat
  nanoseconds : Nat
  deriving DecidableEq, Repr

namespace Duration

def secondNanos : Nat := 1000000000

/-- A span of time; whole seconds among the nanoseconds count as seconds. -/
def ofParts (seconds nanoseconds : Nat) : Duration :=
  ⟨seconds + nanoseconds / secondNanos, nanoseconds % secondNanos⟩

def yearSeconds : Nat := 31557600

def monthSeconds : Nat := 2630016

def daySeconds : Nat := 86400

/-- A number with a unit that is told apart for more than one. -/
def plural (n : Nat) (unit : String) : List String :=
  if n = 0 then [] else [natText n ++ unit ++ (if 1 < n then "s" else "")]

def short (n : Nat) (unit : String) : List String :=
  if n = 0 then [] else [natText n ++ unit]

/-- The parts of a span that are not zero, from years to nanoseconds. -/
def parts (d : Duration) : List String :=
  let afterYears := d.seconds % yearSeconds
  let afterMonths := afterYears % monthSeconds
  let afterDays := afterMonths % daySeconds
  plural (d.seconds / yearSeconds) "year" ++ plural (afterYears / monthSeconds) "month" ++
    plural (afterMonths / daySeconds) "day" ++ short (afterDays / 3600) "h" ++
    short (afterDays % 3600 / 60) "m" ++ short (afterDays % 60) "s" ++
    short (d.nanoseconds / 1000000) "ms" ++ short (d.nanoseconds / 1000 % 1000) "us" ++
    short (d.nanoseconds % 1000) "ns"

def text (d : Duration) : String :=
  match d.parts with
  | [] => "0s"
  | parts => " ".intercalate parts

end Duration

structure Outcome where
  exitCode : ExitCode
  contract : Option String
  functions : Nat
  samples : Nat
  totalCost : Nat
  duration : Duration
  deriving DecidableEq, Repr

namespace Outcome

def empty : Outcome := ⟨.success, none, 0, 0, 0, ⟨0, 0⟩⟩

def ofContract (name : String) : Outcome := { empty with contract := some name }

def succeeded (o : Outcome) : Bool := o.exitCode = .success

def toJson (o : Outcome) : Json :=
  .object
    [("exitcode", .ofNat o.exitCode.number), ("contract", .ofOption .string o.contract),
     ("functions", .ofNat o.functions), ("samples", .ofNat o.samples),
     ("totalCost", .ofNat o.totalCost), ("duration", .string o.duration.text)]

end Outcome

end GasLens
