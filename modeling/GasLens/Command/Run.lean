/-
  GasLens/Command/Run.lean
  ========================
  **Runs** — a run of the program from its arguments to its end.

  The environment file is read first; the variables it assigns count for everything that
  follows. A fault ends the run with its wording on the error stream. A run that stops at a sum
  that does not fit a word leaves what it has done by then, and says nothing itself.
-/
import GasLens.Command.Modes

namespace GasLens

open GasLens.Text

structure Conclusion (State : Type) where
  exitCode : ExitCode
  /-- The error stream, at its end what was said about a fault. -/
  errors : String
  /-- The level of detail that was asked for. -/
  verbosity : Nat
  progress : Progress State

namespace Site

variable {State : Type}

/-! ### The environment -/

/-- The environment file that counts, if there is one, and what is left of its reading. -/
def envFile (s : Site State) : Option String × Config.EnvReading :=
  Config.loadEnvFile s.files s.above none s.environment

def fullEnvironment (s : Site State) : Config.Variables := s.envFile.2.environment

def forcesColor (environment : Config.Variables) : Bool :=
  match environment.lookup "CLICOLOR_FORCE" with
  | some v => v ≠ "0"
  | none => false

def isColored (s : Site State) : Bool := forcesColor s.fullEnvironment

/-! ### The run -/

def logEnvFile (s : Site State) (l : Logger) : Command State Unit :=
  match s.envFile with
  | (some path, r) =>
    if r.complete then Command.log l .debug ("loaded " ++ path)
    else Command.log l .warn ("error loading " ++ path)
  | (none, _) => return

/-- The run, as far as a fault lets it go. -/
def perform (s : Site State) (logger : Logger) (config : Config) : Command State Outcome := do
  s.logEnvFile logger
  Job.perform ⟨s, config, s.isColored, logger⟩

def faultLine (color : Bool) (f : CommandFault) : String :=
  paint color Tone.failure.style id "error:" ++ " " ++ f.message ++ "\n"

/-- How a run ends: with the code of its outcome, or with a fault. -/
def conclude (s : Site State) (verbosity : Nat) :
    Except CommandFault Outcome × Progress State → Conclusion State
  | (.ok o, p) => ⟨o.exitCode, p.errorOutput, verbosity, p⟩
  | (.error f, p) =>
    if f.isStop then ⟨.stopped, p.errorOutput, verbosity, p⟩
    else ⟨.error, p.errorOutput ++ faultLine s.isColored f, verbosity, p⟩

def run (s : Site State) (state : State) (words : List String) : Conclusion State :=
  let (logger, journal) := Journal.empty.newLogger defaultComponent
  let progress := Progress.start s.files journal state
  match Config.load s.visiting s.files s.fullEnvironment words with
  | .error f => s.conclude 0 (.error (.load f), progress)
  | .ok config => s.conclude config.verbosity ((s.perform logger config).run progress)

/-! ### Paths -/

/-- The paths that a configuration names, and the directories of what is to be written. -/
def configPaths (c : Config) : List String :=
  let outputs := c.jsonOutput.toList ++ c.reportOutput.toList
  c.source.toList ++ c.fromReport.toList ++ outputs ++
    outputs.map fun p => Files.parentOf ((Files.withoutSlashes? p).getD p)

/-- The paths that a run looks at, as far as they are known from the files. -/
def paths (s : Site State) (words : List String) : List String :=
  let given := (Config.ofArguments s.fullEnvironment words).toOption
  let settings := given.toList.map fun c => c.file.getD Config.fileName
  let loaded := (Config.load s.visiting s.files s.fullEnvironment words).toOption
  let named := (loaded.map configPaths).getD []
  Config.envFilePlaces s.above ++ settings ++ named

end Site

end GasLens
