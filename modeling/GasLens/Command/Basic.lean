/-
  GasLens/Command/Basic.lean
  ==========================
  **Commands** — what a run of the program finds around it, what it leaves behind, and why it
  may end early.

  A command is a computation over its progress: the lines printed so far, the files as they are
  by then, the journal and the connection to the node. A fault ends the command and leaves the
  progress as it is, so what was printed or written before the fault stays.
-/
import GasLens.Compiler.Run
import GasLens.Config.Load
import GasLens.Node.Client
import GasLens.Outcome
import GasLens.Random
import GasLens.Text.Tone

namespace GasLens

open GasLens.Text

structure Site (State : Type) where
  files : Files
  /-- The directories above the working one, the nearest first. -/
  above : List String
  environment : Config.Variables
  /-- How the table of a settings file is gone through. -/
  visiting : Config.VisitingOrder
  /-- The compilers by their commands. -/
  compiler : String → Compiler.Executable
  /-- The nodes by their addresses. -/
  node : String → Node.Oracle State
  /-- The random words of a run without a seed. -/
  entropy : Random.WordSource

/-! ### Faults -/

/-- Why a run ends early. -/
inductive CommandFault where
  | load (cause : Config.LoadFault)
  | config (cause : ConfigFault)
  | unreadableSource (path : String) (cause : FileFault)
  | unreadableReport (path : String) (cause : FileFault)
  | unwritable (path : String) (cause : FileFault)
  | rejectedReport (path : String) (cause : Fault)
  | compilation (cause : Fault)
  | mapping (contract : String) (cause : Fault)
  | tracing (transaction : String) (cause : Fault)
  | fuzzing (contract : String) (cause : Fault)
  /-- The random words give no call. -/
  | endlessDraw (contract : String)
  /-- A sum does not fit a word. The program stops. -/
  | overflow
  /-- A fault of no particular stage. -/
  | plain (cause : Fault)

/-- The wording of a fault, from the outermost cause to the innermost one. -/
def CommandFault.message : CommandFault → String
  | .load cause => cause.message
  | .config cause => cause.message
  | .unreadableSource path cause => sourceFaultText path cause
  | .unreadableReport path cause => "Failed to read report " ++ path ++ ": " ++ cause.message
  | .unwritable path cause => "Failed to write " ++ path ++ ": " ++ cause.message
  | .rejectedReport path cause => "Rejected report " ++ path ++ ": " ++ cause.message
  | .compilation cause => "Compilation failed: " ++ cause.message
  | .mapping contract cause => "Cannot map bytecode of " ++ contract ++ ": " ++ cause.message
  | .tracing transaction cause => "Cannot trace " ++ transaction ++ ": " ++ cause.message
  | .fuzzing contract cause => "Fuzzing " ++ contract ++ " failed: " ++ cause.message
  | .endlessDraw contract => "Fuzzing " ++ contract ++ " failed: no random number was accepted"
  | .overflow => overflowText
  | .plain cause => cause.message

/-- Whether the program stops in the middle, instead of ending with a fault. -/
def CommandFault.isStop : CommandFault → Bool
  | .overflow | .config .overflow | .load (.config .overflow) => true
  | _ => false

/-! ### Progress -/

structure Progress (State : Type) where
  /-- The texts printed, the newest first. -/
  printed : List String
  /-- The texts on the error stream, the newest first. -/
  complaints : List String
  files : Files
  /-- The paths that were written with their texts, the newest first. -/
  written : List (String × String)
  journal : Journal
  connection : Node.Connection State
  /-- The request that the compiler was given. -/
  compilerRequest : Option Json

namespace Progress

variable {State : Type}

def start (files : Files) (journal : Journal) (state : State) : Progress State :=
  ⟨[], [], files, [], journal, .ofState state .empty, none⟩

def output (p : Progress State) : String := String.join p.printed.reverse

def errorOutput (p : Progress State) : String := String.join p.complaints.reverse

/-- All that was logged: by the program, then by the client of the node. -/
def entries (p : Progress State) : List LogEntry :=
  p.journal.entries ++ p.connection.journal.entries

end Progress

abbrev Command (State α : Type) := ExceptT CommandFault (StateM (Progress State)) α

namespace Command

variable {State : Type}

/-- The answer of a computation, whose fault is put into words of the caller's choice. -/
def require {ε α : Type} (fault : ε → CommandFault) (r : Except ε α) : Command State α :=
  match r with
  | .ok a => return a
  | .error e => throw (fault e)

theorem run_require_ok {ε α : Type} (fault : ε → CommandFault) (a : α) (p : Progress State) :
    (require fault (.ok a) : Command State α).run p = (.ok a, p) := rfl

/-- A fault leaves the progress as it is. -/
theorem run_require_error {ε α : Type} (fault : ε → CommandFault) (e : ε) (p : Progress State) :
    (require fault (.error e) : Command State α).run p = (.error (fault e), p) := rfl

def fitting {α : Type} (x : Checked α) : Command State α :=
  match x with
  | some a => return a
  | none => throw .overflow

def emit (s : String) : Command State Unit := modify fun p => { p with printed := s :: p.printed }

def complain (s : String) : Command State Unit :=
  modify fun p => { p with complaints := s :: p.complaints }

def print (s : String) : Command State Unit := emit (s ++ "\n")

def log (l : Logger) (level : LogLevel) (message : String) : Command State Unit :=
  modify fun p => { p with journal := p.journal.write l level message }

def readText (fault : FileFault → CommandFault) (path : String) : Command State String := do
  require fault ((← get).files.read path)

def outputPath : String := "/dev/stdout"

def errorPath : String := "/dev/stderr"

def writeText (path content : String) : Command State Unit := do
  if path = outputPath then emit content
  else if path = errorPath then complain content
  else
    let files ← require (CommandFault.unwritable path) ((← get).files.write path content)
    modify fun p => { p with files, written := (path, content) :: p.written }

/-- Writing a text at a path if there is one. -/
def writeTextTo (path : Option String) (content : String) : Command State Unit :=
  match path with
  | some path => writeText path content
  | none => return

end Command

end GasLens
