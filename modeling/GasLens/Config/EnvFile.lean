/-
  GasLens/Config/EnvFile.lean
  ===========================
  **Environment files** — variables assigned line by line, with quotes, escapes and references
  to other variables.

  A variable that exists keeps its value. The first line that is malformed ends the reading; the
  assignments above it hold.
-/
import GasLens.Files
import GasLens.Text.Alphanumeric
import GasLens.Text.Integer

namespace GasLens.Config

open GasLens.Text

/-- Variables with their values; the first entry of a name counts. -/
abbrev Variables := List (String × String)

/-- The value that a reference stands for: that of the environment, else the one that the file
has assigned, else nothing. -/
def valueOfReference (environment assigned : Variables) (name : List Char) : List Char :=
  let name := String.ofList name
  (((environment.lookup name).or (assigned.lookup name)).getD "").toList

/-! ### Values -/

/-- Where the reading of a value stands. -/
inductive ValueMode where
  | plain
  /-- Within single quotes. -/
  | strong
  /-- Behind the value, where only a comment may follow. -/
  | done
  deriving DecidableEq, Repr

/-- A reference that is being read. -/
inductive Reference where
  | none
  /-- The name so far, newest character first. -/
  | bare (name : List Char)
  | braced (name : List Char)
  deriving DecidableEq, Repr

/-- A value that has been read in part. -/
structure ValueState where
  /-- The value so far, newest character first. -/
  read : List Char
  mode : ValueMode
  /-- Whether the text is within double quotes. -/
  weak : Bool
  /-- Whether a backslash stands in front. -/
  escaped : Bool
  reference : Reference
  deriving DecidableEq, Repr

namespace ValueState

def start : ValueState := ⟨[], .plain, false, false, .none⟩

def push (s : ValueState) (c : Char) : ValueState := { s with read := c :: s.read }

def resolve (lookup : List Char → List Char) (s : ValueState) (name : List Char) : ValueState :=
  { s with read := (lookup name.reverse).reverse ++ s.read, reference := .none }

/-- The characters that a backslash may stand in front of, and what they stand for. -/
def escape? : Char → Option Char
  | '\\' => some '\\'
  | '\x27' => some '\x27'
  | '"' => some '"'
  | '$' => some '$'
  | ' ' => some ' '
  | 'n' => some '\n'
  | _ => none

def stepReference (lookup : List Char → List Char) (s : ValueState) (c : Char) : ValueState :=
  match s.reference with
  | .none => s
  | .bare name =>
    if isAlphanumeric c then { s with reference := .bare (c :: name) }
    else if c = '\x7b' ∧ name = [] then { s with reference := .braced [] }
    else
      let s := s.resolve lookup name
      if c = '$' then { s with reference := .bare [] } else s.push c
  | .braced name =>
    if c = '\x7d' then s.resolve lookup name else { s with reference := .braced (c :: name) }

def stepText (s : ValueState) (c : Char) : ValueState :=
  if c = '$' then { s with reference := .bare [] }
  else if c = '\\' then { s with escaped := true }
  else if c = '"' then { s with weak := !s.weak }
  else if s.weak then s.push c
  else if c = '\x27' then { s with mode := .strong }
  else if c = ' ' ∨ c = '\t' then { s with mode := .done }
  else s.push c

/-- A character; none if it may not stand there. -/
def step (lookup : List Char → List Char) (s : ValueState) (c : Char) : Option ValueState :=
  match s.mode with
  | .done => if c = ' ' ∨ c = '\t' then some s else none
  | .strong => some (if c = '\x27' then { s with mode := .plain } else s.push c)
  | .plain =>
    if s.escaped then (escape? c).map fun e => { s with escaped := false }.push e
    else if s.reference ≠ .none then some (s.stepReference lookup c)
    else some (s.stepText c)

/-- The characters of a value; behind it a comment ends the reading. -/
def run (lookup : List Char → List Char) : ValueState → List Char → Option ValueState
  | s, [] => some s
  | s, c :: r =>
    if s.mode = .done ∧ c = '#' then some s
    else (s.step lookup c).bind fun s => run lookup s r

/-- The value, if all quotes and braces are closed. -/
def finish (lookup : List Char → List Char) (s : ValueState) : Option (List Char) :=
  if s.mode = .strong ∨ s.weak then none
  else match s.reference with
    | .braced _ => none
    | .bare name => some (s.resolve lookup name).read.reverse
    | .none => some s.read.reverse

end ValueState

def readValue (lookup : List Char → List Char) (cs : List Char) : Option (List Char) :=
  (ValueState.run lookup .start cs).bind fun s => s.finish lookup

/-! ### Lines -/

def beginsName (c : Char) : Bool := c.isAlpha || c = '_'

def inName (c : Char) : Bool := c.isAlpha || isDecimalDigit c || c = '_' || c = '.'

/-- A name at the front of a text, and what follows it and the white space behind. -/
def readName : List Char → Option (List Char × List Char)
  | c :: r =>
    if beginsName c then
      some ((c :: r).takeWhile inName, trimLeft ((c :: r).dropWhile inName))
    else none
  | [] => none

def dropEquals : List Char → Option (List Char)
  | '=' :: r => some r
  | _ => none

def exportWord : List Char := "export".toList

def readTarget (cs : List Char) : Option (List Char × List Char) := do
  let (name, r) ← readName cs
  match dropEquals r with
  | some value => return (name, value)
  | none =>
    if name ≠ exportWord then failure
    let (name, r) ← readName r
    return (name, ← dropEquals r)

inductive EnvLine where
  | blank
  | assignment (name value : String)
  | malformed
  deriving DecidableEq, Repr

def isVoid (cs : List Char) : Bool := cs.isEmpty || cs.head? = some '#'

/-- What a line says, given the variables it may refer to. -/
def readEnvLine (environment assigned : Variables) (line : List Char) : EnvLine :=
  let cs := trim line
  if isVoid cs then .blank
  else match readTarget cs with
    | none => .malformed
    | some (name, r) =>
      let r := trimLeft r
      if isVoid r then .assignment (String.ofList name) ""
      else match readValue (valueOfReference environment assigned) r with
        | some value => .assignment (String.ofList name) (String.ofList value)
        | none => .malformed

/-- The lines of a text, without their ends. -/
def linesOf (s : String) : List (List Char) :=
  let pieces := split '\n' s.toList
  let lines := if pieces.getLast? = some [] then pieces.dropLast else pieces
  lines.map fun l => (dropClosing? ['\r'] l).getD l

/-- What is left of the reading of a file. -/
structure EnvReading where
  environment : Variables
  /-- Whether every line was well-formed. -/
  complete : Bool
  deriving DecidableEq, Repr

def readEnvLines (environment assigned : Variables) : List (List Char) → EnvReading
  | [] => ⟨environment, true⟩
  | line :: lines =>
    match readEnvLine environment assigned line with
    | .blank => readEnvLines environment assigned lines
    | .malformed => ⟨environment, false⟩
    | .assignment name value =>
      let known := (environment.lookup name).isSome
      readEnvLines (if known then environment else (name, value) :: environment)
        ((name, value) :: assigned) lines

def readEnvText (environment : Variables) (text : String) : EnvReading :=
  readEnvLines environment [] (linesOf text)

/-! ### Files -/

def envFileName : String := ".env"

/-- Where an environment file is looked for: the working directory, then those above it. -/
def envFilePlaces (above : List String) : List String :=
  envFileName :: above.map fun directory => Files.inDirectory directory envFileName

def holdsText (files : Files) (path : String) : Bool := (files.read path).toBool

/-- The file that a path leads to: a directory stands for the file in it. Without a path it is
the nearest one. -/
def envFilePath (files : Files) (above : List String) : Option String → Option String
  | none => (envFilePlaces above).find? (holdsText files)
  | some path =>
    some (if files.isDirectory path then Files.inDirectory path envFileName else path)

/-- The environment file that a path leads to, if there is one, and what is left of its
reading. -/
def loadEnvFile (files : Files) (above : List String) (path : Option String)
    (environment : Variables) : Option String × EnvReading :=
  match envFilePath files above path with
  | none => (none, ⟨environment, true⟩)
  | some file =>
    match files.read file with
    | .ok text => (some file, readEnvText environment text)
    | .error _ => (none, ⟨environment, true⟩)

end GasLens.Config
