/-
  GasLens/Config/Load.lean
  ========================
  **Loading a configuration** — from the arguments and from the settings file they lead to.

  The file is the one that the arguments name, or the one of the usual name in the working
  directory. What the arguments say is put over what the file says.
-/
import GasLens.Config.Arguments
import GasLens.Config.EnvFile
import GasLens.Config.Table

namespace GasLens.Config

open GasLens.Text

/-- Why there is no configuration. -/
inductive LoadFault where
  | arguments (cause : ArgumentFault)
  /-- A settings file is no document with a table of settings. -/
  | unparsable (path : String)
  | config (cause : ConfigFault)

def ArgumentFault.message : ArgumentFault → String
  | .unknownArgument => "error: unexpected argument found"
  | .invalidValue => "error: a value is required but none was supplied"
  | .valueValidation => "error: invalid value"
  | .argumentConflict => "error: the arguments cannot be used together"
  | .tooManyValues => "error: unexpected value found; no more were expected"
  | .displayHelp => "Per-line gas profiler for Solidity contracts"
  | .displayVersion => "soloptic"

def LoadFault.message : LoadFault → String
  | .arguments cause => cause.message
  | .unparsable path =>
    "Failed to parse config file: " ++ quoted path ++ ": unexpected form"
  | .config cause => cause.message

def fileName : String := "soloptic.toml"

def settingsPath (files : Files) (c : Config) : Option String :=
  match c.file with
  | some path => some path
  | none => if holdsText files fileName then some fileName else none

def ofText (order : VisitingOrder) (path text : String) : Except LoadFault Config :=
  match settingsOfText? text with
  | none => .error (.unparsable path)
  | some settings => (ofTable order settings).mapError LoadFault.config

def ofFile (order : VisitingOrder) (files : Files) (path : String) : Except LoadFault Config :=
  match files.read path with
  | .error cause => .error (.config (.unreadable path cause))
  | .ok text => ofText order path text

def load (order : VisitingOrder) (files : Files) (environment : Variables)
    (words : List String) : Except LoadFault Config := do
  let given ← (ofArguments environment words).mapError LoadFault.arguments
  match settingsPath files given with
  | none => return given
  | some path =>
    let stored ← ofFile order files path
    return stored.merge given

end GasLens.Config
