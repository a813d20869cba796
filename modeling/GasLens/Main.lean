/-
  GasLens/Main.lean
  =================
  **The program** — a run over the files of the disk.

  The paths that a run looks at become known as its files do: the environment file leads to the
  settings file, and that one to the source and the report. So the files are gathered in rounds,
  the run is worked out over what was gathered, and then its texts are printed and written. This
  layer starts no compiler and opens no connection; a run that needs one says that it is missing.
-/
import GasLens.Command.Run

namespace GasLens.Program

/-- The number of a failure, which some calls give with a minus sign. -/
def failureNumber (code : UInt32) : Nat := if code < 2 ^ 31 then code.toNat else (0 - code).toNat

def faultOf : IO.Error → FileFault
  | .noFileOrDirectory .. => .missing
  | .permissionDenied .. => .denied
  | .inappropriateType _ code _ =>
    if failureNumber code = 20 then .notDirectory else .isDirectory
  | .userError _ => .refused "stream did not contain valid UTF-8"
  | e => .refused (toString e)

def entryAt (path : String) : IO Entry := do
  try
    return .text (← IO.FS.readFile path)
  catch e =>
    match faultOf e with
    | .isDirectory => return .directory
    | fault => return .absent fault

/-- The files that were gathered; at any other path nothing stands. -/
def filesOf (known : List (String × Entry)) : Files where
  entry path := (known.lookup path).getD (.absent .missing)

def rounds : Nat := 3

def variableNames : List String := ["RPC_URL", "SOLC", "CLICOLOR_FORCE"]

def environment : IO Config.Variables :=
  variableNames.filterMapM fun name => do
    return (← IO.getEnv name).map fun value => (name, value)

def randomSeed : IO UInt64 := do
  return (← IO.getRandomBytes 8).foldl (fun n b => n * 256 + b.toUInt64) 0

def site (above : List String) (environment : Config.Variables) (seed : UInt64)
    (known : List (String × Entry)) : Site Unit where
  files := filesOf known
  above := above
  environment := environment
  visiting := .written
  compiler command := .missing ((filesOf known).commandFault command).message
  node _ := fun _ s => (.undelivered "no connection", s)
  entropy := .ofSeed seed

def gather (siteOf : List (String × Entry) → Site Unit) (words : List String) :
    Nat → List (String × Entry) → IO (List (String × Entry))
  | 0, known => return known
  | n + 1, known => do
    let wanted := ((siteOf known).paths words).filter fun p => (known.lookup p).isNone
    let found ← wanted.mapM fun p => do return (p, ← entryAt p)
    gather siteOf words n (found ++ known)

/-- The end of a run: what was logged, printed and said, and the texts that are written. -/
def deliver (c : Conclusion Unit) : IO UInt32 := do
  let stderr ← IO.getStderr
  for e in shownEntries c.verbosity c.progress.entries do
    stderr.putStr e.line
  IO.print c.progress.output
  for (path, content) in c.progress.written.reverse do
    IO.FS.writeFile path content
  stderr.putStr c.errors
  return UInt32.ofNat c.exitCode.number

end GasLens.Program

open GasLens Program in
def main (words : List String) : IO UInt32 := do
  let above := Files.ancestors (← IO.currentDir).toString
  let siteOf := site above (← environment) (← randomSeed)
  deliver ((siteOf (← gather siteOf words rounds [])).run () words)
