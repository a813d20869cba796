/-
  GasLens/Files.lean
  ==================
  **Files** — what stands at the paths of a directory, and the words for what does not.

  A view of the files answers for every path whether a text, a directory or nothing stands
  there. `Files.ofTexts` is the view of a working directory with given texts; its directories are
  those that the paths of the texts name. Of the places outside it, those above it and those that
  every system has are directories too, but nothing is known to stand in them.
-/
import GasLens.Text.Search
import GasLens.Text.Utf8

namespace GasLens

open GasLens.Text

/-- Why no text can be read or written at a path. -/
inductive FileFault where
  | missing
  | isDirectory
  | notDirectory
  /-- A name on the way, or the whole path, is longer than paths can be. -/
  | tooLong
  /-- The path holds the character that ends paths. -/
  | terminated
  | denied
  | full
  /-- Any other reason, in the words of the system. -/
  | refused (reason : String)
  deriving DecidableEq, Repr

def FileFault.message : FileFault → String
  | .missing => "No such file or directory (os error 2)"
  | .isDirectory => "Is a directory (os error 21)"
  | .notDirectory => "Not a directory (os error 20)"
  | .tooLong => "File name too long (os error 36)"
  | .terminated => "file name contained an unexpected NUL byte"
  | .denied => "Permission denied (os error 13)"
  | .full => "No space left on device (os error 28)"
  | .refused reason => reason

/-- What stands at a path. -/
inductive Entry where
  | text (content : String)
  | directory
  | absent (fault : FileFault)
  deriving DecidableEq, Repr

structure Files where
  entry : String → Entry

namespace Files

def read (f : Files) (path : String) : Except FileFault String :=
  match f.entry path with
  | .text content => .ok content
  | .directory => .error .isDirectory
  | .absent fault => .error fault

def isDirectory (f : Files) (path : String) : Bool := f.entry path = .directory

def parentOf (path : String) : String :=
  match (split '/' path.toList).dropLast with
  | [] => "."
  | [[]] => "/"
  | pieces => String.ofList (['/'].intercalate pieces)

/-- A path without the slashes at its end, if there are any. -/
def withoutSlashes? (path : String) : Option String :=
  let kept := (path.toList.reverse.dropWhile (· = '/')).reverse
  if kept.length = path.length then none else some (String.ofList kept)

def checkDirectory (f : Files) (path : String) : Except FileFault Unit :=
  match f.entry path with
  | .directory => .ok ()
  | .text _ => .error .notDirectory
  | .absent fault => .error fault

/-- A device that is never written to. -/
def fullDevice : String := "/dev/full"

def checkWritable (f : Files) (path : String) : Except FileFault Unit :=
  if path = "" then .error .missing
  else if path = fullDevice then .error .full
  else match withoutSlashes? path with
    | some rest => do
      f.checkDirectory (parentOf rest)
      throw .isDirectory
    | none =>
      match f.entry path with
      | .text _ => .ok ()
      | .directory => .error .isDirectory
      | .absent fault => do
        f.checkDirectory (parentOf path)
        if fault = .missing then return else throw fault

def isAbsolute (path : String) : Bool := ['/'].isPrefixOf path.toList

/-- A path as the names on the way, without those that stay in place. -/
def segments (path : String) : List String :=
  (splitString '/' path).filter fun s => s ≠ "" ∧ s ≠ "."

def inDirectory (directory name : String) : String :=
  if ['/'].isSuffixOf directory.toList then directory ++ name else directory ++ "/" ++ name

/-- The directories above the one at an absolute path, the nearest first. -/
def ancestors (path : String) : List String :=
  let names := segments path
  ((List.range names.length).map fun n => "/" ++ "/".intercalate (names.take n)).reverse

inductive Origin where
  | working
  /-- Some directory above the working directory. -/
  | above
  | root
  deriving DecidableEq, Repr

/-- The directory that a way ends in, one name back; the root lies above itself. -/
def stepBack : Origin → List String → Origin × List String
  | .working, [] => (.above, [])
  | origin, way => (origin, way.dropLast)

def originOf (path : String) : Origin := if isAbsolute path then .root else .working

def step (place : Origin × List String) (name : String) : Origin × List String :=
  if name = ".." then stepBack place.1 place.2 else (place.1, place.2 ++ [name])

/-- The place that a path names, where every directory on the way stands. -/
def placeOf (path : String) : Origin × List String :=
  (segments path).foldl step (originOf path, [])

/-- The view with a text at a path, below which nothing can stand. -/
def withText (f : Files) (path content : String) : Files where
  entry q :=
    let place := placeOf path
    let asked := placeOf q
    if asked.1 = place.1 ∧ place.2.isPrefixOf asked.2 then
      if asked.2 = place.2 then .text content else .absent .notDirectory
    else f.entry q

def write (f : Files) (path content : String) : Except FileFault Files :=
  (f.checkWritable path).map fun _ => f.withText path content

theorem read_withText (f : Files) (path content : String) :
    (f.withText path content).read path = .ok content := by
  have h : (placeOf path).2.isPrefixOf (placeOf path).2 = true :=
    List.isPrefixOf_iff_prefix.2 (List.prefix_refl _)
  simp only [read, withText, h, and_self, if_true]

/-- What was written can be read. -/
theorem read_of_write {f g : Files} {path content : String} (h : f.write path content = .ok g) :
    g.read path = .ok content := by
  unfold write at h
  cases hw : f.checkWritable path with
  | error e =>
    rw [hw] at h
    cases h
  | ok u =>
    rw [hw] at h
    cases h
    exact read_withText f path content

/-! ### A working directory -/

/-- The directories that every system has, by the ways to them from the root. -/
def systemDirectories : List String :=
  ["bin", "boot", "dev", "dev/fd", "dev/pts", "dev/shm", "etc", "home", "lib", "lib64", "media",
   "mnt", "opt", "proc", "proc/self", "proc/sys", "root", "run", "sbin", "srv", "sys", "tmp", "usr",
   "usr/bin", "usr/include", "usr/lib", "usr/local", "usr/local/bin", "usr/local/lib", "usr/sbin",
   "usr/share", "var", "var/cache", "var/lib", "var/log", "var/tmp"]

/-- The devices that every system has; nothing is ever read from them. -/
def devices : List String := ["dev/null", "dev/full", "dev/stdin", "dev/stdout", "dev/stderr"]

/-- What every system has at the end of a way from the root. -/
def systemEntry (way : List String) : Entry :=
  let name := "/".intercalate way
  if devices.contains name then .text ""
  else if systemDirectories.contains name then .directory
  else .absent .missing

def entryAt (texts : List (List String × String)) (origin : Origin) (way : List String) : Entry :=
  match origin, way with
  | _, [] => .directory
  | .above, _ => .absent .missing
  | .root, way => systemEntry way
  | .working, way =>
    match texts.find? fun t => t.1 == way with
    | some t => .text t.2
    | none => if texts.any (fun t => way.isPrefixOf t.1) then .directory else .absent .missing

def maxNameSize : Nat := 255

def maxPathSize : Nat := 4095

def follow (texts : List (List String × String)) : Origin → List String → List String → Entry
  | origin, way, [] => entryAt texts origin way
  | origin, way, name :: names =>
    match entryAt texts origin way with
    | .directory =>
      if name = "" ∨ name = "." then follow texts origin way names
      else if name = ".." then
        follow texts (stepBack origin way).1 (stepBack origin way).2 names
      else if maxNameSize < (bytesOf name).length then .absent .tooLong
      else follow texts origin (way ++ [name]) names
    | .text _ => .absent .notDirectory
    | .absent fault => .absent fault

/-- The view of a working directory that holds texts at their paths and nothing else. -/
def ofTexts (texts : List (String × String)) : Files where
  entry path :=
    if path = "" then .absent .missing
    else if path.toList.contains '\x00' then .absent .terminated
    else if maxPathSize < (bytesOf path).length then .absent .tooLong
    else
      follow (texts.map fun t => (segments t.1, t.2)) (originOf path) [] (splitString '/' path)

/-! ### Commands -/

/-- Why a command does not start, if no program goes by its name. What stands at a path is no
program. -/
def commandFault (f : Files) (command : String) : FileFault :=
  if command.toList.contains '\x00' then .refused "nul byte found in provided data"
  else if command.toList.contains '/' then
    match f.entry command with
    | .absent fault => fault
    | _ => .denied
  else if command = "." ∨ command = ".." then .denied
  else if maxNameSize < (bytesOf command).length then .tooLong
  else .missing

end Files

/-! ### Sources -/

def sourceFaultText (path : String) (f : FileFault) : String :=
  "Failed to read source file " ++ path ++ ": " ++ f.message

end GasLens
