/-
  GasLens/Compiler/Source.lean
  ============================
  **Requests to the compiler** — the source without the fences of a pasted text, and the document
  that asks for its compilation.
-/
import GasLens.Json.Basic
import GasLens.Text.Search

namespace GasLens.Compiler

open GasLens.Text

def openingFence : List Char := "```solidity".toList

def fence : List Char := "```".toList

def withoutFences (cs : List Char) : List Char := replace fence [] (replace openingFence [] cs)

/-- A source without fences. Everything about lines and offsets refers to this text. -/
def stripFences (source : String) : String := String.ofList (withoutFences source.toList)

def unitName : String := "UserContract.sol"

def defaultOptimizerRuns : Nat := 200

def defaultCommand : String := "solc"

def wantedOutputs : List String :=
  ["abi", "evm.bytecode", "evm.deployedBytecode", "evm.methodIdentifiers", "metadata"]

def request (source : String) (optimize : Bool) (runs : Nat) : Json :=
  .object
    [("language", .string "Solidity"),
     ("settings", .object
       [("optimizer", .object [("enabled", .bool optimize), ("runs", .ofNat runs)]),
        ("outputSelection", .object
          [("*", .object [("*", .array (wantedOutputs.map Json.string))])])]),
     ("sources", .object [(unitName, .object [("content", .string source)])])]

def versionMark : List Char := "Version: ".toList

/-- Digits at the front of a text, at least one of them, and what follows. -/
def readDigitRun (cs : List Char) : Option (List Char × List Char) :=
  match cs.takeWhile Char.isDigit with
  | [] => none
  | digits => some (digits, cs.dropWhile Char.isDigit)

/-- Three numbers between points, at the front of a text. -/
def readVersion (cs : List Char) : Option (List Char) := do
  let (major, r) ← readDigitRun cs
  let r ← dropLeading? ['.'] r
  let (minor, r) ← readDigitRun r
  let r ← dropLeading? ['.'] r
  let (patch, _) ← readDigitRun r
  return major ++ '.' :: minor ++ '.' :: patch

def findVersion : List Char → Option (List Char)
  | [] => none
  | c :: r =>
    match (dropLeading? versionMark (c :: r)).bind readVersion with
    | some v => some v
    | none => findVersion r

def versionOf? (text : String) : Option String := (findVersion text.toList).map String.ofList

end GasLens.Compiler
