/-
  GasLens/Command/Listing.lean
  ============================
  **Summaries** — what a run prints about a compiled contract and about the profile of a
  transaction, line by line.
-/
import GasLens.Abi.Function
import GasLens.Compiler.Contract
import GasLens.Heatmap.Listing
import GasLens.Profile

namespace GasLens

open GasLens.Source GasLens.Text

def nameStyle : Style := .tinted .cyan

def successStyle : Style := ⟨some .green, [.bold]⟩

/-! ### Compiled contracts -/

/-- The line of a function: its selector, its signature and whether it accepts money. -/
def functionLine (f : Abi.Function) : String :=
  "  0x" ++ hexText f.selector ++ "  " ++ f.signature ++ (if f.isPayable then " payable" else "")

/-- The line of a contract: its name and its size. -/
def contractLine (color : Bool) (c : CompiledContract) : String :=
  paint color successStyle id "Compiled" ++ " " ++ paint color nameStyle id c.name ++ " (" ++
    natText ((bytesOf c.runtimeCode).length / 2) ++ " runtime bytes)"

def mapLine (map : PcLineMap) : String :=
  "  " ++ natText map.size ++ " instructions, " ++ natText map.mappedCount ++ " mapped, " ++
    natText map.unmappedCount ++ " unmapped"

def contractLines (color : Bool) (c : CompiledContract) (map : PcLineMap)
    (functions : List Abi.Function) : List String :=
  contractLine color c :: mapLine map :: functions.map functionLine

/-! ### Profiles -/

/-- The line of a source with a number, without white space around it; nothing if there is no
such line. -/
def sourceLineText (lines : List (List Char)) (line : Line) : String :=
  if 1 ≤ line then String.ofList (trim (lines.getD (line.toNat - 1) [])) else ""

def profileRow (lines : List (List Char)) (c : LineCost) : String :=
  padLeft 6 (intText c.line) ++ " " ++ padLeft 10 (natText c.cost) ++ "  " ++
    sourceLineText lines c.line

/-- The lines about the profile of a transaction, with the gas of all lines. -/
def profileLines (color : Bool) (c : CompiledContract) (p : Profile) (mapped : Nat) :
    List String :=
  let heading := paint color headingStyle id "Profile" ++ " " ++ paint color nameStyle id c.name ++
    " (gas: " ++ natText p.totalCost ++ ", attributed: " ++ natText mapped ++ ")"
  heading :: p.topLines.map (profileRow (split '\n' c.source.toList))

end GasLens
