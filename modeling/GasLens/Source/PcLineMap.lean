/-
  GasLens/Source/PcLineMap.lean
  =============================
  **From program counters to lines** — the line of the source that each instruction came from.

  The n-th position of a source map belongs to the n-th instruction, whatever the length of the
  instructions before it. Program counters that are no start of an instruction have no line.
-/
import GasLens.Bytecode.Instruction
import GasLens.Source.Position
import GasLens.Source.LineIndex
import GasLens.Text.Search

namespace GasLens.Source

open GasLens.Text GasLens.Bytecode

/-- The lines of instructions by their program counters, in ascending order. -/
structure PcLineMap where
  entries : List (Nat × Line)
  deriving DecidableEq, Repr

/-- The line of the instruction with an index: the line of its position, if it has one. -/
def lineOfInstruction (positions : List Position) (index : LineIndex) (i : Instruction) : Line :=
  match positions[i.index]? with
  | some p => index.lineOf p.start
  | none => unmappedLine

namespace PcLineMap

def empty : PcLineMap := ⟨[]⟩

def ofParts (instructions : List Instruction) (positions : List Position) (index : LineIndex) :
    PcLineMap :=
  ⟨instructions.map fun i => (i.pc, lineOfInstruction positions index i)⟩

def lineFor (m : PcLineMap) (pc : Nat) : Line :=
  ((m.entries.find? fun e => e.1 == pc).map Prod.snd).getD unmappedLine

def size (m : PcLineMap) : Nat := m.entries.length

def mappedCount (m : PcLineMap) : Nat := m.entries.countP fun e => decide (0 < e.2)

def unmappedCount (m : PcLineMap) : Nat := m.size - m.mappedCount

end PcLineMap

def presentMap? (text : Option String) : Option String := text.filter fun s => !allBlank s

/-- What a bytecode holds besides white space around it and a mark in front. -/
def unmarkedCode (text : String) : List Char :=
  let code := trim text.toList
  ((dropLeading? ['0', 'x'] code).or (dropLeading? ['0', 'X'] code)).getD code

/-- A bytecode that is there: it is more than white space, and more than a mark. -/
def presentCode? (text : Option String) : Option String :=
  (text.filter fun s => !allBlank s).filter fun s => !(unmarkedCode s).isEmpty

/-- The map of one compiled program. Without a source map or without code it is empty; a fault
of the code comes before one of the source map. -/
def buildPcLineMap (sourceMap code : Option String) (source : String)
    (policy : EmptyFieldPolicy) : Except Fault PcLineMap :=
  match presentMap? sourceMap, presentCode? code with
  | some sourceMap, some code => do
    let instructions ← (decodeText code).mapError Fault.decode
    let positions ← (readPositions policy sourceMap).mapError Fault.mapFormat
    return .ofParts instructions positions (LineIndex.ofSource source)
  | _, _ => .ok .empty

/-- Every instruction is counted once, with a line or without. -/
theorem PcLineMap.mappedCount_add_unmappedCount (m : PcLineMap) :
    m.mappedCount + m.unmappedCount = m.size := by
  have h : m.mappedCount ≤ m.size := List.countP_le_length
  unfold unmappedCount
  omega

end GasLens.Source
