/-
  GasLens/Bytecode/Instruction.lean
  =================================
  **Instructions** — bytecode cut into instructions, from left to right.

  The cut steps over the operand of every push, so a byte of an operand is never taken for an
  instruction. At the end of the code an operand may be shorter than its push asks for.
  `Chunk` is the cut itself: the bytes of all chunks in a row are the code. `Instruction` adds
  the place of a chunk.
-/
import GasLens.Bytecode.Opcode
import GasLens.Text.Hex
import GasLens.Text.Blank
import GasLens.Fault

namespace GasLens.Bytecode

open GasLens.Text

/-- A code with the bytes of its operand. -/
structure Chunk where
  opcode : UInt8
  operand : List UInt8
  deriving DecidableEq, Repr

def Chunk.bytes (c : Chunk) : List UInt8 := c.opcode :: c.operand

def Chunk.size (c : Chunk) : Nat := 1 + c.operand.length

def chunks : List UInt8 → List Chunk
  | [] => []
  | opcode :: r =>
    ⟨opcode, r.take (operandLength opcode)⟩ :: chunks (r.drop (operandLength opcode))
  termination_by code => code.length
  decreasing_by rw [List.length_cons, List.length_drop]; omega

/-- An instruction at its place in the code. -/
structure Instruction where
  /-- The offset of its first byte. -/
  pc : Nat
  opcode : UInt8
  /-- The number of instructions before it. -/
  index : Nat
  /-- The bytes it occupies, its operand included. -/
  size : Nat
  deriving DecidableEq, Repr

namespace Instruction

def isPush (i : Instruction) : Bool := Bytecode.isPush i.opcode

def immediateLength (i : Instruction) : Nat := operandLength i.opcode

def nextPc (i : Instruction) : Nat := i.pc + i.size

def mnemonic (i : Instruction) : String := Bytecode.mnemonic i.opcode

end Instruction

/-- Chunks with their places, the first one at the given offset and index. -/
def placed : Nat → Nat → List Chunk → List Instruction
  | _, _, [] => []
  | pc, index, c :: r => ⟨pc, c.opcode, index, c.size⟩ :: placed (pc + c.size) (index + 1) r

def instructionsOf (code : List UInt8) : List Instruction := placed 0 0 (chunks code)

def decode (code : List UInt8) : Except DecodeFault (List Instruction) :=
  if code.isEmpty then .error .empty else .ok (instructionsOf code)

def decodeFaultOf : HexFault → DecodeFault
  | .oddLength n => .oddLength n
  | .invalidCharacter c i => .invalidHex c i

/-- The digits of a text: without white space around them and without the mark in front. -/
def codeDigits (text : String) : List Char := dropHexMark (trim text.toList)

def bytesOfText (text : String) : Except DecodeFault (List UInt8) :=
  match codeDigits text with
  | [] => .error .empty
  | digits => (readHex (utf8 digits)).mapError decodeFaultOf

def decodeText (text : String) : Except DecodeFault (List Instruction) :=
  (bytesOfText text).bind decode

theorem chunks_nil : chunks [] = [] := by
  simp [chunks]

theorem chunks_cons (opcode : UInt8) (r : List UInt8) :
    chunks (opcode :: r) =
      ⟨opcode, r.take (operandLength opcode)⟩ :: chunks (r.drop (operandLength opcode)) := by
  rw [chunks]

/-- The bytes of all chunks in a row are the code. -/
theorem flatMap_bytes_chunks (code : List UInt8) : (chunks code).flatMap Chunk.bytes = code := by
  fun_induction chunks code with
  | case1 => rfl
  | case2 opcode r ih => simp [Chunk.bytes, ih]

end GasLens.Bytecode
