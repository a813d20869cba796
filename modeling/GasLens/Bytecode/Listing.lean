/-
  GasLens/Bytecode/Listing.lean
  =============================
  **Listings of code** — one line for each instruction: its offset in six hexadecimal digits,
  its name, and the bytes of its operand where there are any.
-/
import GasLens.Bytecode.Instruction
import GasLens.Text.Pad

namespace GasLens.Bytecode

open GasLens.Text

/-- The operand in a line: nothing if no byte of it is there. -/
def operandText : List UInt8 → List Char
  | [] => []
  | bytes => " 0x".toList ++ hexChars bytes

def chunkLine (pc : Nat) (c : Chunk) : List Char :=
  zeroFilled 6 (Nat.toDigits 16 pc) ++ ": ".toList ++ (mnemonic c.opcode).toList ++
    operandText c.operand ++ ['\n']

/-- The lines of chunks, the first one at the given offset. -/
def chunkLines : Nat → List Chunk → List (List Char)
  | _, [] => []
  | pc, c :: r => chunkLine pc c :: chunkLines (pc + c.size) r

def listing (code : List UInt8) : List Char := (chunkLines 0 (chunks code)).flatten

def disassemble (code : List UInt8) : Except DecodeFault String :=
  if code.isEmpty then .error .empty else .ok (String.ofList (listing code))

end GasLens.Bytecode
