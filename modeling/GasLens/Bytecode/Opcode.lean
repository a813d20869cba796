/-
  GasLens/Bytecode/Opcode.lean
  ============================
  **Operation codes** — the names of the instructions, and how many bytes of operand follow.

  Codes without an assigned instruction share one name. Only the push instructions have an
  operand: the code that is `n` above the last code before them pushes `n` bytes.
-/
import GasLens.Text.Integer

namespace GasLens.Bytecode

open GasLens.Text

def numbered (stem : String) (first count : Nat) : List String :=
  (List.range count).map fun i => stem ++ natText (first + i)

/-- Runs of names, each with the code of its first one. -/
def families : List (Nat × List String) :=
  [(0x00, ["STOP", "ADD", "MUL", "SUB", "DIV", "SDIV", "MOD", "SMOD", "ADDMOD", "MULMOD", "EXP",
     "SIGNEXTEND"]),
   (0x10, ["LT", "GT", "SLT", "SGT", "EQ", "ISZERO", "AND", "OR", "XOR", "NOT", "BYTE", "SHL",
     "SHR", "SAR"]),
   (0x20, ["KECCAK256"]),
   (0x30, ["ADDRESS", "BALANCE", "ORIGIN", "CALLER", "CALLVALUE", "CALLDATALOAD",
     "CALLDATASIZE", "CALLDATACOPY", "CODESIZE", "CODECOPY", "GASPRICE", "EXTCODESIZE",
     "EXTCODECOPY", "RETURNDATASIZE", "RETURNDATACOPY", "EXTCODEHASH"]),
   (0x40, ["BLOCKHASH", "COINBASE", "TIMESTAMP", "NUMBER", "PREVRANDAO", "GASLIMIT", "CHAINID",
     "SELFBALANCE", "BASEFEE", "BLOBHASH", "BLOBBASEFEE"]),
   (0x50, ["POP", "MLOAD", "MSTORE", "MSTORE8", "SLOAD", "SSTORE", "JUMP", "JUMPI", "PC",
     "MSIZE", "GAS", "JUMPDEST", "TLOAD", "TSTORE", "MCOPY", "PUSH0"]),
   (0x60, numbered "PUSH" 1 32),
   (0x80, numbered "DUP" 1 16),
   (0x90, numbered "SWAP" 1 16),
   (0xa0, numbered "LOG" 0 5),
   (0xf0, ["CREATE", "CALL", "CALLCODE", "RETURN", "DELEGATECALL", "CREATE2"]),
   (0xfa, ["STATICCALL"]),
   (0xfd, ["REVERT", "INVALID", "SELFDESTRUCT"])]

/-- The name of a code in a family, if the family has it. -/
def nameIn (code : Nat) (family : Nat × List String) : Option String :=
  if family.1 ≤ code then family.2[code - family.1]? else none

/-- The name of all codes without an assigned instruction. -/
def unknownName : String := "UNKNOWN"

def mnemonic (opcode : UInt8) : String :=
  (families.findSome? (nameIn opcode.toNat)).getD unknownName

/-- The code before the first push with an operand. -/
def pushBase : Nat := 0x5f

def isPush (opcode : UInt8) : Bool :=
  decide (pushBase < opcode.toNat) && decide (opcode.toNat ≤ pushBase + 32)

def operandLength (opcode : UInt8) : Nat :=
  if isPush opcode then opcode.toNat - pushBase else 0

end GasLens.Bytecode
