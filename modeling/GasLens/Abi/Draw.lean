/-
  GasLens/Abi/Draw.lean
  =====================
  **Random arguments** — one value for each input of a function, drawn at random.

  Values are small on purpose, so that calls succeed and take the common path. Fixed arrays and
  tuples are zeros and take no word, and neither does an account, which is always the caller.
-/
import GasLens.Abi.Argument
import GasLens.Random

namespace GasLens.Abi

open GasLens.Random

/-- No random integer reaches this bound. -/
def integerBound : Nat := 1000

def boundOfBits (bits : Nat) : Nat :=
  if 64 ≤ bits then integerBound else min integerBound (2 ^ bits)

def randomByteCount : Nat := 4

def textAlphabet : List Char := "0123456789abcdefghijklmnopqrstuvwxyz".toList

def textStart : List Char := "s_".toList

def randomCharCount : Nat := 8

def drawChar : Draw Char := do
  return textAlphabet.getD (← below .whole textAlphabet.length) '0'

def drawText : Draw String := do
  return String.ofList (textStart ++ (← drawMany drawChar randomCharCount))

def drawFixedBytes (size : Nat) : Draw (List UInt8) := do
  let count := min randomByteCount size
  return (← drawMany nextByte count) ++ List.replicate (size - count) 0

def drawUnsigned (bits : Nat) : Draw Argument := do
  return .uint (← below .whole (boundOfBits bits))

def drawArgument (caller : List UInt8) : ParamType → Draw Argument
  | .uint bits => drawUnsigned bits
  | .int bits => do return .int (← below .whole (boundOfBits (bits - 1)))
  | .address => return .address caller
  | .bool => do return .bool (← nextBool)
  | .fixedBytes n => do return .fixedBytes (← drawFixedBytes n)
  | .bytes => do return .bytes (← drawMany nextByte randomByteCount)
  | .string => do return .string (← drawText)
  | .array t => do
    let length ← below .half 2
    return .array (← drawMany (drawArgument caller t) length)
  | t => return .zero t

def drawArguments (caller : List UInt8) : List ParamType → Draw (List Argument)
  | [] => return []
  | t :: ts => do
    let a ← drawArgument caller t
    let as ← drawArguments caller ts
    return a :: as

/-- The first argument drawn once more, if its type is an unsigned integer. -/
def redrawFirst : List ParamType → List Argument → Draw (List Argument)
  | .uint bits :: _, _ :: as => do return (← drawUnsigned bits) :: as
  | _, as => return as

/-- The arguments of one call. A withdrawal draws its amount twice and takes the second. -/
def drawCall (f : Function) (caller : List UInt8) : Draw (List Argument) := do
  let as ← drawArguments caller f.inputTypes
  if f.looksLikeWithdrawal then redrawFirst f.inputTypes as else return as

/-- The amount of money that payments are multiples of. -/
def paymentStep : Nat := 10 ^ 14

def paymentSteps : Nat := 10000

def drawPayment : Draw Nat := do
  return (← below .double (paymentSteps + 1)) * paymentStep

end GasLens.Abi
