/-
  GasLens/Abi/Argument.lean
  =========================
  **Arguments and calls** — the values that are put into a call, and the bytes of a call.

  A call is the selector of its function and the encoded arguments. The types that are not drawn
  at random take a zero of their own shape.
-/
import GasLens.Abi.Function
import GasLens.Abi.Token

namespace GasLens.Abi

open GasLens.Text

inductive Argument where
  | uint (n : Nat)
  | int (n : Int)
  | address (bytes : List UInt8)
  | bool (b : Bool)
  | bytes (content : List UInt8)
  | fixedBytes (content : List UInt8)
  | string (s : String)
  | array (items : List Argument)
  /-- The zero of a type. -/
  | zero (type : ParamType)
  deriving Repr, BEq

instance : Inhabited Argument := ⟨.bool false⟩

def zeroAddress : List UInt8 := List.replicate 20 0

mutual

/-- The zero of a type. An unsupported type takes the number zero. A fixed array is built at any
length, also where no memory could hold it. -/
def zeroToken : ParamType → Token
  | .uint _ => .uint 0
  | .int _ => .int 0
  | .address => .address zeroAddress
  | .bool => .bool false
  | .fixedBytes n => .fixedBytes (List.replicate n 0)
  | .bytes => .bytes []
  | .string => .string ""
  | .array _ => .array []
  | .fixedArray t n => .fixedArray (List.replicate n (zeroToken t))
  | .tuple ts => .tuple (zeroTokens ts)
  | .unsupported _ => .uint 0

def zeroTokens : List ParamType → List Token
  | [] => []
  | t :: ts => zeroToken t :: zeroTokens ts

end

mutual

def Argument.token : Argument → Token
  | .uint n => .uint n
  | .int n => .int n
  | .address bs => .address bs
  | .bool b => .bool b
  | .bytes bs => .bytes bs
  | .fixedBytes bs => .fixedBytes bs
  | .string s => .string s
  | .array as => .array (tokens as)
  | .zero t => zeroToken t

def tokens : List Argument → List Token
  | [] => []
  | a :: as => a.token :: tokens as

end

/-- The bytes of a call with one argument for each input. -/
def encodeCall (f : Function) (arguments : List Argument) : Except Fault (List UInt8) :=
  if arguments.length ≠ f.inputs.length then
    .error (.internal (f.name ++ " takes " ++ natText f.inputs.length ++ " arguments, got " ++
      natText arguments.length))
  else .ok (f.selector ++ encode (tokens arguments))

end GasLens.Abi
