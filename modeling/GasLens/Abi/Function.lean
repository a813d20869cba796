/-
  GasLens/Abi/Function.lean
  =========================
  **Functions of an interface** — their signatures, and the two heuristics that make calls more
  likely to succeed: paying something in first, and drawing amounts to withdraw twice.
-/
import GasLens.Abi.Type
import GasLens.Keccak

namespace GasLens.Abi

open GasLens.Text

/-- What a function may do with the state and with money. -/
inductive Mutability where
  | pure | view | nonpayable | payable
  deriving DecidableEq, Repr

def Mutability.name : Mutability → String
  | .pure => "pure"
  | .view => "view"
  | .nonpayable => "nonpayable"
  | .payable => "payable"

def Mutability.ofName? (s : String) : Option Mutability :=
  if s = "pure" then some .pure
  else if s = "view" then some .view
  else if s = "nonpayable" then some .nonpayable
  else if s = "payable" then some .payable
  else none

structure Function where
  name : String
  inputs : List Param
  outputs : List Param
  mutability : Mutability
  /-- The flag by which older descriptions say that money is accepted. -/
  payable : Option Bool
  deriving Repr, BEq

namespace Function

def inputTypes (f : Function) : List ParamType := f.inputs.map Param.type

def signature (f : Function) : String :=
  f.name ++ String.ofList ('(' :: canonicalList f.inputTypes ++ [')'])

def selector (f : Function) : List UInt8 := Keccak.selector f.signature

def isPayable (f : Function) : Bool := f.mutability = .payable || f.payable = some true

def withdrawalFragment : String := "withdraw"

/-- Whether the name suggests a withdrawal of an unsigned amount given first. -/
def looksLikeWithdrawal (f : Function) : Bool :=
  occursIn withdrawalFragment.toList (f.name.toList.map Char.toLower) &&
    f.inputTypes.head?.any ParamType.isUnsigned

def seedName : String := "deposit"

def isSeedDeposit (f : Function) : Bool :=
  f.name = seedName && f.inputs.isEmpty && f.isPayable

end Function

def findSeedDeposit? (functions : List Function) : Option Function :=
  functions.find? Function.isSeedDeposit

end GasLens.Abi
