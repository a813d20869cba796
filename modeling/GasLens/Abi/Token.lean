/-
  GasLens/Abi/Token.lean
  ======================
  **Calldata encoding** — values in the standard layout of heads and tails.

  A list of values is laid out as heads followed by tails. A static value stands in the heads as
  it is; of a dynamic one the head is the offset of its tail. Values are laid out by their own
  shape. Words have thirty-two bytes, the highest first.
-/
import GasLens.Text.Utf8
import GasLens.Fault

namespace GasLens.Abi

open GasLens.Text

inductive Token where
  | uint (n : Nat)
  | int (n : Int)
  | address (bytes : List UInt8)
  | bool (b : Bool)
  | bytes (content : List UInt8)
  | fixedBytes (content : List UInt8)
  | string (s : String)
  | array (items : List Token)
  | fixedArray (items : List Token)
  | tuple (items : List Token)
  deriving Repr, BEq

instance : Inhabited Token := ⟨.bool false⟩

/-- The lowest bytes of a number, the highest of them first. -/
def bigEndian : Nat → Nat → List UInt8
  | 0, _ => []
  | n + 1, value => bigEndian n (value / 256) ++ [UInt8.ofNat (value % 256)]

def wordLength : Nat := 32

def wordOf (n : Nat) : List UInt8 := bigEndian wordLength n

def signedWord (n : Int) : List UInt8 := wordOf (n % 2 ^ 256).toNat

/-- Bytes with zeros in front, up to a word. -/
def alignRight (content : List UInt8) : List UInt8 :=
  List.replicate (wordLength - content.length) 0 ++ content

/-- Bytes with zeros behind, up to whole words. -/
def alignLeft (content : List UInt8) : List UInt8 :=
  content ++ List.replicate ((wordLength - content.length % wordLength) % wordLength) 0

/-- A value ready to be laid out. -/
structure Part where
  /-- Whether the content stands among the tails. -/
  isDynamic : Bool
  content : List UInt8
  deriving DecidableEq, Repr

def Part.headLength (p : Part) : Nat := if p.isDynamic then wordLength else p.content.length

/-- The heads of parts whose next tail begins at an offset. -/
def headsFrom : Nat → List Part → List UInt8
  | _, [] => []
  | offset, p :: ps =>
    if p.isDynamic then wordOf offset ++ headsFrom (offset + p.content.length) ps
    else p.content ++ headsFrom offset ps

def tailsOf (ps : List Part) : List UInt8 :=
  ps.flatMap fun p => if p.isDynamic then p.content else []

def layOut (ps : List Part) : List UInt8 :=
  headsFrom (ps.map Part.headLength).sum ps ++ tailsOf ps

mutual

def Token.part : Token → Part
  | .uint n => ⟨false, wordOf n⟩
  | .int n => ⟨false, signedWord n⟩
  | .address bs => ⟨false, alignRight bs⟩
  | .bool b => ⟨false, wordOf b.toNat⟩
  | .fixedBytes bs => ⟨false, alignLeft bs⟩
  | .bytes bs => ⟨true, wordOf bs.length ++ alignLeft bs⟩
  | .string s => ⟨true, wordOf (bytesOf s).length ++ alignLeft (bytesOf s)⟩
  | .array ts => ⟨true, wordOf ts.length ++ layOut (parts ts)⟩
  | .fixedArray ts => ⟨(parts ts).any Part.isDynamic, layOut (parts ts)⟩
  | .tuple ts => ⟨(parts ts).any Part.isDynamic, layOut (parts ts)⟩

def parts : List Token → List Part
  | [] => []
  | t :: ts => t.part :: parts ts

end

def encode (ts : List Token) : List UInt8 := layOut (parts ts)

end GasLens.Abi
