/-
  GasLens/Node/Identifier.lean
  ============================
  **Identifiers of a chain** — accounts, transactions and quantities, as they are written in
  documents and in messages.

  All of them are hexadecimal with the mark `0x`, which may be missing where they are read. An
  account has twenty bytes and a transaction thirty-two; a quantity has no leading zeros where
  it is written, and a bounded number of digits where it is read.

  In a document blanks may stand among the digits. They count for the length of the text, and
  for whether its digits are paired from the first or from the second on, but they have no
  value: the bytes that are missing at the end of an identifier are zero, and a quantity is as
  long as the bytes that were filled.
-/
import GasLens.Fault
import GasLens.Json.Record
import GasLens.Text.Hex
import GasLens.Text.Quoted
import GasLens.Text.Search

namespace GasLens.Node

open GasLens.Text

def accountSize : Nat := 20

def transactionSize : Nat := 32

def hexMark : List Char := "0x".toList

def markedHex (bs : List UInt8) : String := String.ofList (hexMark ++ hexChars bs)

/-- A text less its mark, if it has one. -/
def withoutMark (cs : List Char) : List Char := (dropLeading? hexMark cs).getD cs

def hexFaultText : HexFault → String
  | .oddLength _ => "Odd number of digits"
  | .invalidCharacter c i =>
    "Invalid character " ++ quotedSingle c ++ " at position " ++ natText i

def badTransaction (text reason : String) : Fault :=
  .internal ("bad transaction id " ++ text ++ ": " ++ reason)

def transactionOf (text : String) : Except Fault (List UInt8) :=
  match readHex (utf8 (withoutMark text.toList)) with
  | .error e => .error (badTransaction text (hexFaultText e))
  | .ok bs =>
    if bs.length = transactionSize then .ok bs
    else .error (badTransaction text "expected 32 bytes")

/-! ### In documents -/

/-- The characters among the digits that have no value. -/
def isDigitBlank (c : Char) : Bool := c = ' ' || c = '\r' || c = '\n' || c = '\t'

/-- The bytes that the digits fill, where a first digit may be waiting for the second one. A
digit that is left waiting fills none. -/
def fillBytes : Option Nat → List Char → Option (List UInt8)
  | _, [] => some []
  | waiting, c :: r =>
    if isDigitBlank c then fillBytes waiting r
    else match digitValue? 16 c, waiting with
      | none, _ => none
      | some d, none => fillBytes (some d) r
      | some d, some high => (fillBytes none r).map (UInt8.ofNat (high * 16 + d) :: ·)

/-- The bytes that a text of digits fills; of an odd number of characters the first digit has
a byte to itself. -/
def filledBytes (cs : List Char) : Option (List UInt8) :=
  fillBytes (if cs.length % 2 = 1 then some 0 else none) cs

/-- The bytes of an identifier, as many as given. -/
def readBytes (size : Nat) (j : Json) : Option (List UInt8) := do
  let cs := withoutMark (← j.string?).toList
  if cs.length ≠ 2 * size then none
  else
    let bs ← filledBytes cs
    return bs ++ List.replicate (size - bs.length) 0

/-- A quantity of at least one and at most the given number of digits. -/
def readQuantity (digits : Nat) (j : Json) : Option Nat := do
  let cs := withoutMark (← j.string?).toList
  if cs.isEmpty || digits < cs.length then none
  else return (← filledBytes cs).foldl (fun n b => n * 256 + b.toNat) 0

/-- A text of any number of bytes, without blanks; its mark may stand twice. -/
def readData (j : Json) : Option (List UInt8) := do
  (readHex (utf8 (withoutMark (withoutMark (← j.string?).toList)))).toOption

def wordDigits : Nat := 64

def counterDigits : Nat := 16

end GasLens.Node
