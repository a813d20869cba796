/-
  GasLens/Config/Delay.lean
  =========================
  **Delays** — spans of time in a setting, as a number with or without a unit.

  A delay is read as milliseconds, in words of 64 bits. A number of units that fits a word while
  its milliseconds do not is no fault of the text: the program stops there.
-/
import GasLens.Checked
import GasLens.Text.Blank
import GasLens.Text.Integer
import GasLens.Text.Search

namespace GasLens.Config

open GasLens.Text

inductive TimeUnit where
  | millisecond | second | minute | hour
  deriving DecidableEq, Repr

namespace TimeUnit

def sign : TimeUnit → List Char
  | .millisecond => ['m', 's']
  | .second => ['s']
  | .minute => ['m']
  | .hour => ['h']

def milliseconds : TimeUnit → Nat
  | .millisecond => 1
  | .second => 1000
  | .minute => 60 * 1000
  | .hour => 60 * 60 * 1000

def all : List TimeUnit := [.millisecond, .second, .minute, .hour]

def ofSign? (s : String) : Option TimeUnit := all.find? fun u => u.sign == s.toList

def scale (u : TimeUnit) (n : Nat) : Checked Nat := Checked.mul n u.milliseconds

end TimeUnit

/-- Why a text is no delay. -/
inductive DelayFault where
  | number (cause : IntegerFault)
  /-- There is no unit of this sign. -/
  | unknownUnit (sign : String)
  deriving DecidableEq, Repr

def DelayFault.message : DelayFault → String
  | .number cause => cause.message
  | .unknownUnit sign => "Invalid default unit: " ++ sign

/-- The unit that closes a text, and what precedes it. -/
def closingUnit? (cs : List Char) : Option (TimeUnit × List Char) :=
  TimeUnit.all.findSome? fun u => (dropClosing? u.sign cs).map fun digits => (u, digits)

def readAmount (cs : List Char) : Except DelayFault Nat :=
  (readNat 10 maxU64 cs).mapError DelayFault.number

def readScaled (u : TimeUnit) (cs : List Char) : Checked (Except DelayFault Nat) :=
  match readAmount cs with
  | .error e => some (.error e)
  | .ok n => (u.scale n).map .ok

/-- A delay in milliseconds. A number without a unit is in the unit of the given sign. -/
def readDelay (defaultSign : String) (s : String) : Checked (Except DelayFault Nat) :=
  let cs := trim s.toList
  match closingUnit? cs with
  | some (u, digits) => readScaled u (trim digits)
  | none =>
    match TimeUnit.ofSign? defaultSign with
    | some u => readScaled u cs
    | none => some ((readAmount cs).bind fun _ => .error (.unknownUnit defaultSign))

/-- A delay of a setting, where a number without a unit is in milliseconds. -/
def readMilliseconds (s : String) : Checked (Except DelayFault Nat) := readDelay "ms" s

end GasLens.Config
