/-
  GasLens/Domain/Direction.lean
  =============================
  **Direction of names** — when names with characters from right to left can be told apart.

  A name with such a character has labels that each run in one direction: a label begins with a
  letter, which gives its direction, has no letter of the other direction, and ends with a letter
  of its own or a digit. A label from right to left has digits of one kind only.
-/
import GasLens.Domain.DirectionTable
import GasLens.Domain.Mapping

namespace GasLens.Domain

open GasLens.Text

/-- How a character behaves in a text of two directions. -/
inductive Direction where
  | left
  | right
  | arabic
  | europeanNumber
  | arabicNumber
  /-- A sign that stands between, before or behind digits. -/
  | besideNumber
  | neutral
  /-- A mark, which follows the character before it. -/
  | mark
  deriving DecidableEq, Repr

namespace Direction

def ofAscii (c : Char) : Direction :=
  if c.isAlpha then .left
  else if c.isDigit then .europeanNumber
  else if "+-,./:#$%".toList.contains c then .besideNumber
  else .neutral

def ranges : List (List (Nat × Nat) × Direction) :=
  [(rightRanges, .right), (arabicRanges, .arabic), (europeanNumberRanges, .europeanNumber),
   (arabicNumberRanges, .arabicNumber), (terminatorRanges, .besideNumber),
   ([(0x60c, 0x60c), (0x2044, 0x2044), (0x2212, 0x2212)], .besideNumber),
   ([(0x200c, 0x200d)], .neutral), (neutralRanges, .neutral), (markRanges, .mark)]

def ofChar (c : Char) : Direction :=
  if isAscii c then ofAscii c
  else ((ranges.find? fun r => inRanges r.1 c.toNat).map Prod.snd).getD .left

def isRightward : Direction → Bool
  | .right | .arabic | .arabicNumber => true
  | _ => false

def suitsLeft : Direction → Bool
  | .left | .europeanNumber | .besideNumber | .neutral | .mark => true
  | _ => false

def suitsRight : Direction → Bool
  | .left => false
  | _ => true

def endsLeft : Direction → Bool
  | .left | .europeanNumber => true
  | _ => false

def endsRight : Direction → Bool
  | .right | .arabic | .europeanNumber | .arabicNumber => true
  | _ => false

/-- Whether the last direction that is no mark's has a property. -/
def lastSatisfies (p : Direction → Bool) (ds : List Direction) : Bool :=
  ((ds.reverse.dropWhile (· = .mark)).head?).any p

def isOneWay (ds : List Direction) : Bool :=
  match ds.head? with
  | none => true
  | some .left => ds.all suitsLeft && lastSatisfies endsLeft ds
  | some .right | some .arabic =>
    ds.all suitsRight && lastSatisfies endsRight ds &&
      !(ds.contains .europeanNumber && ds.contains .arabicNumber)
  | some _ => false

end Direction

/-- Whether the labels of a name can be told apart in texts of two directions. -/
def isDirected (labels : List (List Char)) : Bool :=
  let directions := labels.map fun label => label.map Direction.ofChar
  !(directions.any fun ds => ds.any Direction.isRightward) || directions.all Direction.isOneWay

end GasLens.Domain
