/-
  GasLens/Random.lean
  ===================
  **Random draws** — values drawn from a stream of words of 64 bits.

  The stream is a function of the position, so a draw is determined by the stream and the
  position it starts at, and it ends at the position behind the words it took. A number below a
  bound is the high half of the product of a random word and the bound; products whose low half
  is too large are drawn again, so that every number is equally likely. How often that may
  happen in a row is the patience of the source, and a draw without an end has no value.
-/
import GasLens.Arithmetic

namespace GasLens.Random

structure WordSource where
  word : Nat → UInt64
  /-- How many words may be refused in a row. -/
  patience : Nat

/-- The words of a list, and zeros behind them. -/
def WordSource.ofList (words : List UInt64) : WordSource :=
  ⟨fun i => words.getD i 0, words.length + 1⟩

def mixIncrement : UInt64 := 0x9e3779b97f4a7c15

/-- The word that a state of the mixing stream gives. -/
def mixed (state : UInt64) : UInt64 :=
  let z := (state ^^^ (state >>> 30)) * 0xbf58476d1ce4e5b9
  let z := (z ^^^ (z >>> 27)) * 0x94d049bb133111eb
  z ^^^ (z >>> 31)

/-- The mixing stream of a seed: each state is the one before and an increment. -/
def WordSource.ofSeed (seed : UInt64) : WordSource :=
  ⟨fun i => mixed (seed + UInt64.ofNat (i + 1) * mixIncrement), 4096⟩

/-- A value drawn from a source, from one position to another. -/
def Draw (α : Type) : Type := WordSource → Nat → Option (α × Nat)

namespace Draw

def pure {α : Type} (a : α) : Draw α := fun _ position => some (a, position)

def bind {α β : Type} (d : Draw α) (f : α → Draw β) : Draw β := fun source position =>
  match d source position with
  | some (a, next) => f a source next
  | none => none

instance : Monad Draw where
  pure := pure
  bind := bind

end Draw

def nextWord : Draw UInt64 := fun source position => some (source.word position, position + 1)

def nextHalf : Draw Nat := do return (← nextWord).toNat % 2 ^ 32

/-- The widths in which numbers are drawn. -/
inductive Width where
  | half | whole | double
  deriving DecidableEq, Repr

def Width.bits : Width → Nat
  | .half => 32
  | .whole => 64
  | .double => 128

/-- A random number of a width; a double one takes its low half first. -/
def nextOf : Width → Draw Nat
  | .half => nextHalf
  | .whole => do return (← nextWord).toNat
  | .double => do
    let low ← nextWord
    let high ← nextWord
    return low.toNat + high.toNat * 2 ^ 64

/-- The greatest low half of a product that is accepted: the bound moved to the top of its
width, less one. -/
def acceptZone (width : Width) (bound : Nat) : Nat :=
  bound * 2 ^ (width.bits - (bound.log2 + 1)) - 1

/-- A number below a bound, within a number of tries. -/
def belowWithin (width : Width) (bound : Nat) : Nat → Draw Nat
  | 0 => fun _ _ => none
  | tries + 1 => do
    let product := (← nextOf width) * bound
    if product % 2 ^ width.bits ≤ acceptZone width bound then return product / 2 ^ width.bits
    belowWithin width bound tries

def below (width : Width) (bound : Nat) : Draw Nat := fun source position =>
  belowWithin width bound (source.patience + 1) source position

def nextBool : Draw Bool := do return decide ((← nextWord).toNat < 2 ^ 63)

def nextByte : Draw UInt8 := do return UInt8.ofNat (← nextHalf)

def drawMany {α : Type} (d : Draw α) : Nat → Draw (List α)
  | 0 => return []
  | n + 1 => do
    let a ← d
    let as ← drawMany d n
    return a :: as

end GasLens.Random
