/-
  GasLens/Domain/Composition.lean
  ===============================
  **Composition** — one spelling for characters that can be put together from others.

  A text is taken apart as far as possible, the marks on each character are put in order, and then
  every character is put together again with the marks that fit it. So two texts that look the
  same by definition have the same composed form.
-/
import GasLens.Domain.CompositionTable

namespace GasLens.Domain

open GasLens.Text

/-! ### Syllables -/

/-- The first of the Korean syllables, which are put together by a rule. -/
def firstSyllable : Nat := 0xac00

/-- The first letters that begin a syllable, stand in it, and the place before those that end it. -/
def firstLead : Nat := 0x1100

def firstVowel : Nat := 0x1161

def beforeTails : Nat := 0x11a7

/-- The numbers of letters that begin a syllable, stand in it, and end it; none counts as one. -/
def leadCount : Nat := 19

def vowelCount : Nat := 21

/-- The number of ways to end a syllable, the open one among them. -/
def tailCount : Nat := 28

def lettersOf? (n : Nat) : Option (List Nat) :=
  let i := n - firstSyllable
  if n < firstSyllable ∨ leadCount * vowelCount * tailCount ≤ i then none
  else
    let open' := [firstLead + i / (vowelCount * tailCount),
      firstVowel + i % (vowelCount * tailCount) / tailCount]
    some (if i % tailCount = 0 then open' else open' ++ [beforeTails + i % tailCount])

/-- The syllable of two letters, or of an open syllable and the letter that ends it. -/
def syllableOf? (a b : Nat) : Option Nat :=
  if firstLead ≤ a ∧ a < firstLead + leadCount ∧ firstVowel ≤ b ∧ b < firstVowel + vowelCount then
    some (firstSyllable + ((a - firstLead) * vowelCount + (b - firstVowel)) * tailCount)
  else if firstSyllable ≤ a ∧ a < firstSyllable + leadCount * vowelCount * tailCount ∧
      (a - firstSyllable) % tailCount = 0 ∧ beforeTails < b ∧ b < beforeTails + tailCount then
    some (a + (b - beforeTails))
  else none

/-! ### Taking apart -/

def halvesOf? (n : Nat) : Option (Nat × Nat) :=
  compositeRows.findSome? fun
    | [whole, a, b] => if whole = n then some (a, b) else none
    | _ => none

/-- A code point taken apart, at most the given number of times. The second half is never
composed. -/
def takeApart : Nat → Nat → List Nat
  | 0, n => [n]
  | steps + 1, n =>
    match halvesOf? n with
    | some (a, b) => takeApart steps a ++ [b]
    | none => (lettersOf? n).getD [n]

def maxParts : Nat := 4

/-! ### Order of marks -/

/-- The place of a mark among others on the same character; zero for all that is no such mark. -/
def combiningClass (n : Nat) : Nat :=
  (classRows.findSome? fun
    | [low, high, place] => if low ≤ n ∧ n ≤ high then some place else none
    | _ => none).getD 0

/-- A mark put to others that are in order already; it passes those that come before it. -/
def insertMark (n : Nat) : List Nat → List Nat
  | [] => [n]
  | m :: r =>
    if combiningClass m ≠ 0 ∧ combiningClass m < combiningClass n then m :: insertMark n r
    else n :: m :: r

def inOrder (ns : List Nat) : List Nat :=
  ns.foldr (fun n r => if combiningClass n = 0 then n :: r else insertMark n r) []

/-! ### Putting together -/

def wholeOf? (a b : Nat) : Option Nat :=
  match syllableOf? a b with
  | some n => some n
  | none =>
    compositeRows.findSome? fun
      | [whole, first, second] => if first = a ∧ second = b then some whole else none
      | _ => none

/-- A character that waits for its marks. -/
structure Base where
  whole : Nat
  /-- The marks that do not fit it, the last one first. -/
  marks : List Nat

/-- Whether a code point can still reach the character in front of the marks. -/
def Base.isReached (b : Base) (n : Nat) : Bool :=
  match b.marks with
  | [] => true
  | m :: _ => decide (combiningClass m < combiningClass n)

def Base.codePoints (b : Base) : List Nat := b.whole :: b.marks.reverse

/-- Characters put together with the marks behind them, where the last character waits. -/
def putTogether : Option Base → List Nat → List Nat
  | none, [] => []
  | some b, [] => b.codePoints
  | none, n :: r =>
    if combiningClass n = 0 then putTogether (some ⟨n, []⟩) r else n :: putTogether none r
  | some b, n :: r =>
    match if b.isReached n then wholeOf? b.whole n else none with
    | some whole => putTogether (some { b with whole }) r
    | none =>
      if combiningClass n = 0 then b.codePoints ++ putTogether (some ⟨n, []⟩) r
      else putTogether (some { b with marks := n :: b.marks }) r

def composed (cs : List Char) : List Char :=
  let apart := cs.flatMap fun c => takeApart maxParts c.toNat
  (putTogether none (inOrder apart)).map Char.ofNat

end GasLens.Domain
