/-
  GasLens/Domain/Joining.lean
  ===========================
  **Joiners in names** — where a name may have the characters that join their neighbours or keep
  them apart.

  Both of them may stand behind the mark that takes the vowel from a letter. The one that keeps
  apart may also stand where its neighbours would be joined without it.
-/
import GasLens.Domain.Composition
import GasLens.Domain.JoiningTable
import GasLens.Text.Blank

namespace GasLens.Domain

open GasLens.Text

def vowelKiller : Nat := 9

/-- Whether characters, the nearest first, are joined towards us, where marks are passed over. -/
def isJoinedBy (ranges : List (List (Nat × Nat))) (cs : List Char) : Bool :=
  ((cs.dropWhile fun c => inRanges joinedThroughRanges c.toNat).head?).any fun c =>
    ranges.any fun r => inRanges r c.toNat

/-- Whether the joiners of a label stand where they may; what stands in front is given too, the
nearest first. -/
def hasJoinersInPlace : List Char → List Char → Bool
  | _, [] => true
  | before, c :: r =>
    (if c = '\u200c' ∨ c = '\u200d' then
      match before with
      | [] => false
      | b :: _ =>
        combiningClass b.toNat = vowelKiller ||
          (c = '\u200c' && isJoinedBy [joinedAfterRanges, joinedBothRanges] before &&
            isJoinedBy [joinedBeforeRanges, joinedBothRanges] r)
    else true) && hasJoinersInPlace (c :: before) r

end GasLens.Domain
