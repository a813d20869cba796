/-
  GasLens/Text/Blank.lean
  =======================
  **White space** — the characters with the Unicode property `White_Space`, and trimming by
  them at either end of a text.

  The property is wider than ASCII white space: it holds of the next-line control, of the
  no-break space and of the typographic spaces, but not of the zero-width characters.
-/
namespace GasLens.Text

def blankRanges : List (Nat × Nat) :=
  [(0x09, 0x0d), (0x20, 0x20), (0x85, 0x85), (0xa0, 0xa0), (0x1680, 0x1680), (0x2000, 0x200a),
   (0x2028, 0x2029), (0x202f, 0x202f), (0x205f, 0x205f), (0x3000, 0x3000)]

def inRanges (ranges : List (Nat × Nat)) (n : Nat) : Bool :=
  ranges.any fun r => decide (r.1 ≤ n) && decide (n ≤ r.2)

/-- A character with the property `White_Space`. -/
def isBlank (c : Char) : Bool := inRanges blankRanges c.toNat

def trimLeft (cs : List Char) : List Char := cs.dropWhile isBlank

def trimRight (cs : List Char) : List Char := (cs.reverse.dropWhile isBlank).reverse

/-- What is left of a text without the white space at both ends. -/
def trim (cs : List Char) : List Char := trimRight (trimLeft cs)

def trimString (s : String) : String := String.ofList (trim s.toList)

def allBlank (s : String) : Bool := s.toList.all isBlank

end GasLens.Text
