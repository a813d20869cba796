/-
  GasLens/Text/Pad.lean
  =====================
  **Columns** — filling a text with spaces up to a width, counted in characters.

  A text that is wider than its column is never cut.
-/
namespace GasLens.Text

/-- Spaces in front of a text, up to a width. -/
def padLeft (width : Nat) (s : String) : String :=
  String.ofList (List.replicate (width - s.length) ' ') ++ s

def padRight (width : Nat) (s : String) : String :=
  s ++ String.ofList (List.replicate (width - s.length) ' ')

def repeated (n : Nat) (s : String) : String := String.join (List.replicate n s)

/-- Digits with zeros in front, up to a width. -/
def zeroFilled (width : Nat) (digits : List Char) : List Char :=
  List.replicate (width - digits.length) '0' ++ digits

end GasLens.Text
