/-
  GasLens/Text/Percent.lean
  =========================
  **Percent signs** — bytes that are written by their numbers within a text.

  A percent sign with two hexadecimal digits behind it stands for a byte; any other percent sign
  stands for itself.
-/
import GasLens.Text.Integer
import GasLens.Text.Utf8

namespace GasLens.Text

def byteOfDigits? (a b : Char) : Option UInt8 := do
  return UInt8.ofNat ((← digitValue? 16 a) * 16 + (← digitValue? 16 b))

/-- The bytes of a text in which some are written by their numbers. -/
def percentDecoded : List Char → List UInt8
  | '%' :: a :: b :: r =>
    match byteOfDigits? a b with
    | some byte => byte :: percentDecoded r
    | none => utf8 ['%'] ++ percentDecoded (a :: b :: r)
  | c :: r => utf8 [c] ++ percentDecoded r
  | [] => []

/-- The text of such bytes, if they are the bytes of a text. -/
def percentText? (cs : List Char) : Option (List Char) :=
  (String.fromUTF8? ⟨(percentDecoded cs).toArray⟩).map String.toList

end GasLens.Text
