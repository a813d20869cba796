/-
  GasLens/Json/Writer.lean
  ========================
  **Writing JSON texts** — on one line without spaces, or spread over lines with two spaces for
  each level.

  Doubles are written with the shortest digits that read back: with a point from `0.00001` up
  to below `10 ^ 16`, else with an exponent. A double that is no number is written as null.
-/
import GasLens.Json.Basic
import GasLens.Decimal.Written
import GasLens.Text.Pad

namespace GasLens.Json

open GasLens.Text

def doubleLayout : Decimal.Layout := ⟨some (-5), some 16, true, true, .toEven⟩

def numberText : JsonNumber → String
  | .integer n => intText n
  | .double x => if Decimal.isFinite x then doubleLayout.write x else "null"

def escapedChar (c : Char) : List Char :=
  if c = '"' then ['\\', '"']
  else if c = '\\' then ['\\', '\\']
  else if c = '\x08' then ['\\', 'b']
  else if c = '\x0c' then ['\\', 'f']
  else if c = '\n' then ['\\', 'n']
  else if c = '\r' then ['\\', 'r']
  else if c = '\t' then ['\\', 't']
  else if c.toNat < 0x20 then ['\\', 'u'] ++ zeroFilled 4 (Nat.toDigits 16 c.toNat)
  else [c]

def stringText (s : String) : String :=
  String.ofList ('"' :: s.toList.flatMap escapedChar ++ ['"'])

mutual

def compact : Json → String
  | .null => "null"
  | .bool b => if b then "true" else "false"
  | .number n => numberText n
  | .string s => stringText s
  | .array items => "[" ++ ",".intercalate (compactItems items) ++ "]"
  | .object members => "\x7b" ++ ",".intercalate (compactMembers members) ++ "\x7d"

def compactItems : List Json → List String
  | [] => []
  | j :: r => compact j :: compactItems r

def compactMembers : List (String × Json) → List String
  | [] => []
  | (name, j) :: r => (stringText name ++ ":" ++ compact j) :: compactMembers r

end

/-- Lines between an opening and a closing sign, indented by one level more than these. -/
def block (level : Nat) (opening closing : String) (lines : List String) : String :=
  if lines.isEmpty then opening ++ closing
  else
    let inner := "\n" ++ repeated (level + 1) "  "
    opening ++ inner ++ ("," ++ inner).intercalate lines ++ "\n" ++ repeated level "  " ++ closing

mutual

/-- A document over several lines, at a level of indentation. -/
def spread (level : Nat) : Json → String
  | .array items => block level "[" "]" (spreadItems (level + 1) items)
  | .object members => block level "\x7b" "\x7d" (spreadMembers (level + 1) members)
  | .null => "null"
  | .bool b => if b then "true" else "false"
  | .number n => numberText n
  | .string s => stringText s

def spreadItems (level : Nat) : List Json → List String
  | [] => []
  | j :: r => spread level j :: spreadItems level r

def spreadMembers (level : Nat) : List (String × Json) → List String
  | [] => []
  | (name, j) :: r => (stringText name ++ ": " ++ spread level j) :: spreadMembers level r

end

def pretty (j : Json) : String := spread 0 j

end GasLens.Json
