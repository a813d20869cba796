/-
  GasLens/Text/Quoted.lean
  ========================
  **Quoted text** — a text or a character between quotes, on one line and readable.

  A backslash leads the short escapes; every character that would not show is written as its
  code point in hexadecimal between braces. The other kind of quote stands for itself.
-/
import GasLens.Text.Printable

namespace GasLens.Text

def codePointEscape (c : Char) : List Char :=
  ['\\', 'u', '\x7b'] ++ Nat.toDigits 16 c.toNat ++ ['\x7d']

def quotedChar (quote : Char) (c : Char) : List Char :=
  if c = quote ∨ c = '\\' then ['\\', c]
  else if c = '\x00' then ['\\', '0']
  else if c = '\t' then ['\\', 't']
  else if c = '\r' then ['\\', 'r']
  else if c = '\n' then ['\\', 'n']
  else if isHidden c then codePointEscape c
  else [c]

def quoted (s : String) : String :=
  String.ofList ('"' :: s.toList.flatMap (quotedChar '"') ++ ['"'])

def quotedSingle (c : Char) : String :=
  String.ofList ('\x27' :: quotedChar '\x27' c ++ ['\x27'])

end GasLens.Text
