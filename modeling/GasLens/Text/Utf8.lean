/-
  GasLens/Text/Utf8.lean
  ======================
  **Bytes of a text** — the UTF-8 form of a text as a list of bytes.

  Offsets in source texts and lengths of bytecode texts count these bytes, not characters.
-/
namespace GasLens.Text

def utf8 (cs : List Char) : List UInt8 := cs.flatMap String.utf8EncodeChar

def bytesOf (s : String) : List UInt8 := utf8 s.toList

def charOfByte (b : UInt8) : Char := Char.ofNat b.toNat

theorem utf8_append (cs ds : List Char) : utf8 (cs ++ ds) = utf8 cs ++ utf8 ds := by
  simp [utf8]

end GasLens.Text
