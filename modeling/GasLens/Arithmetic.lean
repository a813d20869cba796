/-
  GasLens/Arithmetic.lean
  =======================
  **Arithmetic** — where the powers and the sums of whole numbers are taken from.

  Libraries of algebra bring instances of their own for both, equal to the ones of the core
  library and found before them. Here the ones of the core library come first, so that a
  definition reads the same in a module that loads such a library and in one that does not. A
  power whose type is left open is one of natural numbers.
-/
namespace GasLens

@[default_instance 40000]
instance (priority := 20000) powNat : Pow Nat Nat := instPowNat

@[default_instance 20000]
instance (priority := 20000) powInt : Pow Int Nat := instPowNat

@[default_instance 20000]
instance (priority := 20000) powUInt32 : Pow UInt32 Nat := instPowUInt32Nat

@[default_instance 20000]
instance (priority := 20000) powUInt64 : Pow UInt64 Nat := instPowUInt64Nat

instance (priority := 20000) zeroNat : Zero Nat := Zero.ofOfNat0

end GasLens
