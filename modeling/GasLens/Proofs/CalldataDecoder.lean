/-
  GasLens/Proofs/CalldataDecoder.lean
  ===================================
  **Reading calldata by declared types** — the decoder that a contract applies to the data of a
  call, and what it makes of single words.

  The encoder lays a value out by the shape it has; a contract knows nothing but the types that
  it declares. `decodeValue` follows the types alone: heads stand in a row, each as long as its
  type says, and the head of a dynamic type is the offset of its tail from where the heads began.
  It is strict: a number must be within its width, a truth value must be zero or one, and the
  bytes that pad an account or a fixed byte string must be zero.
-/
import GasLens.Abi.Argument

namespace GasLens.Abi

open GasLens.Text

/-! ### The layout that a type declares -/

mutual

/-- Whether the values of a type stand among the tails. -/
def ParamType.isDynamic : ParamType → Bool
  | .bytes => true
  | .string => true
  | .array _ => true
  | .fixedArray t _ => t.isDynamic
  | .tuple ts => anyDynamic ts
  | _ => false

def anyDynamic : List ParamType → Bool
  | [] => false
  | t :: ts => t.isDynamic || anyDynamic ts

end

mutual

/-- The number of bytes that a type takes among the heads. -/
def ParamType.headLength : ParamType → Nat
  | .fixedArray t n => if t.isDynamic then wordLength else n * t.headLength
  | .tuple ts => if anyDynamic ts then wordLength else headLengths ts
  | _ => wordLength

def headLengths : List ParamType → Nat
  | [] => 0
  | t :: ts => t.headLength + headLengths ts

end

/-! ### Words -/

/-- The number that bytes stand for, the highest byte first. -/
def valueOf (bytes : List UInt8) : Nat := bytes.foldl (fun n b => n * 256 + b.toNat) 0

def takeWord? (data : List UInt8) : Option (List UInt8) :=
  if wordLength ≤ data.length then some (data.take wordLength) else none

/-- The first word of data as a number. -/
def readWord? (data : List UInt8) : Option Nat := (takeWord? data).map valueOf

/-- A number of 256 bits read in two's complement. -/
def signedValue (n : Nat) : Int := if n < 2 ^ 255 then n else (n : Int) - 2 ^ 256

/-! ### Values of elementary types -/

def decodeUnsigned (bits : Nat) (data : List UInt8) : Option Token :=
  (readWord? data).bind fun n => if n < 2 ^ bits then some (.uint n) else none

def decodeSigned (bits : Nat) (data : List UInt8) : Option Token :=
  (readWord? data).bind fun n =>
    if -2 ^ (bits - 1) ≤ signedValue n ∧ signedValue n < 2 ^ (bits - 1) then
      some (.int (signedValue n))
    else none

def decodeAddress (data : List UInt8) : Option Token :=
  (takeWord? data).bind fun w =>
    if w.take 12 = List.replicate 12 0 then some (.address (w.drop 12)) else none

def decodeBool (data : List UInt8) : Option Token :=
  (readWord? data).bind fun n =>
    if n = 0 then some (.bool false) else if n = 1 then some (.bool true) else none

/-- A fixed byte string in front of zeros. -/
def decodeFixedBytes (size : Nat) (data : List UInt8) : Option Token :=
  (takeWord? data).bind fun w =>
    if w.drop size = List.replicate (wordLength - size) 0 then some (.fixedBytes (w.take size))
    else none

/-- Bytes behind the word that holds their number. -/
def decodeContent (data : List UInt8) : Option (List UInt8) :=
  (readWord? data).bind fun n =>
    if n ≤ (data.drop wordLength).length then some ((data.drop wordLength).take n) else none

/-- The text of bytes, if they are its form. -/
def textOf? (bytes : List UInt8) : Option String := String.fromUTF8? bytes.toByteArray

/-! ### Values of all types -/

/-- The value whose head stands at an offset of the data: in place, or where the head says. -/
def decodeComponent (isDynamic : Bool) (decode : List UInt8 → Option Token) (data : List UInt8)
    (offset : Nat) : Option Token :=
  if isDynamic then (readWord? (data.drop offset)).bind fun tail => decode (data.drop tail)
  else decode (data.drop offset)

/-- A number of values whose heads have one width, the first head at an offset. -/
def decodeItems (decode : Nat → Option Token) (width : Nat) : Nat → Nat → Option (List Token)
  | 0, _ => some []
  | n + 1, offset => do
    let x ← decode offset
    let xs ← decodeItems decode width n (offset + width)
    return x :: xs

mutual

/-- The value of a type at the front of data. -/
def decodeValue : ParamType → List UInt8 → Option Token
  | .uint bits, data => decodeUnsigned bits data
  | .int bits, data => decodeSigned bits data
  | .address, data => decodeAddress data
  | .bool, data => decodeBool data
  | .fixedBytes size, data => decodeFixedBytes size data
  | .bytes, data => (decodeContent data).map .bytes
  | .string, data => ((decodeContent data).bind textOf?).map .string
  | .array t, data =>
    (readWord? data).bind fun n =>
      (decodeItems (decodeComponent t.isDynamic (decodeValue t) (data.drop wordLength))
        t.headLength n 0).map .array
  | .fixedArray t n, data =>
    (decodeItems (decodeComponent t.isDynamic (decodeValue t) data) t.headLength n 0).map
      .fixedArray
  | .tuple ts, data => (decodeMembers ts data 0).map .tuple
  | .unsupported _, _ => none

/-- The values of types whose heads stand in a row, the first one at an offset of the data. -/
def decodeMembers : List ParamType → List UInt8 → Nat → Option (List Token)
  | [], _, _ => some []
  | t :: ts, data, offset => do
    let x ← decodeComponent t.isDynamic (decodeValue t) data offset
    let xs ← decodeMembers ts data (offset + t.headLength)
    return x :: xs

end

/-- The arguments of a call by the types that its function declares. -/
def decodeArguments (ts : List ParamType) (data : List UInt8) : Option (List Token) :=
  decodeMembers ts data 0

/-- A number of values of one type are the values of that many equal types. -/
theorem decodeItems_eq_decodeMembers (t : ParamType) (data : List UInt8) (n offset : Nat) :
    decodeItems (decodeComponent t.isDynamic (decodeValue t) data) t.headLength n offset =
      decodeMembers (List.replicate n t) data offset := by
  induction n generalizing offset with
  | zero => rfl
  | succ n ih =>
    rw [List.replicate_succ, decodeMembers, decodeItems]
    simp only [ih]

/-! ### Reading back single words -/

theorem length_bigEndian (n value : Nat) : (bigEndian n value).length = n := by
  induction n generalizing value with
  | zero => rfl
  | succ n ih => rw [bigEndian, List.length_append, ih, List.length_singleton]

/-- Bytes hold a number up to a multiple of what they can hold. -/
theorem valueOf_bigEndian (n value : Nat) : valueOf (bigEndian n value) = value % 256 ^ n := by
  induction n generalizing value with
  | zero => rw [Nat.pow_zero, Nat.mod_one]; rfl
  | succ n ih =>
    have hfront : (bigEndian n (value / 256)).foldl (fun m b => m * 256 + b.toNat) 0 =
        value / 256 % 256 ^ n := ih (value / 256)
    have hlast : (UInt8.ofNat (value % 256)).toNat = value % 256 := by
      rw [UInt8.toNat_ofNat', Nat.mod_eq_of_lt (Nat.mod_lt value (by decide))]
    rw [valueOf, bigEndian, List.foldl_append, hfront, List.foldl_cons, List.foldl_nil, hlast,
      Nat.pow_succ, Nat.mul_comm (256 ^ n), Nat.mod_mul]
    omega

@[simp] theorem length_wordOf (n : Nat) : (wordOf n).length = wordLength :=
  length_bigEndian wordLength n

@[simp] theorem length_signedWord (n : Int) : (signedWord n).length = wordLength :=
  length_wordOf _

theorem takeWord?_append {w : List UInt8} (hw : w.length = wordLength) (rest : List UInt8) :
    takeWord? (w ++ rest) = some w := by
  have hle : wordLength ≤ (w ++ rest).length := by
    rw [List.length_append, hw]
    exact Nat.le_add_right _ _
  rw [takeWord?, if_pos hle, ← hw, List.take_left]

theorem readWord?_wordOf {n : Nat} (h : n < 2 ^ 256) (rest : List UInt8) :
    readWord? (wordOf n ++ rest) = some n := by
  have hpow : (256 : Nat) ^ wordLength = 2 ^ 256 := by decide
  rw [readWord?, takeWord?_append (length_wordOf n), Option.map_some, wordOf, valueOf_bigEndian,
    hpow, Nat.mod_eq_of_lt h]

theorem readWord?_signedWord {n : Int} (hlow : -2 ^ 255 ≤ n) (hhigh : n < 2 ^ 255)
    (rest : List UInt8) : (readWord? (signedWord n ++ rest)).map signedValue = some n := by
  have hlt : (n % 2 ^ 256).toNat < 2 ^ 256 := by omega
  rw [signedWord, readWord?_wordOf hlt, Option.map_some, signedValue]
  congr 1
  split <;> omega

theorem textOf?_bytesOf (s : String) : textOf? (bytesOf s) = some s := by
  have hbytes : (bytesOf s).toByteArray = s.toByteArray := String.utf8Encode_toList
  rw [textOf?, hbytes, String.fromUTF8?, dif_pos s.isValidUTF8]
  rfl

end GasLens.Abi
