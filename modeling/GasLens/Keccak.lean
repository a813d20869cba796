/-
  GasLens/Keccak.lean
  ===================
  **Keccak-256** — the hash of the sponge with 1088 bits of rate, and the selectors of function
  signatures.

  The state is five by five lanes of 64 bits; the lane in column `x` and row `y` is the one
  number `x + 5 · y`. A message is followed by a one, by zeros, and by a one at the end of its
  last block.
-/
import GasLens.Text.Hex

namespace GasLens.Keccak

abbrev State := Vector UInt64 25

/-- A lane turned to the left; by zero or sixty-four it stays as it is. -/
def turn (w : UInt64) (n : Nat) : UInt64 :=
  (w <<< (UInt64.ofNat (n % 64))) ||| (w >>> (UInt64.ofNat ((64 - n % 64) % 64)))

/-- The lane in a column and a row, both taken modulo five. -/
def lane (s : State) (x y : Nat) : UInt64 :=
  s.get ⟨x % 5 + 5 * (y % 5), by omega⟩

def tabulate (f : Nat → Nat → UInt64) : State :=
  Vector.ofFn fun i : Fin 25 => f (i.val % 5) (i.val / 5)

def blank : State := Vector.replicate 25 0

/-- How far each lane is turned, row by row. -/
def turns : List Nat :=
  [0, 1, 62, 28, 27,
   36, 44, 6, 55, 20,
   3, 10, 43, 25, 39,
   41, 45, 15, 21, 8,
   18, 2, 61, 56, 14]

def roundConstants : List UInt64 :=
  [0x0000000000000001, 0x0000000000008082, 0x800000000000808a, 0x8000000080008000,
   0x000000000000808b, 0x0000000080000001, 0x8000000080008081, 0x8000000000008009,
   0x000000000000008a, 0x0000000000000088, 0x0000000080008009, 0x000000008000000a,
   0x000000008000808b, 0x800000000000008b, 0x8000000000008089, 0x8000000000008003,
   0x8000000000008002, 0x8000000000000080, 0x000000000000800a, 0x800000008000000a,
   0x8000000080008081, 0x8000000000008080, 0x0000000080000001, 0x8000000080008008]

/-- Each lane mixed with the parities of the columns beside it. -/
def mixColumns (s : State) : State :=
  let parity : Vector UInt64 5 := Vector.ofFn fun x : Fin 5 =>
    lane s x 0 ^^^ lane s x 1 ^^^ lane s x 2 ^^^ lane s x 3 ^^^ lane s x 4
  let column (x : Nat) : UInt64 := parity.get ⟨x % 5, by omega⟩
  tabulate fun x y => lane s x y ^^^ column (x + 4) ^^^ turn (column (x + 1)) 1

def moveLanes (s : State) : State :=
  tabulate fun x y =>
    let from' := x + 3 * y
    turn (lane s from' x) (turns.getD (from' % 5 + 5 * x) 0)

def mixRows (s : State) : State :=
  tabulate fun x y => lane s x y ^^^ (~~~(lane s (x + 1) y) &&& lane s (x + 2) y)

def round (s : State) (constant : UInt64) : State :=
  let t := mixRows (moveLanes (mixColumns s))
  t.set 0 (t[0] ^^^ constant)

def permute (s : State) : State := roundConstants.foldl round s

def rate : Nat := 136

def wordOfBytes (bytes : List UInt8) : UInt64 :=
  bytes.foldr (fun b w => (w <<< 8) ||| b.toUInt64) 0

/-- The eight bytes of a word, the lowest first. -/
def bytesOfWord (w : UInt64) : List UInt8 :=
  (List.range 8).map fun i => (w >>> (UInt64.ofNat (8 * i))).toUInt8

def absorb (s : State) (block : List UInt8) : State :=
  permute (tabulate fun x y =>
    lane s x y ^^^ wordOfBytes ((block.drop (8 * (x + 5 * y))).take 8))

/-- A message filled up to a whole number of blocks. -/
def padded (message : List UInt8) : List UInt8 :=
  let missing := rate - message.length % rate
  if missing = 1 then message ++ [0x81]
  else message ++ [0x01] ++ List.replicate (missing - 2) 0 ++ [0x80]

def absorbBlocks : Nat → State → List UInt8 → State
  | 0, s, _ => s
  | n + 1, s, bytes => absorbBlocks n (absorb s (bytes.take rate)) (bytes.drop rate)

def hash (message : List UInt8) : List UInt8 :=
  let s := absorbBlocks (message.length / rate + 1) blank (padded message)
  (s.toList.take 4).flatMap bytesOfWord

def selector (signature : String) : List UInt8 := (hash (Text.bytesOf signature)).take 4

theorem length_bytesOfWord (w : UInt64) : (bytesOfWord w).length = 8 := by
  simp [bytesOfWord]

/-- A hash has thirty-two bytes. -/
theorem length_hash (message : List UInt8) : (hash message).length = 32 := by
  simp [hash, List.length_flatMap, length_bytesOfWord, List.map_const']

/-- A selector has four bytes. -/
theorem length_selector (signature : String) : (selector signature).length = 4 := by
  simp [selector, length_hash]

end GasLens.Keccak
