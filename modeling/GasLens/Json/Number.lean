/-
  GasLens/Json/Number.lean
  ========================
  **Numbers of JSON texts** — from the characters of a number to its value.

  A number without point and exponent is an integer if it fits 64 bits. Every other number is a
  double: its digits are gathered in a word of 64 bits as far as they fit, the rest only move
  the point, and the word is then scaled by a power of ten. A number beyond the doubles is
  refused, one too small for them is zero.
-/
import GasLens.Json.Basic
import GasLens.Text.Integer

namespace GasLens.Json

open GasLens.Text

/-- Decimal digits at the front of a text, and what follows them. -/
def spanDigits (cs : List Char) : List Nat × List Char :=
  ((cs.takeWhile isDecimalDigit).map fun c => c.toNat - '0'.toNat, cs.dropWhile isDecimalDigit)

/-- Digits gathered in a word of 64 bits: the word, and the digits that no longer fit. -/
def gather : Nat → List Nat → Nat × List Nat
  | word, [] => (word, [])
  | word, d :: r => if word * 10 + d ≤ maxU64 then gather (word * 10 + d) r else (word, d :: r)

def powerOfTen (n : Nat) : Float := Float.ofScientific 1 false n

/-- A word times a power of ten, if the product is a double. -/
def scaledUp (word : Nat) (power : Nat) : Option Float :=
  if power ≤ 308 then
    let x := Decimal.ofNat word * powerOfTen power
    if Decimal.isFinite x then some x else none
  else if word = 0 then some (Decimal.ofNat 0)
  else none

/-- A word divided by a power of ten; two steps are needed past the powers that are doubles. -/
def scaledDown (word : Nat) (power : Nat) : Float :=
  if power ≤ 308 then Decimal.ofNat word / powerOfTen power
  else if power ≤ 616 then Decimal.ofNat word / powerOfTen 308 / powerOfTen (power - 308)
  else Decimal.ofNat 0

/-- The double of a sign, a word and a power of ten. -/
def scaled (negative : Bool) (word : Nat) (power : Int) : Option Float :=
  let magnitude := if 0 ≤ power then scaledUp word power.toNat
    else some (scaledDown word (-power).toNat)
  magnitude.map fun x => if negative then -x else x

/-- The greatest exponent that is taken at its value. -/
def maxExponent : Nat := 2 ^ 31 - 1

/-- The double of a word, a power of ten and an exponent behind it. -/
def withExponent (negative : Bool) (word : Nat) (power : Int) (down : Bool)
    (exponent : List Nat) : Option Float :=
  let e := exponent.foldl (fun n d => n * 10 + d) 0
  if e ≤ maxExponent then scaled negative word (if down then power - e else power + e)
  else if word ≠ 0 ∧ down = false then none
  else some (if negative then -(Decimal.ofNat 0) else Decimal.ofNat 0)

/-- An exponent behind the digits of a number, or the end of the number. -/
def readExponent (negative : Bool) (word : Nat) (power : Int) :
    List Char → Option (Float × List Char)
  | c :: r =>
    if c = 'e' ∨ c = 'E' then
      let (down, r) := match r with
        | '-' :: r => (true, r)
        | '+' :: r => (false, r)
        | r => (false, r)
      match spanDigits r with
      | ([], _) => none
      | (digits, rest) => (withExponent negative word power down digits).map fun x => (x, rest)
    else (scaled negative word power).map fun x => (x, c :: r)
  | [] => (scaled negative word power).map fun x => (x, [])

/-- The digits behind a point, where a word has been gathered from those in front. -/
def readPlaces (negative : Bool) (word : Nat) (power : Int) (cs : List Char) :
    Option (Float × List Char) :=
  match spanDigits cs with
  | ([], _) => none
  | (digits, rest) =>
    let (word, left) := gather word digits
    readExponent negative word (power - (digits.length - left.length : Nat)) rest

def wholeNumber (negative : Bool) (word : Nat) : JsonNumber :=
  if negative then
    if word = 0 ∨ 2 ^ 63 < word then .double (-(Decimal.ofNat word)) else .integer (-word)
  else .integer word

def readTail (negative : Bool) (word : Nat) (left : List Nat) :
    List Char → Option (JsonNumber × List Char)
  | '.' :: r => (readPlaces negative word left.length r).map fun (x, rest) => (.double x, rest)
  | cs =>
    if left.isEmpty && !(cs.head?.any fun c => c = 'e' || c = 'E') then
      some (wholeNumber negative word, cs)
    else (readExponent negative word left.length cs).map fun (x, rest) => (.double x, rest)

/-- A number without its sign. A zero in front is never followed by a digit. -/
def readUnsigned (negative : Bool) (cs : List Char) : Option (JsonNumber × List Char) :=
  match spanDigits cs with
  | ([], _) => none
  | ([d], rest) => readTail negative d [] rest
  | (0 :: _, _) => none
  | (digits, rest) =>
    let (word, left) := gather 0 digits
    readTail negative word left rest

/-- A number at the front of a text, and what follows it. -/
def readNumber : List Char → Option (JsonNumber × List Char)
  | '-' :: r => readUnsigned true r
  | cs => readUnsigned false cs

end GasLens.Json
