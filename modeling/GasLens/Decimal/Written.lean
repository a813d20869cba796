/-
  GasLens/Decimal/Written.lean
  ============================
  **Doubles as text** — the shortest digits of a double with a point or an exponent, and fixed
  numbers of places.

  Where the point stands, whether a whole number keeps a zero behind it and how an exponent is
  written are the decisions of one record; each kind of output has its own.
-/
import GasLens.Decimal.Shortest
import GasLens.Text.Integer

namespace GasLens.Decimal

open GasLens.Text

/-- How the digits of a double are laid out. -/
structure Layout where
  /-- The least exponent of the leading digit that is written with a point. -/
  leastPlain : Option Int
  /-- The least exponent of the leading digit that is no longer written with a point. -/
  leastLarge : Option Int
  /-- Whether a whole number ends in a point and a zero. -/
  wholeZero : Bool
  /-- Whether a positive exponent has a sign. -/
  plusSign : Bool
  /-- How a tie between two shortest texts is settled. -/
  tie : Tie
  deriving DecidableEq, Repr

def Layout.isPlain (l : Layout) (exponent : Int) : Bool :=
  l.leastPlain.all (fun e => decide (e ≤ exponent)) &&
    l.leastLarge.all (fun e => decide (exponent < e))

def pointed (wholeZero : Bool) (digits : List Char) (exponent : Int) : List Char :=
  if exponent < 0 then
    ['0', '.'] ++ List.replicate ((-exponent).toNat - 1) '0' ++ digits
  else
    let whole := exponent.toNat + 1
    if digits.length ≤ whole then
      digits ++ List.replicate (whole - digits.length) '0' ++
        (if wholeZero then ['.', '0'] else [])
    else digits.take whole ++ ['.'] ++ digits.drop whole

def exponential (plusSign : Bool) (digits : List Char) (exponent : Int) : List Char :=
  digits.take 1 ++ (if digits.length ≤ 1 then [] else '.' :: digits.drop 1) ++ ['e'] ++
    (if exponent < 0 then ['-'] else if plusSign then ['+'] else []) ++ decimal exponent.natAbs

/-- The text of a double; the texts of the values that are no numbers are fixed. -/
def Layout.write (l : Layout) (x : Float) : String :=
  match reading x with
  | .notANumber => "NaN"
  | .infinite negative => if negative then "-inf" else "inf"
  | .finite negative mantissa exponent =>
    let body :=
      if mantissa = 0 then pointed l.wholeZero ['0'] 0
      else
        let s := shortest l.tie mantissa exponent
        let digits := decimal s.digits
        let leading := s.exponent + digits.length - 1
        if l.isPlain leading then pointed l.wholeZero digits leading
        else exponential l.plusSign digits leading
    String.ofList ((if negative then ['-'] else []) ++ body)

/-- The digits of a double in prose: always a point, and none behind a whole number. -/
def prose : Layout := ⟨none, none, false, false, .up⟩

/-- A quotient rounded to the nearest whole number, a half to the even one. -/
def roundedQuotient (numerator denominator : Nat) : Nat :=
  let q := numerator / denominator
  let rest := 2 * (numerator % denominator)
  if rest < denominator then q
  else if denominator < rest then q + 1
  else if q % 2 = 0 then q else q + 1

/-- The text of a double with a fixed number of places; the sign of a negative value stays when
all digits are zero. -/
def fixedPlaces (places : Nat) (x : Float) : String :=
  match reading x with
  | .notANumber => "NaN"
  | .infinite negative => if negative then "-inf" else "inf"
  | .finite negative mantissa exponent =>
    let (n, d) := fractionOf mantissa exponent
    let scaled := roundedQuotient (n * 10 ^ places) d
    let digits := decimal scaled
    let filled := List.replicate (places + 1 - digits.length) '0' ++ digits
    let cut := filled.length - places
    String.ofList ((if negative then ['-'] else []) ++ filled.take cut ++
      (if places = 0 then [] else '.' :: filled.drop cut))

end GasLens.Decimal
