/-
  GasLens/Toml/Scalar.lean
  ========================
  **Numbers, dates and names of TOML** — the values that are written without quotes or brackets.

  Each reader takes its value from the front of a text. What follows a value is looked at by
  whoever asked for it.
-/
import GasLens.Text.Search
import GasLens.Toml.Value

namespace GasLens.Toml

open GasLens.Text

/-- A value at the front of a text, and what follows it. -/
abbrev Reader (α : Type) := List Char → Option (α × List Char)

/-! ### Digits -/

/-- Further digits of a number; an underscore may stand between two of them. -/
def furtherDigits (isDigit : Char → Bool) : List Char → List Char × List Char
  | '_' :: d :: r =>
    if isDigit d then
      let p := furtherDigits isDigit r
      (d :: p.1, p.2)
    else ([], '_' :: d :: r)
  | c :: r =>
    if isDigit c then
      let p := furtherDigits isDigit r
      (c :: p.1, p.2)
    else ([], c :: r)
  | [] => ([], [])

def readDigitRun (isDigit : Char → Bool) : Reader (List Char)
  | [] => none
  | c :: r =>
    if isDigit c then
      let p := furtherDigits isDigit r
      some (c :: p.1, p.2)
    else none

def isDigitOf (base : Nat) (c : Char) : Bool := (digitValue? base c).isSome

def valueOfDigits (base : Nat) (digits : List Char) : Nat :=
  digits.foldl (fun n c => n * base + (digitValue? base c).getD 0) 0

/-- A sign, if there is one: whether it is a minus, and what follows. -/
def readSign : List Char → Bool × List Char
  | '+' :: r => (false, r)
  | '-' :: r => (true, r)
  | cs => (false, cs)

/-- The digits of a whole number, which has no leading zeros. -/
def readWhole : Reader (List Char)
  | '0' :: r => some (['0'], r)
  | cs => readDigitRun isDecimalDigit cs

/-! ### Integers -/

/-- An integer of 64 bits, if the magnitude allows it. -/
def integerOf? (negative : Bool) (n : Nat) : Option Int :=
  if negative then (if n ≤ maxI64 + 1 then some (-n) else none)
  else if n ≤ maxI64 then some n else none

/-- An integer in a base with a mark, which has no sign. -/
def readBased (base : Nat) : Reader Int := fun cs => do
  let (digits, r) ← readDigitRun (isDigitOf base) cs
  let n ← integerOf? false (valueOfDigits base digits)
  return (n, r)

def readInteger : Reader Int
  | '0' :: 'x' :: r => readBased 16 r
  | '0' :: 'o' :: r => readBased 8 r
  | '0' :: 'b' :: r => readBased 2 r
  | cs => do
    let (negative, r) := readSign cs
    let (digits, r) ← readWhole r
    let n ← integerOf? negative (valueOfDigits 10 digits)
    return (n, r)

/-! ### Doubles -/

def nearestDouble (digits : List Char) (power : Int) : Float :=
  let n := valueOfDigits 10 digits
  let leading := (decimal n).length + power
  if n = 0 ∨ leading < -330 then Decimal.ofNat 0
  else if 310 < leading then 1.0 / 0.0
  else if power < 0 then Float.ofScientific n true power.natAbs
  else Float.ofScientific n false power.natAbs

def readPower : Reader Int
  | c :: r =>
    if c = 'e' ∨ c = 'E' then do
      let (negative, r) := readSign r
      let (digits, r) ← readDigitRun isDecimalDigit r
      let n := valueOfDigits 10 digits
      return (if negative then -n else n, r)
    else none
  | [] => none

def readPowerOr (cs : List Char) : Int × List Char := (readPower cs).getD (0, cs)

/-- A double with a point or an exponent. Positive infinity is no result of digits. -/
def readDigitsDouble : Reader Float := fun cs => do
  let (negative, r) := readSign cs
  let (whole, r) ← readWhole r
  let (x, r) ← match r with
    | '.' :: r => do
      let (places, r) ← readDigitRun isDecimalDigit r
      let (power, r) := readPowerOr r
      pure (nearestDouble (whole ++ places) (power - places.length), r)
    | r => do
      let (power, r) ← readPower r
      pure (nearestDouble whole power, r)
  if negative then some (-x, r) else if Decimal.isFinite x then some (x, r) else none

def readNamedDouble : Reader Float := fun cs =>
  let (negative, r) := readSign cs
  match r with
  | 'i' :: 'n' :: 'f' :: r =>
    let x : Float := 1.0 / 0.0
    some (if negative then -x else x, r)
  | 'n' :: 'a' :: 'n' :: r => some (0.0 / 0.0, r)
  | _ => none

/-! ### Dates and times -/

def readPair (least greatest : Nat) : Reader Nat
  | a :: b :: r =>
    let n := valueOfDigits 10 [a, b]
    if isDecimalDigit a && isDecimalDigit b && decide (least ≤ n) && decide (n ≤ greatest) then
      some (n, r)
    else none
  | _ => none

def readMark (mark : Char) : List Char → Option (List Char)
  | c :: r => if c = mark then some r else none
  | [] => none

def isLeapYear (year : Nat) : Bool :=
  year % 4 = 0 && (year % 100 ≠ 0 || year % 400 = 0)

def daysInMonth (year month : Nat) : Nat :=
  if month = 2 then (if isLeapYear year then 29 else 28)
  else if month = 4 ∨ month = 6 ∨ month = 9 ∨ month = 11 then 30
  else 31

def readDate : Reader Date
  | a :: b :: c :: d :: r => do
    if !([a, b, c, d].all isDecimalDigit) then failure
    let year := valueOfDigits 10 [a, b, c, d]
    let r ← readMark '-' r
    let (month, r) ← readPair 1 12 r
    let r ← readMark '-' r
    let (day, r) ← readPair 1 31 r
    if daysInMonth year month < day then failure
    return (⟨year, month, day⟩, r)
  | _ => none

/-- The number of places of a second that count. -/
def secondPlaces : Nat := 9

def nanosecondsOf (places : List Char) : Nat :=
  let kept := places.take secondPlaces
  valueOfDigits 10 kept * 10 ^ (secondPlaces - kept.length)

/-- The places of a second, if there are any. -/
def readPlacesOr (cs : List Char) : Nat × List Char :=
  match cs with
  | '.' :: r =>
    let places := r.takeWhile isDecimalDigit
    if places.isEmpty then (0, cs) else (nanosecondsOf places, r.dropWhile isDecimalDigit)
  | _ => (0, cs)

/-- A time of the day, up to a last hour; a minute may have a sixty-first second. -/
def readTime (lastHour : Nat) : Reader Time := fun cs => do
  let (hour, r) ← readPair 0 lastHour cs
  let r ← readMark ':' r
  let (minute, r) ← readPair 0 59 r
  let r ← readMark ':' r
  let (second, r) ← readPair 0 60 r
  let (nanosecond, r) := readPlacesOr r
  return (⟨hour, minute, second, nanosecond⟩, r)

/-- How far the readers of times go. -/
structure TimeBounds where
  lastHour : Nat
  /-- The greatest hours of an offset. -/
  offsetHours : Nat
  /-- The greatest minutes of an offset beside its hours. -/
  offsetMinutes : Nat
  /-- The greatest minutes of an offset with its hours. -/
  offsetTotal : Nat

def clockBounds : TimeBounds := ⟨23, 23, 59, 1439⟩

def readOffset (bounds : TimeBounds) : Reader Offset
  | 'Z' :: r | 'z' :: r => some (.universal, r)
  | c :: r => do
    if c ≠ '+' ∧ c ≠ '-' then failure
    let (hours, r) ← readPair 0 bounds.offsetHours r
    let r ← readMark ':' r
    let (minutes, r) ← readPair 0 bounds.offsetMinutes r
    let total := hours * 60 + minutes
    if bounds.offsetTotal < total then failure
    return (.minutes (if c = '-' then -(total : Int) else total), r)
  | [] => none

/-- A time behind a day, with or without an offset. -/
def readTimeBehind (bounds : TimeBounds) : Reader (Time × Option Offset)
  | c :: r => do
    if c ≠ 'T' ∧ c ≠ 't' ∧ c ≠ ' ' then failure
    let (time, r) ← readTime bounds.lastHour r
    match readOffset bounds r with
    | some (offset, r) => return ((time, some offset), r)
    | none => return ((time, none), r)
  | [] => none

/-- A day, a time, or both, within the given bounds. -/
def readMomentWithin (bounds : TimeBounds) : Reader Moment := fun cs =>
  match readDate cs with
  | some (date, r) =>
    match readTimeBehind bounds r with
    | some ((time, offset), r) => some (⟨some date, some time, offset⟩, r)
    | none => some (⟨some date, none, none⟩, r)
  | none => (readTime bounds.lastHour cs).map fun p => (⟨none, some p.1, none⟩, p.2)

def readMoment : Reader Moment := readMomentWithin clockBounds

/-! ### Any of them -/

def readBoolean : Reader Bool := fun cs =>
  match dropLeading? "true".toList cs with
  | some r => some (true, r)
  | none => (dropLeading? "false".toList cs).map fun r => (false, r)

def readAs {α : Type} (kind : α → Value) (read : Reader α) : Reader Value := fun cs =>
  (read cs).map fun p => (kind p.1, p.2)

/-- The kinds of values without quotes and brackets, in the order they are tried. -/
def scalarReaders : List (Reader Value) :=
  [readAs .moment readMoment, readAs .float readDigitsDouble, readAs .float readNamedDouble,
   readAs .integer readInteger, readAs .boolean readBoolean]

def readScalar : Reader Value := fun cs => scalarReaders.findSome? fun read => read cs

end GasLens.Toml
