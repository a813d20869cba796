/-
  GasLens/Toml/Value.lean
  =======================
  **TOML values** — the values of a settings file, and how a message shows one.
-/
import GasLens.Decimal.Written
import GasLens.SortedMap
import GasLens.Text.Quoted

namespace GasLens.Toml

open GasLens.Text

structure Date where
  year : Nat
  month : Nat
  day : Nat
  deriving DecidableEq, Repr

structure Time where
  hour : Nat
  minute : Nat
  second : Nat
  nanosecond : Nat
  deriving DecidableEq, Repr

/-- How far a clock is ahead of universal time. -/
inductive Offset where
  | universal
  | minutes (n : Int)
  deriving DecidableEq, Repr

/-- A day, a time, or both; both may have an offset. -/
structure Moment where
  date : Option Date
  time : Option Time
  offset : Option Offset
  deriving DecidableEq, Repr

inductive Value where
  | string (s : String)
  | integer (n : Int)
  | float (x : Float)
  | boolean (b : Bool)
  | moment (m : Moment)
  | array (items : List Value)
  | table (entries : List (String × Value))

instance : Inhabited Value := ⟨.boolean false⟩

/-! ### Showing a value -/

/-- Doubles in a message: a point between 1e-4 and 1e16, and one digit behind it at least. -/
def floatLayout : Decimal.Layout := ⟨some (-4), some 16, true, false, .up⟩

def shownRecord (name : String) (parts : List (String × String)) : String :=
  name ++ " \x7b " ++ ", ".intercalate (parts.map fun p => p.1 ++ ": " ++ p.2) ++ " \x7d"

def shownOption {α : Type} (f : α → String) : Option α → String
  | some a => "Some(" ++ f a ++ ")"
  | none => "None"

def Date.shown (d : Date) : String :=
  shownRecord "Date" [("year", natText d.year), ("month", natText d.month), ("day", natText d.day)]

def Time.shown (t : Time) : String :=
  shownRecord "Time"
    [("hour", natText t.hour), ("minute", natText t.minute), ("second", natText t.second),
     ("nanosecond", natText t.nanosecond)]

def Offset.shown : Offset → String
  | .universal => "Z"
  | .minutes n => shownRecord "Custom" [("minutes", intText n)]

def Moment.shown (m : Moment) : String :=
  shownRecord "Datetime"
    [("date", shownOption Date.shown m.date), ("time", shownOption Time.shown m.time),
     ("offset", shownOption Offset.shown m.offset)]

mutual

/-- A value in a message, with its kind; the keys of a table ascend. -/
def Value.shown : Value → String
  | .string s => "String(" ++ quoted s ++ ")"
  | .integer n => "Integer(" ++ intText n ++ ")"
  | .float x => "Float(" ++ floatLayout.write x ++ ")"
  | .boolean b => "Boolean(" ++ (if b then "true" else "false") ++ ")"
  | .moment m => "Datetime(" ++ m.shown ++ ")"
  | .array items => "Array([" ++ ", ".intercalate (shownItems items) ++ "])"
  | .table entries =>
    let sorted := (SortedMap.ofList (shownEntries entries)).entries
    "Table(\x7b" ++ ", ".intercalate (sorted.map fun e => quoted e.1 ++ ": " ++ e.2) ++ "\x7d)"

def shownItems : List Value → List String
  | [] => []
  | v :: r => v.shown :: shownItems r

/-- The values of a table in a message, with their keys. -/
def shownEntries : List (String × Value) → List (String × String)
  | [] => []
  | (k, v) :: r => (k, v.shown) :: shownEntries r

end

end GasLens.Toml
