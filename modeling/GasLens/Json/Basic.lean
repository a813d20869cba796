/-
  GasLens/Json/Basic.lean
  =======================
  **JSON values** — a document as it was written, and its normal form.

  A document keeps the members of an object in the order of the text, repeated names included.
  In normal form every name occurs once, with its last value, and names ascend.
-/
import GasLens.SortedMap
import GasLens.Decimal.Binary64

namespace GasLens

/-- A number of a document: an integer of 64 bits, or a double. -/
inductive JsonNumber where
  | integer (n : Int)
  | double (x : Float)

inductive Json where
  | null
  | bool (b : Bool)
  | number (n : JsonNumber)
  | string (s : String)
  | array (items : List Json)
  | object (members : List (String × Json))

instance : Inhabited Json := ⟨.null⟩

namespace Json

def ofNat (n : Nat) : Json := .number (.integer n)

def ofInt (n : Int) : Json := .number (.integer n)

def ofFloat (x : Float) : Json := .number (.double x)

def ofOption {α : Type} (f : α → Json) : Option α → Json
  | some a => f a
  | none => .null

/-! ### Normal form -/

mutual

def normal : Json → Json
  | .array items => .array (normalItems items)
  | .object members => .object (SortedMap.ofList (normalMembers members)).entries
  | j => j

def normalItems : List Json → List Json
  | [] => []
  | j :: r => normal j :: normalItems r

def normalMembers : List (String × Json) → List (String × Json)
  | [] => []
  | (name, j) :: r => (name, normal j) :: normalMembers r

end

/-! ### Depth -/

mutual

def depth : Json → Nat
  | .array items => depthItems items + 1
  | .object members => depthMembers members + 1
  | _ => 0

def depthItems : List Json → Nat
  | [] => 0
  | j :: r => max (depth j) (depthItems r)

def depthMembers : List (String × Json) → Nat
  | [] => 0
  | (_, j) :: r => max (depth j) (depthMembers r)

end

/-! ### Looking inside -/

def lastMember? (name : String) (members : List (String × Json)) : Option Json :=
  (members.reverse.find? fun m => m.1 == name).map Prod.snd

/-- The member of a name, if the document is an object that has one. -/
def member? (name : String) : Json → Option Json
  | .object members => lastMember? name members
  | _ => none

def member (name : String) (j : Json) : Json := (j.member? name).getD .null

def isObject : Json → Bool
  | .object _ => true
  | _ => false

def isNull : Json → Bool
  | .null => true
  | _ => false

def string? : Json → Option String
  | .string s => some s
  | _ => none

def bool? : Json → Option Bool
  | .bool b => some b
  | _ => none

def int? : Json → Option Int
  | .number (.integer n) => some n
  | _ => none

def nat? : Json → Option Nat
  | .number (.integer n) => if 0 ≤ n then some n.toNat else none
  | _ => none

def float? : Json → Option Float
  | .number (.integer n) => some (Decimal.ofInt n)
  | .number (.double x) => some x
  | _ => none

def array? : Json → Option (List Json)
  | .array items => some items
  | _ => none

def object? : Json → Option (List (String × Json))
  | .object members => some members
  | _ => none

/-- The items of an array, each read in the same way. -/
def listOf? {α : Type} (f : Json → Option α) : Json → Option (List α)
  | .array items => items.mapM f
  | _ => none

def optional? {α : Type} (f : Json → Option α) : Json → Option (Option α)
  | .null => some none
  | j => (f j).map some

end Json

end GasLens
