/-
  GasLens/Abi/Type.lean
  =====================
  **Parameter types** — the types of an interface description, from the text of a type and back.

  A type ends in any number of array marks around its base. The base `tuple` takes its items
  from the description. What has no meaning is kept under its own name as an unsupported type.
-/
import GasLens.Text.Integer
import GasLens.Text.Search

namespace GasLens.Abi

open GasLens.Text

inductive ParamType where
  | uint (bits : Nat)
  | int (bits : Nat)
  | address
  | bool
  | fixedBytes (size : Nat)
  | bytes
  | string
  | array (item : ParamType)
  | fixedArray (item : ParamType) (length : Nat)
  | tuple (items : List ParamType)
  | unsupported (name : String)
  deriving Repr, BEq

instance : Inhabited ParamType := ⟨.bool⟩

/-! ### Writing -/

mutual

def ParamType.canonical : ParamType → List Char
  | .uint bits => "uint".toList ++ decimal bits
  | .int bits => "int".toList ++ decimal bits
  | .address => "address".toList
  | .bool => "bool".toList
  | .fixedBytes n => "bytes".toList ++ decimal n
  | .bytes => "bytes".toList
  | .string => "string".toList
  | .array t => t.canonical ++ ['[', ']']
  | .fixedArray t n => t.canonical ++ '[' :: decimal n ++ [']']
  | .tuple ts => '(' :: canonicalList ts ++ [')']
  | .unsupported name => name.toList

def canonicalList : List ParamType → List Char
  | [] => []
  | [t] => t.canonical
  | t :: ts => t.canonical ++ ',' :: canonicalList ts

end

def ParamType.name (t : ParamType) : String := String.ofList t.canonical

def ParamType.isUnsigned : ParamType → Bool
  | .uint _ => true
  | _ => false

/-! ### Reading -/

/-- A text of digits only, as a number of 64 bits. -/
def digitsValue? (digits : List Char) : Option Nat :=
  if digits.all isDecimalDigit then (readNat 10 maxU64 digits).toOption else none

/-- The width that follows the name of an integer; none means the widest. -/
def integerWidth? (digits : List Char) : Option Nat :=
  if digits.isEmpty then some 256
  else (digitsValue? digits).filter fun n => decide (0 < n ∧ n ≤ 256 ∧ n % 8 = 0)

def bytesSize? (digits : List Char) : Option Nat :=
  (digitsValue? digits).filter fun n => decide (1 ≤ n ∧ n ≤ 32)

/-- The type of a text without array marks, with the items that a tuple has. -/
def baseType (kind : List Char) (items : List ParamType) : ParamType :=
  let unknown := ParamType.unsupported (String.ofList kind)
  if kind = "tuple".toList then .tuple items
  else if kind = "address".toList then .address
  else if kind = "bool".toList then .bool
  else if kind = "bytes".toList then .bytes
  else if kind = "string".toList then .string
  else match dropLeading? "uint".toList kind with
    | some digits => ((integerWidth? digits).map ParamType.uint).getD unknown
    | none =>
      match dropLeading? "int".toList kind with
      | some digits => ((integerWidth? digits).map ParamType.int).getD unknown
      | none =>
        match dropLeading? "bytes".toList kind with
        | some digits => ((bytesSize? digits).map ParamType.fixedBytes).getD unknown
        | none => unknown

/-- What stands in front of the last array mark of a text, and the digits inside the mark. A text
of several lines has no array mark. -/
def arrayMark? (kind : List Char) : Option (List Char × List Char) :=
  match kind.reverse with
  | ']' :: r =>
    match r.dropWhile isDecimalDigit with
    | '[' :: base =>
      if base.contains '\n' then none
      else some (base.reverse, (r.takeWhile isDecimalDigit).reverse)
    | _ => none
  | _ => none

theorem length_dropWhile_le {α : Type} (p : α → Bool) (xs : List α) :
    (xs.dropWhile p).length ≤ xs.length :=
  (List.dropWhile_sublist p).length_le

/-- What stands in front of an array mark is shorter than the whole. -/
theorem length_lt_of_arrayMark? {kind base digits : List Char}
    (h : arrayMark? kind = some (base, digits)) : base.length < kind.length := by
  unfold arrayMark? at h
  split at h
  · rename_i r hr
    split at h
    · rename_i b hb
      split at h
      · simp at h
      · simp only [Option.some.injEq, Prod.mk.injEq] at h
        have h1 : kind.length = r.length + 1 := by
          rw [← List.length_reverse, hr, List.length_cons]
        have h2 : b.length + 1 ≤ r.length := by
          have := length_dropWhile_le isDecimalDigit r
          rw [hb] at this
          simpa using this
        rw [← h.1, List.length_reverse]
        omega
    · simp at h
  · simp at h

/-- The type of a text, with the items that a tuple inside it has. -/
def typeOf (kind : List Char) (items : List ParamType) : ParamType :=
  match h : arrayMark? kind with
  | some (base, digits) =>
    have := length_lt_of_arrayMark? h
    if digits.isEmpty then .array (typeOf base items)
    else match digitsValue? digits with
      | some n => .fixedArray (typeOf base items) n
      | none => .unsupported (String.ofList kind)
  | none => baseType kind items
  termination_by kind.length

structure Param where
  name : String
  kind : String
  components : List Param
  deriving Repr, BEq

instance : Inhabited Param := ⟨"", "", []⟩

mutual

def Param.type : Param → ParamType
  | ⟨_, kind, components⟩ => typeOf kind.toList (paramTypes components)

def paramTypes : List Param → List ParamType
  | [] => []
  | p :: ps => p.type :: paramTypes ps

end

theorem paramTypes_eq_map (ps : List Param) : paramTypes ps = ps.map Param.type := by
  induction ps with
  | nil => rfl
  | cons p ps ih => simp [paramTypes, ih]

end GasLens.Abi
