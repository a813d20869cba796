/-
  GasLens/Toml/Draft.lean
  =======================
  **Tables while they are read** — where a header or a key with dots may add to a table, and
  where it may not.

  A table is opened once by its header. A table on the way of a header may still be opened; a
  table on the way of a key with dots can only get further keys in the same way. A value, which
  an inline table is too, never changes.
-/
import GasLens.Toml.Value

namespace GasLens.Toml

/-- How a table came into being. -/
inductive Origin where
  /-- By its own header. -/
  | header
  /-- On the way of a header. -/
  | way
  /-- On the way of a key with dots. -/
  | dotted
  deriving DecidableEq, Repr

/-- What stands at a key of a document that is being read. -/
inductive Node where
  | value (v : Value)
  | table (origin : Origin) (entries : List (String × Node))
  /-- The tables of repeated headers, in their order. -/
  | tables (items : List (List (String × Node)))

abbrev Entries := List (String × Node)

mutual

def Node.toValue : Node → Value
  | .value v => v
  | .table _ entries => .table (entriesToValues entries)
  | .tables items => .array (tablesToValues items)

def entriesToValues : List (String × Node) → List (String × Value)
  | [] => []
  | (k, n) :: r => (k, n.toValue) :: entriesToValues r

def tablesToValues : List (List (String × Node)) → List Value
  | [] => []
  | entries :: r => .table (entriesToValues entries) :: tablesToValues r

end

namespace Entries

def find? (es : Entries) (key : String) : Option Node :=
  (List.find? (fun e => e.1 == key) es).map Prod.snd

def set (es : Entries) (key : String) (n : Node) : Entries :=
  es.map fun e => if e.1 == key then (key, n) else e

/-- A change of the table at the end of a way. Missing tables are made on the way. A key with
dots may not pass through a table that has a header of its own. -/
def change (made : Origin) (f : Origin → Entries → Option Entries) :
    List String → Origin → Entries → Option Entries
  | [], origin, es => f origin es
  | key :: keys, _, es =>
    match es.find? key with
    | none => do
      let inner ← change made f keys made []
      return es ++ [(key, .table made inner)]
    | some (.value _) => none
    | some (.table origin inner) =>
      if made = .dotted ∧ origin = .header then none
      else do
        let inner ← change made f keys origin inner
        return es.set key (.table origin inner)
    | some (.tables items) =>
      match items.getLast? with
      | none => none
      | some last => do
        let last ← change made f keys .header last
        return es.set key (.tables (items.dropLast ++ [last]))

/-- A value at a key, which may be behind other keys. -/
def insertValue (way : List String) (key : String) (v : Value) (origin : Origin)
    (es : Entries) : Option Entries :=
  change .dotted
    (fun origin es =>
      if decide (origin = .dotted) == way.isEmpty then none
      else if (es.find? key).isSome then none
      else some (es ++ [(key, .value v)]))
    way origin es

def openTable (way : List String) (key : String) (es : Entries) : Option Entries :=
  change .way
    (fun _ es =>
      match es.find? key with
      | none => some (es ++ [(key, .table .header [])])
      | some (.table .way inner) => some (es.set key (.table .header inner))
      | some _ => none)
    way .header es

def openItem (way : List String) (key : String) (es : Entries) : Option Entries :=
  change .way
    (fun _ es =>
      match es.find? key with
      | none => some (es ++ [(key, .tables [[]])])
      | some (.tables items) => some (es.set key (.tables (items ++ [[]])))
      | some _ => none)
    way .header es

/-- A value in the table at the end of a way that was opened. -/
def insertWithin (opened : List String) (way : List String) (key : String) (v : Value)
    (es : Entries) : Option Entries :=
  change .way (insertValue way key v) opened .header es

end Entries

end GasLens.Toml
