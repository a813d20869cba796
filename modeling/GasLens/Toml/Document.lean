/-
  GasLens/Toml/Document.lean
  ==========================
  **TOML documents** — a settings file as one table.

  A document is a sequence of lines, each with a header, a key and its value, a comment, or
  nothing. Values in brackets may go over several lines, and are nested to a limited depth.
-/
import GasLens.Toml.Draft
import GasLens.Toml.Quotation

namespace GasLens.Toml

open GasLens.Text

/-! ### Comments and line ends -/

def skipComment : List Char → List Char
  | '#' :: r => r.dropWhile isContent
  | cs => cs

/-- What follows the end of a line; a comment may stand before it. -/
def lineEnd? (cs : List Char) : Option (List Char) :=
  match skipComment (skipSpace cs) with
  | [] => some []
  | r => lineBreak? r

/-- A text less the white space, line breaks and comments in front; at most the given number of
lines. -/
def skipLines : Nat → List Char → List Char
  | 0, cs => cs
  | n + 1, cs =>
    match lineBreak? (skipComment (skipSpace cs)) with
    | some r => skipLines n r
    | none => skipSpace cs

def skipFiller (cs : List Char) : List Char := skipLines (cs.length + 1) cs

/-! ### Keys -/

def isBareKeyChar (c : Char) : Bool :=
  c.isAlpha || isDecimalDigit c || c = '_' || c = '-'

def readSimpleKey : Reader String
  | '"' :: r => readQuotedLine '"' true ('"' :: r)
  | '\x27' :: r => readQuotedLine '\x27' false ('\x27' :: r)
  | cs =>
    let bare := cs.takeWhile isBareKeyChar
    if bare.isEmpty then none else some (String.ofList bare, cs.dropWhile isBareKeyChar)

/-- The keys between dots, at most the given number of them: those on the way and the last. -/
def readKeys : Nat → Reader (List String × String)
  | 0, _ => none
  | n + 1, cs => do
    let (key, r) ← readSimpleKey (skipSpace cs)
    match skipSpace r with
    | '.' :: r =>
      let ((way, last), r) ← readKeys n r
      return ((key :: way, last), r)
    | r => return (([], key), r)

/-- The greatest number of keys between dots, and the greatest depth of brackets. -/
def depthLimit : Nat := 79

def readKey : Reader (List String × String) := readKeys depthLimit

def readAssignee : Reader (List String × String) := fun cs => do
  let (key, r) ← readKey cs
  let r ← readMark '=' r
  return (key, skipSpace r)

/-! ### Values -/

mutual

/-- A value. The first number bounds the steps, the second one the depth of brackets. -/
def readValueWithin : Nat → Nat → Reader Value
  | 0, _, _ => none
  | steps + 1, depth, cs =>
    match cs, depth with
    | '[' :: _, 0 => none
    | '\x7b' :: _, 0 => none
    | '[' :: r, depth + 1 => do
      let (items, r) ← readItemsWithin steps depth (skipFiller r)
      return (.array items, r)
    | '\x7b' :: r, depth + 1 =>
      match skipSpace r with
      | '\x7d' :: r => some (.table [], r)
      | r => do
        let (entries, r) ← readPairsWithin steps depth [] r
        return (.table (entriesToValues entries), r)
    | '"' :: _, _ => readAs .string readQuotation cs
    | '\x27' :: _, _ => readAs .string readQuotation cs
    | cs, _ => readScalar cs

/-- The items of an array up to its end; a comma may stand behind the last one. -/
def readItemsWithin : Nat → Nat → Reader (List Value)
  | 0, _, _ => none
  | steps + 1, depth, cs =>
    match cs with
    | ']' :: r => some ([], r)
    | cs => do
      let (v, r) ← readValueWithin steps depth cs
      match skipFiller r with
      | ',' :: r =>
        let (vs, r) ← readItemsWithin steps depth (skipFiller r)
        return (v :: vs, r)
      | ']' :: r => return ([v], r)
      | _ => none

/-- The pairs of an inline table up to its end, put to those that were read before. -/
def readPairsWithin : Nat → Nat → Entries → Reader Entries
  | 0, _, _, _ => none
  | steps + 1, depth, es, cs => do
    let ((way, key), r) ← readAssignee cs
    let (v, r) ← readValueWithin steps depth r
    let es ← Entries.insertValue way key v .header es
    match skipSpace r with
    | ',' :: r => readPairsWithin steps depth es r
    | '\x7d' :: r => return (es, r)
    | _ => none

end

/-- A value. Each step takes a character, so the length of the text bounds the steps. -/
def readValue : Reader Value := fun cs => readValueWithin (2 * cs.length + 1) depthLimit cs

/-! ### Lines -/

/-- A document that has been read up to a line: its tables, and the way to the one that gets the
keys of the next lines. -/
structure Draft where
  root : Entries
  opened : List String

def closeHeader? (closing : List Char) (cs : List Char) : Option (List Char) :=
  (dropLeading? closing cs).bind lineEnd?

def readLineOf (d : Draft) (cs : List Char) : Option (Draft × List Char) :=
  match cs with
  | '[' :: '[' :: r => do
    let ((way, key), r) ← readKey r
    let root ← d.root.openItem way key
    let r ← closeHeader? [']', ']'] r
    return (⟨root, way ++ [key]⟩, r)
  | '[' :: r => do
    let ((way, key), r) ← readKey r
    let root ← d.root.openTable way key
    let r ← closeHeader? [']'] r
    return (⟨root, way ++ [key]⟩, r)
  | cs => do
    let ((way, key), r) ← readAssignee cs
    let (v, r) ← readValue r
    let root ← d.root.insertWithin d.opened way key v
    let r ← lineEnd? r
    return (⟨root, d.opened⟩, r)

/-- The lines of a document, at most the given number of them. -/
def readLines : Nat → Draft → List Char → Option Draft
  | 0, _, _ => none
  | n + 1, d, cs =>
    match skipSpace cs with
    | [] => some d
    | r =>
      match lineEnd? r with
      | some r => readLines n d r
      | none => do
        let (d, r) ← readLineOf d r
        readLines n d r

def withoutByteOrderMark : List Char → List Char
  | '\ufeff' :: r => r
  | cs => cs

def readDocument (s : String) : Option (List (String × Value)) :=
  let cs := withoutByteOrderMark s.toList
  (readLines (cs.length + 1) ⟨[], []⟩ cs).map fun d => entriesToValues d.root

end GasLens.Toml
