/-
  GasLens/Json/Reader.lean
  ========================
  **Reading JSON texts** — the whole grammar and nothing beside it.

  Nothing but white space may follow the document. Control characters in strings, escapes of
  lone surrogates, and arrays and objects nested more than 127 deep are refused, except within
  the members that the outline of the document leaves out. These are kept as null.
-/
import GasLens.Json.Outline

namespace GasLens.Json

open GasLens.Text

/-! ### Strings -/

def readUnit : List Char → Option (Nat × List Char)
  | a :: b :: c :: d :: r =>
    match digitValue? 16 a, digitValue? 16 b, digitValue? 16 c, digitValue? 16 d with
    | some a, some b, some c, some d => some (((a * 16 + b) * 16 + c) * 16 + d, r)
    | _, _, _, _ => none
  | _ => none

/-- The character of an escape by number; a high surrogate needs the low one behind it. -/
def readCodePoint (cs : List Char) : Option (Char × List Char) :=
  match readUnit cs with
  | none => none
  | some (unit, rest) =>
    if unit < 0xd800 ∨ 0xdfff < unit then some (Char.ofNat unit, rest)
    else if 0xdc00 ≤ unit then none
    else match rest with
      | '\\' :: 'u' :: rest =>
        match readUnit rest with
        | none => none
        | some (low, rest) =>
          if 0xdc00 ≤ low ∧ low ≤ 0xdfff then
            some (Char.ofNat (0x10000 + (unit - 0xd800) * 0x400 + (low - 0xdc00)), rest)
          else none
      | _ => none

/-- The characters up to the closing quote, and what follows it. The characters read so far are
held in reverse, and the fuel bounds the number of those that follow. -/
def readChars : Nat → List Char → List Char → Option (String × List Char)
  | 0, _, _ => none
  | _, _, [] => none
  | fuel + 1, read, c :: r =>
    if c = '"' then some (String.ofList read.reverse, r)
    else if c = '\\' then
      match r with
      | 'u' :: r =>
        match readCodePoint r with
        | none => none
        | some (c, r) => readChars fuel (c :: read) r
      | e :: r =>
        match shortEscape? e with
        | none => none
        | some c => readChars fuel (c :: read) r
      | [] => none
    else if c.toNat < 0x20 then none
    else readChars fuel (c :: read) r

/-- The name of a member behind its opening quote, and what follows it. -/
def readName (plain : Bool) (fuel : Nat) (cs : List Char) : Option (String × List Char) :=
  if plain && (cs.takeWhile (· != '"')).contains '\\' then none else readChars fuel [] cs

/-! ### Documents -/

def readWord (word : String) (j : Json) (cs : List Char) : Option (Json × List Char) :=
  (skipWord word.toList cs).map fun rest => (j, rest)

mutual

/-- The wanted parts of a document at the front of a text, and what follows it. -/
def readValue : Nat → Nat → Outline → List Char → Option (Json × List Char)
  | 0, _, _, _ => none
  | fuel + 1, depth, o, cs =>
    match skipBlank cs with
    | '\x7b' :: r =>
      match depth, skipBlank r with
      | 0, _ => none
      | _ + 1, '\x7d' :: r => some (.object [], r)
      | depth + 1, r => (readMembers fuel depth o r).map fun (ms, rest) => (.object ms, rest)
    | '[' :: r =>
      match depth, skipBlank r with
      | 0, _ => none
      | _ + 1, ']' :: r => some (.array [], r)
      | depth + 1, r => (readItems fuel depth o r).map fun (js, rest) => (.array js, rest)
    | '"' :: r => (readChars fuel [] r).map fun (s, rest) => (.string s, rest)
    | 't' :: r => readWord "rue" (.bool true) r
    | 'f' :: r => readWord "alse" (.bool false) r
    | 'n' :: r => readWord "ull" .null r
    | cs => (readNumber cs).map fun (n, rest) => (.number n, rest)

def readItems : Nat → Nat → Outline → List Char → Option (List Json × List Char)
  | 0, _, _, _ => none
  | fuel + 1, depth, o, cs =>
    match readValue fuel depth o.head cs with
    | none => none
    | some (j, rest) =>
      match skipBlank rest with
      | ']' :: r => some ([j], r)
      | ',' :: r => (readItems fuel depth o.tail r).map fun (js, rest) => (j :: js, rest)
      | _ => none

def readMembers : Nat → Nat → Outline → List Char → Option (List (String × Json) × List Char)
  | 0, _, _, _ => none
  | fuel + 1, depth, o, cs =>
    match skipBlank cs with
    | '"' :: r =>
      match readName o.hasPlainNames fuel r with
      | none => none
      | some (name, r) =>
        match skipBlank r with
        | ':' :: r =>
          match readMember fuel depth (o.member? name) r with
          | none => none
          | some (j, rest) =>
            match skipBlank rest with
            | '\x7d' :: r => some ([(name, j)], r)
            | ',' :: r =>
              (readMembers fuel depth o r).map fun (ms, rest) => ((name, j) :: ms, rest)
            | _ => none
        | _ => none
    | _ => none

/-- The value of a member, which is read or skipped. -/
def readMember : Nat → Nat → Option Outline → List Char → Option (Json × List Char)
  | 0, _, _, _ => none
  | fuel + 1, depth, some o, cs => readValue fuel depth o cs
  | fuel + 1, _, none, cs => (skipValue fuel cs).map fun rest => (.null, rest)

end

/-- The greatest number of arrays and objects inside one another. -/
def maxDepth : Nat := 127

def readAll (o : Outline) (cs : List Char) : Option Json :=
  match readValue (3 * cs.length + 3) maxDepth o cs with
  | some (j, rest) => if (skipBlank rest).isEmpty then some j else none
  | none => none

def readOutline? (o : Outline) (s : String) : Option Json := readAll o s.toList

def read? (s : String) : Option Json := readOutline? .whole s

end GasLens.Json
