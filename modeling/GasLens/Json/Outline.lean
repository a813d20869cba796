/-
  GasLens/Json/Outline.lean
  =========================
  **Outlines of documents** — which parts of a document its reader wants.

  A member that no part of the outline names is skipped: it has to keep to the grammar, but its
  numbers need no value, its escapes no character, and it may be nested as deep as it likes.
-/
import GasLens.Json.Number

namespace GasLens.Json

open GasLens.Text

/-- The parts of a document that are wanted. -/
inductive Outline where
  /-- All of it. -/
  | whole
  /-- The fields of a record, by name or by position. -/
  | record (fields : List (String × Outline))
  /-- Every item or member, each in the same way. -/
  | each (part : Outline)
  /-- Every member of an object whose names are numbers; a number has no escapes in it. -/
  | numbered (part : Outline)

namespace Outline

/-- A record with the given fields, all of them wanted whole. -/
def fields (names : List String) : Outline := .record (names.map fun name => (name, .whole))

/-- What is wanted of the member of a name, if anything. -/
def member? : Outline → String → Option Outline
  | .whole, _ => some .whole
  | .record fields, name => (fields.find? fun f => f.1 == name).map Prod.snd
  | .each part, _ => some part
  | .numbered part, _ => some part

def head : Outline → Outline
  | .record (field :: _) => field.2
  | .each part => part
  | _ => .whole

def tail : Outline → Outline
  | .record (_ :: fields) => .record fields
  | o => o

def hasPlainNames : Outline → Bool
  | .numbered _ => true
  | _ => false

end Outline

/-! ### White space and strings -/

def isJsonBlank (c : Char) : Bool := c = ' ' || c = '\t' || c = '\n' || c = '\r'

def skipBlank (cs : List Char) : List Char := cs.dropWhile isJsonBlank

def shortEscape? : Char → Option Char
  | '"' => some '"'
  | '\\' => some '\\'
  | '/' => some '/'
  | 'b' => some '\x08'
  | 'f' => some '\x0c'
  | 'n' => some '\n'
  | 'r' => some '\r'
  | 't' => some '\t'
  | _ => none

def skipWord : List Char → List Char → Option (List Char)
  | [], rest => some rest
  | w :: ws, c :: cs => if w = c then skipWord ws cs else none
  | _ :: _, [] => none

/-! ### Skipping -/

def skipChars : List Char → Option (List Char)
  | [] => none
  | '"' :: r => some r
  | '\\' :: 'u' :: a :: b :: c :: d :: r =>
    if [a, b, c, d].all fun x => (digitValue? 16 x).isSome then skipChars r else none
  | '\\' :: e :: r => if (shortEscape? e).isSome then skipChars r else none
  | c :: r => if c.toNat < 0x20 then none else skipChars r

def skipDigits (cs : List Char) : Option (List Char) :=
  match spanDigits cs with
  | ([], _) => none
  | (_, rest) => some rest

def skipExponent : List Char → Option (List Char)
  | c :: r =>
    if c = 'e' ∨ c = 'E' then
      match r with
      | '-' :: r => skipDigits r
      | '+' :: r => skipDigits r
      | r => skipDigits r
    else some (c :: r)
  | [] => some []

/-- What follows the digits behind a point and the exponent, where they are. -/
def skipPlaces : List Char → Option (List Char)
  | '.' :: r => (skipDigits r).bind skipExponent
  | cs => skipExponent cs

/-- What follows a number without its sign. A zero in front is never followed by a digit. -/
def skipUnsigned (cs : List Char) : Option (List Char) :=
  match spanDigits cs with
  | ([], _) => none
  | (0 :: _ :: _, _) => none
  | (_, rest) => skipPlaces rest

def skipNumber : List Char → Option (List Char)
  | '-' :: r => skipUnsigned r
  | cs => skipUnsigned cs

/-- What a value that is skipped stands in. -/
inductive Enclosure where
  | array
  | object

mutual

def skipWithin : Nat → List Enclosure → List Char → Option (List Char)
  | 0, _, _ => none
  | fuel + 1, outer, cs =>
    match skipBlank cs with
    | '\x7b' :: r =>
      match skipBlank r with
      | '\x7d' :: r => skipRest fuel outer r
      | r => skipMember fuel (.object :: outer) r
    | '[' :: r =>
      match skipBlank r with
      | ']' :: r => skipRest fuel outer r
      | r => skipWithin fuel (.array :: outer) r
    | '"' :: r => (skipChars r).bind (skipRest fuel outer)
    | 't' :: r => (skipWord "rue".toList r).bind (skipRest fuel outer)
    | 'f' :: r => (skipWord "alse".toList r).bind (skipRest fuel outer)
    | 'n' :: r => (skipWord "ull".toList r).bind (skipRest fuel outer)
    | cs => (skipNumber cs).bind (skipRest fuel outer)

def skipMember : Nat → List Enclosure → List Char → Option (List Char)
  | 0, _, _ => none
  | fuel + 1, outer, cs =>
    match skipBlank cs with
    | '"' :: r =>
      match (skipChars r).map skipBlank with
      | some (':' :: r) => skipWithin fuel outer r
      | _ => none
    | _ => none

/-- What follows all that a value stands in, where the value itself has been skipped. -/
def skipRest : Nat → List Enclosure → List Char → Option (List Char)
  | 0, _, _ => none
  | _ + 1, [], cs => some cs
  | fuel + 1, e :: outer, cs =>
    match e, skipBlank cs with
    | .array, ']' :: r => skipRest fuel outer r
    | .array, ',' :: r => skipWithin fuel (.array :: outer) r
    | .object, '\x7d' :: r => skipRest fuel outer r
    | .object, ',' :: r => skipMember fuel (.object :: outer) r
    | _, _ => none

end

def skipValue (fuel : Nat) (cs : List Char) : Option (List Char) := skipWithin fuel [] cs

end GasLens.Json
