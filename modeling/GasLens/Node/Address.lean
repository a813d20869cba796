/-
  GasLens/Node/Address.lean
  =========================
  **Addresses of machines** — hosts that are numbers, plain or in brackets.

  A host whose last label is a number is an address of up to four numbers, each of them
  hexadecimal, octal or decimal. In brackets stand eight groups of hexadecimal digits, or fewer
  with a gap among them.
-/
import GasLens.Text.Integer
import GasLens.Text.Search

namespace GasLens.Node

open GasLens.Text

/-! ### Numbers -/

/-- The value of a part of a numeric host: hexadecimal, octal or decimal by its beginning. -/
def partValue? : List Char → Option Nat
  | [] => none
  | '0' :: 'x' :: r => valueOf 16 r
  | '0' :: 'X' :: r => valueOf 16 r
  | '0' :: c :: r => valueOf 8 (c :: r)
  | cs => valueOf 10 cs
where
  /-- The value of digits; no digit at all is zero. -/
  valueOf (base : Nat) (cs : List Char) : Option Nat :=
    cs.foldlM (fun n c => (digitValue? base c).map (n * base + ·)) 0

/-- The labels of a host, less an empty last one. -/
def labels (cs : List Char) : List (List Char) :=
  let pieces := split '.' cs
  if 1 < pieces.length ∧ pieces.getLast? = some [] then pieces.dropLast else pieces

/-- Whether the last label makes a host a number. -/
def isNumericHost (cs : List Char) : Bool :=
  match (labels cs).getLast? with
  | none => false
  | some label =>
    !label.isEmpty && (label.all isDecimalDigit ||
      ((dropLeading? ['0', 'x'] (label.map Char.toLower)).isSome && (partValue? label).isSome))

/-- Whether a numeric host is an address: at most four parts, the last of which fills what the
others leave. -/
def isNumericAddress (cs : List Char) : Bool :=
  match (labels cs).mapM partValue? with
  | none => false
  | some parts =>
    decide (parts.length ≤ 4) && parts.dropLast.all (fun n => decide (n ≤ 255)) &&
      parts.getLast?.all fun n => decide (n < 256 ^ (5 - parts.length))

/-! ### Groups -/

def isGroup (cs : List Char) : Bool :=
  !cs.isEmpty && decide (cs.length ≤ 4) && cs.all fun c => (digitValue? 16 c).isSome

def isOctet (cs : List Char) : Bool :=
  !cs.isEmpty && cs.all isDecimalDigit && (cs.length = 1 || cs.head? ≠ some '0') &&
    (readDigits 10 255 0 cs).isOk

/-- The number of groups that a run of groups stands for; a dotted address at the very end
stands for two. -/
def groupCount? (final : Bool) (cs : List Char) : Option Nat :=
  if cs.isEmpty then some 0
  else
    let pieces := split ':' cs
    match pieces.getLast? with
    | none => none
    | some last =>
      if !pieces.dropLast.all isGroup then none
      else if isGroup last then some pieces.length
      else
        let octets := split '.' last
        if final && octets.length = 4 && octets.all isOctet then some (pieces.length + 1) else none

def splitGap? : List Char → Option (List Char × List Char)
  | ':' :: ':' :: r => some ([], r)
  | c :: r => (splitGap? r).map fun p => (c :: p.1, p.2)
  | [] => none

/-- Whether a text is an address in brackets: eight groups, or fewer around one gap. -/
def isGroupedAddress (cs : List Char) : Bool :=
  match splitGap? cs with
  | none => groupCount? true cs == some 8
  | some (before, after) =>
    match groupCount? false before, groupCount? true after with
    | some a, some b => decide (a + b ≤ 7)
    | _, _ => false

end GasLens.Node
