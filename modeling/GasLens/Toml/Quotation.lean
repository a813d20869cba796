/-
  GasLens/Toml/Quotation.lean
  ===========================
  **Quoted texts of TOML** — on one line or on many, with escapes or without.

  Double quotes allow escapes and single quotes do not. Three quotes open a text on many lines;
  a line break right behind them does not count, and a backslash at the end of a line joins it
  to the next character that is no white space.
-/
import GasLens.Text.Integer
import GasLens.Toml.Scalar

namespace GasLens.Toml

open GasLens.Text

/-- A character that may stand in comments and quoted texts. -/
def isContent (c : Char) : Bool := c = '\t' || (decide (0x20 ≤ c.toNat) && c.toNat ≠ 0x7f)

def isSpace (c : Char) : Bool := c = ' ' || c = '\t'

/-- A text less the white space in front, within the line. -/
def skipSpace (cs : List Char) : List Char := cs.dropWhile isSpace

def lineBreak? : List Char → Option (List Char)
  | '\n' :: r => some r
  | '\r' :: '\n' :: r => some r
  | _ => none

/-! ### Escapes -/

/-- The character of a code point, if it is one. -/
def charOfNumber? (n : Nat) : Option Char :=
  if h : n.isValidChar then some (Char.ofNatAux n h) else none

def readNumbered (count : Nat) : Reader Char := fun cs =>
  let digits := cs.take count
  if digits.length = count ∧ digits.all (isDigitOf 16) then
    (charOfNumber? (valueOfDigits 16 digits)).map fun c => (c, cs.drop count)
  else none

def shortEscape? : Char → Option Char
  | 'b' => some '\x08'
  | 't' => some '\t'
  | 'n' => some '\n'
  | 'f' => some '\x0c'
  | 'r' => some '\r'
  | '"' => some '"'
  | '\\' => some '\\'
  | _ => none

/-- The character that an escape stands for, read behind its backslash. -/
def readEscape : Reader Char
  | 'u' :: r => readNumbered 4 r
  | 'U' :: r => readNumbered 8 r
  | c :: r => (shortEscape? c).map fun e => (e, r)
  | [] => none

theorem length_of_readNumbered {count : Nat} {cs r : List Char} {c : Char}
    (h : readNumbered count cs = some (c, r)) : r.length ≤ cs.length := by
  simp only [readNumbered] at h
  split at h
  · obtain ⟨_, _, heq⟩ := Option.map_eq_some_iff.1 h
    cases heq
    simp
  · simp at h

/-- An escape has a character of its own at least. -/
theorem length_of_readEscape {cs r : List Char} {c : Char} (h : readEscape cs = some (c, r)) :
    r.length < cs.length := by
  unfold readEscape at h
  split at h
  · have := length_of_readNumbered h; simp; omega
  · have := length_of_readNumbered h; simp; omega
  · obtain ⟨_, _, heq⟩ := Option.map_eq_some_iff.1 h
    cases heq
    simp
  · simp at h

/-! ### One line -/

def consTo (c : Char) (p : List Char × List Char) : List Char × List Char := (c :: p.1, p.2)

def readLine (quote : Char) (escapes : Bool) (cs : List Char) :
    Option (List Char × List Char) :=
  match cs with
  | [] => none
  | c :: r =>
    if c = quote then some ([], r)
    else if escapes && c = '\\' then
      match h : readEscape r with
      | some (e, rest) =>
        have := length_of_readEscape h
        (readLine quote escapes rest).map (consTo e)
      | none => none
    else if isContent c then (readLine quote escapes r).map (consTo c)
    else none
termination_by cs.length
decreasing_by all_goals simp_all; try omega

/-! ### Many lines -/

/-- How many quotes at the front close a text on many lines: three, and up to two that belong to
the text. -/
def closingQuotes? (quote : Char) (cs : List Char) : Option (List Char × List Char) :=
  let count := (cs.takeWhile (· = quote)).length
  if count < 3 then none
  else
    let kept := min 2 (count - 3)
    some (List.replicate kept quote, cs.drop (kept + 3))

def skipBlankLines : List Char → List Char
  | '\n' :: r => skipBlankLines r
  | '\r' :: '\n' :: r => skipBlankLines r
  | c :: r => if isSpace c then skipBlankLines r else c :: r
  | [] => []

theorem length_skipBlankLines (cs : List Char) : (skipBlankLines cs).length ≤ cs.length := by
  fun_induction skipBlankLines cs with
  | case1 r ih => exact Nat.le_succ_of_le ih
  | case2 r ih => exact Nat.le_succ_of_le (Nat.le_succ_of_le ih)
  | case3 c r _ _ _ ih => exact Nat.le_succ_of_le ih
  | case4 => exact Nat.le_refl _
  | case5 => exact Nat.le_refl _

def endsLine (cs : List Char) : Bool := (lineBreak? (skipSpace cs)).isSome

theorem length_of_lineBreak? {cs r : List Char} (h : lineBreak? cs = some r) :
    r.length < cs.length := by
  unfold lineBreak? at h
  split at h
  · cases h; simp
  · cases h; simp only [List.length_cons]; omega
  · simp at h

def readBlock (quote : Char) (escapes : Bool) (cs : List Char) :
    Option (List Char × List Char) :=
  match closingQuotes? quote cs with
  | some p => some p
  | none =>
    match cs with
    | [] => none
    | c :: r =>
      if escapes && c = '\\' then
        if endsLine r then
          have := length_skipBlankLines r
          readBlock quote escapes (skipBlankLines r)
        else match h : readEscape r with
          | some (e, rest) =>
            have := length_of_readEscape h
            (readBlock quote escapes rest).map (consTo e)
          | none => none
      else match h : lineBreak? (c :: r) with
        | some rest =>
          have := length_of_lineBreak? h
          (readBlock quote escapes rest).map (consTo '\n')
        | none =>
          if isContent c then (readBlock quote escapes r).map (consTo c) else none
termination_by cs.length
decreasing_by all_goals simp_all; try omega

def dropLineBreak (cs : List Char) : List Char := (lineBreak? cs).getD cs

/-! ### Any of them -/

/-- A text in the given quotes, on one line. -/
def readQuotedLine (quote : Char) (escapes : Bool) : Reader String
  | c :: r =>
    if c = quote then (readLine quote escapes r).map fun p => (String.ofList p.1, p.2) else none
  | [] => none

def readQuotedBlock (quote : Char) (escapes : Bool) : Reader String := fun cs => do
  let r ← dropLeading? [quote, quote, quote] cs
  let (text, r) ← readBlock quote escapes (dropLineBreak r)
  return (String.ofList text, r)

def readQuotation : Reader String
  | '"' :: r =>
    if ['"', '"'].isPrefixOf r then readQuotedBlock '"' true ('"' :: r)
    else readQuotedLine '"' true ('"' :: r)
  | '\x27' :: r =>
    if ['\x27', '\x27'].isPrefixOf r then readQuotedBlock '\x27' false ('\x27' :: r)
    else readQuotedLine '\x27' false ('\x27' :: r)
  | _ => none

end GasLens.Toml
