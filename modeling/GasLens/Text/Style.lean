/-
  GasLens/Text/Style.lean
  =======================
  **Terminal styles** — colours and attributes as escape sequences around a text.

  Two ways of writing a style are in use: one sequence with the attributes in front of the
  colour, and one sequence for each with the colour first. Both end the text with one reset.
  Without colours a text is written as it is.
-/
import GasLens.Text.Search

namespace GasLens.Text

inductive Shade where
  | red | green | yellow | magenta | cyan
  deriving DecidableEq, Repr

inductive Attribute where
  | bold | dimmed | italic
  deriving DecidableEq, Repr

structure Style where
  shade : Option Shade
  attributes : List Attribute
  deriving DecidableEq, Repr

def Shade.code : Shade → String
  | .red => "31"
  | .green => "32"
  | .yellow => "33"
  | .magenta => "35"
  | .cyan => "36"

def Attribute.code : Attribute → String
  | .bold => "1"
  | .dimmed => "2"
  | .italic => "3"

namespace Style

def plain : Style := ⟨none, []⟩

def tinted (s : Shade) : Style := ⟨some s, []⟩

def marked (as : List Attribute) : Style := ⟨none, as⟩

/-- The numbers of the colour, if there is one. -/
def shadeCodes (s : Style) : List String := s.shade.toList.map Shade.code

def attributeCodes (s : Style) : List String := s.attributes.map Attribute.code

end Style

def escapeSequence (codes : List String) : String := "\x1b[" ++ ";".intercalate codes ++ "m"

def resetSequence : String := escapeSequence ["0"]

/-- A text in one style, written with a single sequence and fitted to its column by `fit`. A
reset inside the text is followed by the style again, so that the rest of the text keeps it. -/
def paint (color : Bool) (style : Style) (fit : String → String) (s : String) : String :=
  let codes := style.attributeCodes ++ style.shadeCodes
  if color && !codes.isEmpty then
    let start := escapeSequence codes
    start ++ fit (replaceString resetSequence (resetSequence ++ start) s) ++ resetSequence
  else fit s

/-- A text in one style, written with a sequence for the colour and one for each attribute. -/
def dress (color : Bool) (style : Style) (s : String) : String :=
  let codes := style.shadeCodes ++ style.attributeCodes
  if color && !codes.isEmpty then
    String.join (codes.map fun c => escapeSequence [c]) ++ s ++ resetSequence
  else s

end GasLens.Text
