/-
  GasLens/Heatmap/Listing.lean
  ============================
  **Heatmap listings** — the source with the gas behind each line, and a table of the functions.
-/
import GasLens.Heatmap.Basic
import GasLens.Text.Style
import GasLens.Text.Pad

namespace GasLens

open GasLens.Text

def Severity.style : Severity → Style
  | .high => ⟨some .red, [.bold]⟩
  | .medium => .tinted .yellow
  | .low => .tinted .green
  | .boilerplate => .marked [.dimmed, .italic]
  | .none => .plain

def headingStyle : Style := .marked [.bold]

namespace Heatmap

def remark (l : HeatmapLine) : String :=
  match l.severity with
  | .none => ""
  | .boilerplate => "boilerplate"
  | _ => natText l.cost ++ " (" ++ Decimal.fixedPlaces 1 (l.share * 100.0) ++ "%)"

/-- One line of the source, with its number in a column of the given width. -/
def sourceRow (color : Bool) (width : Nat) (l : HeatmapLine) : String :=
  padLeft width (natText l.number) ++ " | " ++
    paint color l.severity.style (padRight 60) l.text ++ " " ++
    paint color l.severity.style id (remark l) ++ "\n"

/-- The four numbers of a row of the table, each in its column. -/
def numberCells (cells : List String) : String :=
  String.join (cells.map fun c => " " ++ padLeft 10 c)

def tableHeading (color : Bool) : String :=
  paint color headingStyle (padRight 24) "function" ++ numberCells ["avg", "min", "max", "p95"] ++
    "  lines\n"

def tableRow (f : FunctionSummary) : String :=
  padRight 24 f.name ++
    numberCells [Decimal.fixedPlaces 0 f.avg, natText f.min, natText f.max, natText f.p95] ++
    "  " ++ ",".intercalate (f.lines.map intText) ++ "\n"

/-- The table of the functions, if there are any. -/
def table (color : Bool) (fs : List FunctionSummary) : String :=
  if fs.isEmpty then "" else "\n" ++ tableHeading color ++ String.join (fs.map tableRow)

def listing (color : Bool) (h : Heatmap) : String :=
  let width := (natText h.lines.length).length
  paint color headingStyle id "Heatmap" ++ " " ++
    paint color (.tinted .cyan) id h.contractName ++ " (total gas: " ++ natText h.totalCost ++
    ")\n" ++ String.join (h.lines.map (sourceRow color width)) ++ table color h.functions

end Heatmap

end GasLens
