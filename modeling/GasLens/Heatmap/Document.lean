/-
  GasLens/Heatmap/Document.lean
  =============================
  **Heatmap documents** — heatmaps written for other programs.
-/
import GasLens.Heatmap.Basic
import GasLens.Json.Writer

namespace GasLens

def HeatmapLine.toJson (l : HeatmapLine) : Json :=
  .object
    [("lineNumber", .ofNat l.number), ("text", .string l.text), ("cost", .ofNat l.cost),
     ("shareOfTotal", .ofFloat l.share), ("severity", .string l.severity.name),
     ("isBoilerplate", .bool l.isBoilerplate)]

def FunctionSummary.toJson (f : FunctionSummary) : Json :=
  .object
    [("name", .string f.name), ("avgCost", .ofFloat f.avg), ("min", .ofNat f.min),
     ("max", .ofNat f.max), ("p95", .ofNat f.p95), ("lines", .array (f.lines.map Json.ofInt))]

namespace Heatmap

def toJson (h : Heatmap) : Json :=
  .object
    [("contractName", .string h.contractName),
     ("summary", .object [("totalCost", .ofNat h.totalCost)]),
     ("lines", .array (h.lines.map HeatmapLine.toJson)),
     ("functions", .array (h.functions.map FunctionSummary.toJson))]

def write (h : Heatmap) : String := h.toJson.pretty

end Heatmap

end GasLens
