/-
  GasLens/Profile/Document.lean
  =============================
  **Profile documents** — profiles written for other programs.
-/
import GasLens.Json.Basic
import GasLens.Profile
import GasLens.Text.Integer

namespace GasLens

open GasLens.Source GasLens.Text

def lineCostsToJson (m : SortedMap Line Nat) : Json :=
  .object (m.entries.map fun e => (intText e.1, .ofNat e.2))

def LineCost.toJson (c : LineCost) : Json :=
  .object [("line", .ofInt c.line), ("cost", .ofNat c.cost)]

def Profile.toJson (p : Profile) : Json :=
  .object
    [("totalCost", .ofNat p.totalCost),
     ("costByLine", lineCostsToJson p.costByLine),
     ("opcodeCounts", .object (p.opcodeCounts.entries.map fun e => (e.1, .ofNat e.2))),
     ("topLines", .array (p.topLines.map LineCost.toJson)),
     ("mappedSteps", .ofNat p.mappedSteps), ("unmappedSteps", .ofNat p.unmappedSteps)]

end GasLens
