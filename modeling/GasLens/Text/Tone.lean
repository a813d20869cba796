/-
  GasLens/Text/Tone.lean
  ======================
  **Tones** — how a message to the user is coloured.
-/
import GasLens.Text.Style

namespace GasLens.Text

/-- What a message is about. -/
inductive Tone where
  | success | failure | warning | info | plain
  deriving DecidableEq, Repr

def Tone.style : Tone → Style
  | .success => .tinted .green
  | .failure => ⟨some .red, [.bold]⟩
  | .warning => .tinted .yellow
  | .info => .tinted .cyan
  | .plain => .plain

def styled (color : Bool) (tone : Tone) (message : String) : String :=
  dress color tone.style message

end GasLens.Text
