/-
  GasLens/Campaign/Call.lean
  ==========================
  **Planned calls** — one random call of a function, drawn just before it is made.

  The arguments are drawn first and the payment after them. Both depend on the function, the
  account and the stream of random words alone.
-/
import GasLens.Abi.Draw

namespace GasLens

open GasLens.Abi GasLens.Random

inductive PlannedCall where
  /-- The bytes of the call and the money that goes with it. -/
  | call (calldata : List UInt8) (payment : Nat)
  /-- The arguments do not fit the function. -/
  | unencodable (fault : Fault)
  deriving DecidableEq, Repr

/-- A random payment for a function that accepts money, and nothing for any other. -/
def drawPaymentFor (f : Function) : Draw Nat :=
  if f.isPayable then drawPayment else return 0

/-- A random call of a function: the arguments first, then the payment. -/
def drawPlannedCall (f : Function) (caller : List UInt8) : Draw PlannedCall := do
  let arguments ← drawCall f caller
  match encodeCall f arguments with
  | .error fault => return .unencodable fault
  | .ok calldata => return .call calldata (← drawPaymentFor f)

end GasLens
