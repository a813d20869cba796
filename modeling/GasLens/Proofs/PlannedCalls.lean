/-
  GasLens/Proofs/PlannedCalls.lean
  ================================
  **Every planned call can be made** — the arguments of a planned call fit its function, whatever
  the types of the inputs and the random words are.

  As many arguments are drawn as there are inputs, so the calldata exists and begins with the
  selector, and the payment is one that the function accepts. That holds of each call of a plan.
-/
import GasLens.Proofs.DrawnAhead
import GasLens.Proofs.DrawnCalls

namespace GasLens

open GasLens.Abi GasLens.Random

namespace Abi

theorem drawArguments_length (caller : List UInt8) (ts : List ParamType) :
    (drawArguments caller ts).Gives fun as => as.length = ts.length := by
  induction ts with
  | nil => exact gives_pure rfl
  | cons t ts ih =>
    refine gives_bind (gives_any _) fun a _ => ?_
    exact gives_map ih fun as has => congrArg Nat.succ has

theorem redrawFirst_length (ts : List ParamType) (as : List Argument) :
    (redrawFirst ts as).Gives fun bs => bs.length = as.length := by
  fun_cases redrawFirst ts as with
  | case1 bits ts a as => exact gives_map (gives_any _) fun b _ => rfl
  | case2 => exact gives_pure rfl

/-- One argument is drawn for each input. -/
theorem drawCall_length (f : Function) (caller : List UInt8) :
    (drawCall f caller).Gives fun as => as.length = f.inputs.length := by
  have htypes : f.inputTypes.length = f.inputs.length := List.length_map _
  refine gives_bind (drawArguments_length caller f.inputTypes) fun as has => ?_
  split
  · exact gives_imp (redrawFirst_length f.inputTypes as) fun bs hbs => (hbs.trans has).trans htypes
  · exact gives_pure (has.trans htypes)

end Abi

/-- An amount that may be sent along with a call of a function. -/
def FitsPayment (f : Function) (payment : Nat) : Prop :=
  (f.isPayable = false → payment = 0) ∧ 10 ^ 14 ∣ payment ∧ payment ≤ 10 ^ 18

theorem drawPayment_fits : drawPayment.Gives fun payment =>
    10 ^ 14 ∣ payment ∧ payment ≤ 10 ^ 18 := by
  refine gives_map (below_lt .double (by decide)) fun steps hsteps => ⟨?_, ?_⟩
  · exact Nat.dvd_mul_left _ _
  · have hsteps : steps ≤ 10000 := Nat.le_of_lt_succ hsteps
    exact Nat.mul_le_mul_right paymentStep hsteps

theorem drawPaymentFor_fits (f : Function) : (drawPaymentFor f).Gives (FitsPayment f) := by
  rw [drawPaymentFor]
  split
  · rename_i hpayable
    have hnot : ¬ f.isPayable = false := by simp [hpayable]
    exact gives_imp drawPayment_fits fun payment hpayment => ⟨fun h => absurd h hnot, hpayment⟩
  · exact gives_pure ⟨fun _ => rfl, Nat.dvd_zero _, Nat.zero_le _⟩

/-- A planned call is one of the function, and its arguments and its payment fit. -/
def PlannedCall.Fits (f : Function) (call : PlannedCall) : Prop :=
  ∃ calldata payment, call = .call calldata payment ∧ f.selector <+: calldata ∧
    FitsPayment f payment

theorem drawPlannedCall_fits (f : Function) (caller : List UInt8) :
    (drawPlannedCall f caller).Gives (PlannedCall.Fits f) := by
  refine gives_bind (drawCall_length f caller) fun as has => ?_
  rw [encodeCall_eq has]
  refine gives_map (drawPaymentFor_fits f) fun payment hpayment => ?_
  exact ⟨_, payment, rfl, List.prefix_append _ _, hpayment⟩

/-- A plan holds the functions in order, each with the number of calls asked for, and every call
can be made. -/
theorem drawPlan_fits (caller : List UInt8) (runs : Nat) (fs : List Function) :
    (drawPlan caller runs fs).Gives fun plans => plans.map FunctionPlan.function = fs ∧
      ∀ plan ∈ plans, plan.calls.length = runs ∧
        ∀ call ∈ plan.calls, call.Fits plan.function := by
  induction fs with
  | nil => exact gives_pure ⟨rfl, nofun⟩
  | cons f fs ih =>
    refine gives_bind (drawMany_all (drawPlannedCall_fits f caller) runs) fun calls hcalls => ?_
    refine gives_map ih fun plans hplans => ⟨?_, ?_⟩
    · rw [List.map_cons, hplans.1]
    · exact List.forall_mem_cons.mpr ⟨hcalls, hplans.2⟩

end GasLens
