/-
  GasLens/Proofs/BuiltDraws.lean
  ==============================
  **What draws are made of** — every draw of a campaign takes single words, and numbers below a
  bound, one after another.

  Whatever holds of these two and stays when draws are put in a row holds of all draws of a
  campaign, by induction on `Draw.Built`. A number below a bound is the only draw whose length is
  not known beforehand.
-/
import GasLens.Proofs.PlannedCalls

namespace GasLens.Random

/-- Draws that are put together from words and numbers below a bound. -/
inductive Draw.Built : {α : Type} → Draw α → Prop where
  | pure {α : Type} (a : α) : Built (pure a)
  | bind {α β : Type} {d : Draw α} {f : α → Draw β} :
      Built d → (∀ a, Built (f a)) → Built (d >>= f)
  | word : Built nextWord
  | number (width : Width) (bound : Nat) : Built (below width bound)

variable {α β : Type}

theorem Draw.Built.map {d : Draw α} (hd : d.Built) (f : α → β) :
    Draw.Built (do return f (← d)) :=
  hd.bind fun a => .pure (f a)

theorem built_nextByte : nextByte.Built := (Draw.Built.word.map _).map _

theorem built_drawMany {d : Draw α} (hd : d.Built) (n : Nat) : (drawMany d n).Built := by
  induction n with
  | zero => exact .pure []
  | succ n ih => exact hd.bind fun a => ih.map _

end GasLens.Random

namespace GasLens.Abi

open GasLens.Random

theorem built_drawText : drawText.Built :=
  (built_drawMany ((Draw.Built.number _ _).map _) _).map _

theorem built_drawArgument (caller : List UInt8) (t : ParamType) :
    (drawArgument caller t).Built := by
  fun_induction drawArgument caller t with
  | case1 bits => exact (Draw.Built.number _ _).map _
  | case2 bits => exact (Draw.Built.number _ _).map _
  | case3 => exact .pure _
  | case4 => exact (Draw.Built.word.map _).map _
  | case5 n => exact ((built_drawMany built_nextByte _).map _).map _
  | case6 => exact (built_drawMany built_nextByte _).map _
  | case7 => exact built_drawText.map _
  | case8 t ih => exact (Draw.Built.number _ _).bind fun length => (built_drawMany ih length).map _
  | case9 t => exact .pure _

theorem built_drawArguments (caller : List UInt8) (ts : List ParamType) :
    (drawArguments caller ts).Built := by
  induction ts with
  | nil => exact .pure []
  | cons t ts ih => exact (built_drawArgument caller t).bind fun a => ih.map _

theorem built_drawCall (f : Function) (caller : List UInt8) : (drawCall f caller).Built := by
  refine (built_drawArguments caller f.inputTypes).bind fun as => ?_
  split
  · fun_cases redrawFirst f.inputTypes as with
    | case1 => exact ((Draw.Built.number _ _).map _).map _
    | case2 => exact .pure _
  · exact .pure _

end GasLens.Abi

namespace GasLens

open GasLens.Abi GasLens.Random GasLens.Source

theorem built_drawPlannedCall (f : Function) (caller : List UInt8) :
    (drawPlannedCall f caller).Built := by
  refine (built_drawCall f caller).bind fun as => ?_
  split
  · exact .pure _
  · refine Draw.Built.map ?_ _
    rw [drawPaymentFor]
    split
    · exact (Draw.Built.number _ _).map _
    · exact .pure 0

theorem built_drawPlan (caller : List UInt8) (runs : Nat) (fs : List Function) :
    (drawPlan caller runs fs).Built := by
  induction fs with
  | nil => exact .pure []
  | cons f fs ih =>
    exact (built_drawMany (built_drawPlannedCall f caller) runs).bind fun calls => ih.map _

namespace Campaign

variable {World : Type} (c : Campaign World) (target : Deployment) (map : PcLineMap)

theorem built_iterate (f : Function) (left iteration : Nat) (r : FunctionReport)
    (s : Session World) : (c.iterate target map f left iteration r s).Built := by
  induction left generalizing iteration r s with
  | zero => exact .pure _
  | succ left ih =>
    refine (built_drawPlannedCall f target.caller).bind fun call => ?_
    dsimp only
    split
    · exact .pure _
    · exact ih _ _ _

theorem built_runFunction (f : Function) (s : Session World) :
    (c.runFunction target map f s).Built :=
  (c.built_iterate target map f _ _ _ s).map _

theorem built_runFunctions (fs : List Function) (s : Session World) :
    (c.runFunctions target map fs s).Built := by
  induction fs generalizing s with
  | nil => exact .pure _
  | cons f fs ih =>
    refine (c.built_runFunction target map f s).bind fun first => ?_
    split
    · exact .pure _
    · exact (ih _).map _

theorem built_run (contract : CompiledContract) (s : Session World) :
    (c.run contract s).Built := by
  rw [run]
  split
  · exact .pure _
  split
  · exact .pure _
  dsimp only
  split
  · exact .pure _
  · exact (c.built_runFunctions _ _ _ _).map _

end Campaign

end GasLens
