/-
  GasLens/Proofs/ConfigOverrides.lean
  ===================================
  **One configuration put over another** — an associative operation with the built-in
  configuration as its neutral element.

  Options without a value, options with a built-in value and switches are merged by different
  rules. All of them are one rule (`overridden`): a value that differs from the built-in one
  overrides, and one that equals it says nothing. The laws are proved for that rule once. A
  configuration is what it holds at its places (`eq_of_held_eq`), so they hold of whole
  configurations, and an option that merging forgot would break them.
-/
import GasLens.Proofs.SettingsOrder

namespace GasLens.Config

/-! ### One value -/

section Values

variable {α : Type} [DecidableEq α] (silent a b c : α)

theorem overridden_of_silent : overridden silent silent a = a := by
  unfold overridden
  split
  · next h => exact h.symm
  · rfl

theorem overridden_silent : overridden silent a silent = a := if_pos rfl

theorem overridden_assoc :
    overridden silent (overridden silent a b) c = overridden silent a (overridden silent b c) := by
  unfold overridden
  by_cases hc : c = silent
  · rw [if_pos hc, if_pos hc]
  · rw [if_neg hc, if_neg hc, if_neg hc]

theorem overridden_self : overridden silent a a = a := by
  unfold overridden
  split <;> rfl

theorem or_eq_overridden (x y : Option α) : y.or x = overridden none x y := by
  cases y with
  | none => rfl
  | some b => exact (if_neg (Option.some_ne_none b)).symm

theorem bor_eq_overridden (x y : Bool) : (x || y) = overridden false x y := by
  cases x <;> cases y <;> rfl

end Values

/-! ### The places of a configuration -/

/-- Where a configuration holds what it was told: the settings, and what only arguments say. -/
inductive Place where
  | setting (o : Setting)
  | file | compileOnly | profileTransaction | fromReport
  deriving DecidableEq, Repr

instance Setting.decidableEqHeld : (o : Setting) → DecidableEq o.Held
  | source | contract | jsonOutput | reportOutput => inferInstanceAs (DecidableEq (Option String))
  | seed => inferInstanceAs (DecidableEq (Option Nat))
  | rpcUrl | receiptTimeout | settleDelay | pendingDelay | retryDelay | compiler =>
    inferInstanceAs (DecidableEq String)
  | gasLimit | runs | traceAttempts | optimizerRuns | verbosity =>
    inferInstanceAs (DecidableEq Nat)
  | optimize | inheritFields | printSteps | logJson | noStatus => inferInstanceAs (DecidableEq Bool)

def Place.Held : Place → Type
  | setting o => o.Held
  | file | profileTransaction | fromReport => Option String
  | compileOnly => Bool

instance Place.decidableEqHeld : (p : Place) → DecidableEq p.Held
  | setting o => inferInstanceAs (DecidableEq o.Held)
  | file | profileTransaction | fromReport => inferInstanceAs (DecidableEq (Option String))
  | compileOnly => inferInstanceAs (DecidableEq Bool)

def held (c : Config) : (p : Place) → p.Held
  | .setting o => c.get o
  | .file => c.file
  | .compileOnly => c.compileOnly
  | .profileTransaction => c.profileTransaction
  | .fromReport => c.fromReport

/-- The places that are on or off. -/
inductive OnOff where
  | optimize | inheritFields | compileOnly | printSteps | logJson | noStatus
  deriving DecidableEq, Repr

def isOn (c : Config) : OnOff → Bool
  | .optimize => c.optimize
  | .inheritFields => c.inheritFields
  | .compileOnly => c.compileOnly
  | .printSteps => c.printSteps
  | .logJson => c.logJson
  | .noStatus => c.noStatus

section Merging

variable {a b c d : Config}

theorem eq_of_held_eq (h : ∀ p, a.held p = b.held p) : a = b := by
  apply eq_of_get_eq
  · intro o
    exact h (.setting o)
  · simp only [elsewhere, Prod.mk.injEq]
    exact ⟨h .file, h .compileOnly, h .profileTransaction, h .fromReport⟩

theorem get_merge (a b : Config) (o : Setting) :
    (a.merge b).get o = overridden (builtIn.get o) (a.get o) (b.get o) := by
  cases o
  case source | contract | seed | jsonOutput | reportOutput => exact or_eq_overridden _ _
  case optimize | inheritFields | printSteps | logJson | noStatus => exact bor_eq_overridden _ _
  all_goals rfl

/-- Merging overrides at every place. -/
theorem held_merge (a b : Config) (p : Place) :
    (a.merge b).held p = overridden (builtIn.held p) (a.held p) (b.held p) := by
  cases p with
  | setting o => exact get_merge a b o
  | compileOnly => exact bor_eq_overridden _ _
  | file | profileTransaction | fromReport => exact or_eq_overridden _ _

theorem merge_of_builtIn (c : Config) : builtIn.merge c = c := by
  apply eq_of_held_eq
  intro p
  rw [held_merge, overridden_of_silent]

theorem merge_builtIn (a : Config) : a.merge builtIn = a := by
  apply eq_of_held_eq
  intro p
  rw [held_merge, overridden_silent]

theorem merge_assoc (a b c : Config) : (a.merge b).merge c = a.merge (b.merge c) := by
  apply eq_of_held_eq
  intro p
  simp only [held_merge, overridden_assoc]

theorem merge_self (b : Config) : b.merge b = b := by
  apply eq_of_held_eq
  intro p
  rw [held_merge, overridden_self]

theorem eq_merge_iff :
    d = a.merge b ↔
      ∀ p, d.held p = if b.held p = builtIn.held p then a.held p else b.held p := by
  constructor
  · rintro rfl p
    exact held_merge a b p
  · intro h
    apply eq_of_held_eq
    intro p
    rw [h, held_merge, overridden]

theorem isOn_merge (a b : Config) (w : OnOff) : (a.merge b).isOn w = (a.isOn w || b.isOn w) := by
  cases w <;> rfl

end Merging

/-- **Overriding is a monoid, and forgets no option.** The built-in configuration is neutral on
both sides, three configurations may be put together from either end, and putting one over another
twice is the same as once. The result is the one configuration that holds, at each
place, the later value if it differs from the built-in one and the earlier value otherwise. A
switch is on if it is on in either of them. -/
theorem merge_overrides (a b c : Config) :
    builtIn.merge c = c ∧ a.merge builtIn = a ∧
      (a.merge b).merge c = a.merge (b.merge c) ∧ (a.merge b).merge b = a.merge b ∧
      (∀ d, d = a.merge b ↔
        ∀ p, d.held p = if b.held p = builtIn.held p then a.held p else b.held p) ∧
      ∀ w, (a.merge b).isOn w = (a.isOn w || b.isOn w) := by
  have htwice : (a.merge b).merge b = a.merge b := by rw [merge_assoc, merge_self]
  exact ⟨merge_of_builtIn c, merge_builtIn a, merge_assoc a b c, htwice, fun _ => eq_merge_iff,
    isOn_merge a b⟩

end GasLens.Config
