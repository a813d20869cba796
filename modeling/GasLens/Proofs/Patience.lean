/-
  GasLens/Proofs/Patience.lean
  ============================
  **Patience decides nothing** — how many words in a row may be refused bounds a draw, and is no
  part of its value.

  A draw that has an end with some patience has the same end with any more (`Draw.Steady`). So a
  stream of words alone says how a draw ends: it settles on a value, with the patience that is
  enough and with any more (`Draw.Settles`), or it has no end. All draws of a campaign are steady.
-/
import GasLens.Proofs.BuiltDraws

namespace GasLens.Random

variable {α β : Type}

/-- The end of a draw, if it has one, stays the same with more patience. -/
def Draw.Steady (d : Draw α) : Prop :=
  ∀ ⦃word : Nat → UInt64⦄ ⦃patience more position : Nat⦄ ⦃r : α × Nat⦄, patience ≤ more →
    d ⟨word, patience⟩ position = some r → d ⟨word, more⟩ position = some r

/-- With enough patience a draw from a stream of words ends with a value and a position. -/
def Draw.Settles (d : Draw α) (word : Nat → UInt64) (position : Nat) (r : α × Nat) : Prop :=
  ∃ enough, ∀ patience, enough ≤ patience → d ⟨word, patience⟩ position = some r

theorem Draw.Steady.settles {d : Draw α} (hd : d.Steady) {word : Nat → UInt64}
    {patience position : Nat} {r : α × Nat} (h : d ⟨word, patience⟩ position = some r) :
    d.Settles word position r :=
  ⟨patience, fun _ hmore => hd hmore h⟩

theorem Draw.Settles.unique {d : Draw α} {word : Nat → UInt64} {position : Nat} {r r' : α × Nat}
    (h : d.Settles word position r) (h' : d.Settles word position r') : r = r' := by
  obtain ⟨enough, hr⟩ := h
  obtain ⟨enough', hr'⟩ := h'
  have hboth := hr (max enough enough') (Nat.le_max_left _ _)
  rw [hr' _ (Nat.le_max_right _ _)] at hboth
  exact (Option.some.inj hboth).symm

/-! ### Steady draws -/

theorem steady_pure (a : α) : (pure a : Draw α).Steady := by
  intro word patience more position r _ h
  exact h

theorem steady_bind {d : Draw α} {f : α → Draw β} (hd : d.Steady) (hf : ∀ a, (f a).Steady) :
    (d >>= f).Steady := by
  intro word patience more position r hmore h
  rw [bind_apply] at h ⊢
  obtain ⟨first, hfirst, hrest⟩ := Option.bind_eq_some_iff.mp h
  rw [hd hmore hfirst]
  exact hf first.1 hmore hrest

theorem steady_map {d : Draw α} (hd : d.Steady) (f : α → β) :
    Draw.Steady (do return f (← d)) :=
  steady_bind hd fun a => steady_pure (f a)

theorem steady_nextWord : nextWord.Steady := by
  intro word patience more position r _ h
  exact h

theorem steady_nextOf (width : Width) : (nextOf width).Steady := by
  cases width with
  | half => exact steady_map steady_nextWord _
  | whole => exact steady_map steady_nextWord _
  | double => exact steady_bind steady_nextWord fun low => steady_map steady_nextWord _

theorem steady_belowWithin (width : Width) (bound tries : Nat) :
    (belowWithin width bound tries).Steady := by
  induction tries with
  | zero =>
    intro word patience more position r _ h
    exact absurd h nofun
  | succ tries ih =>
    refine steady_bind (steady_nextOf width) fun n => ?_
    dsimp only
    split
    · exact steady_pure _
    · exact ih

/-- A product is accepted, or the next word decides with one try less. -/
theorem belowWithin_succ_apply (width : Width) (bound tries : Nat) (source : WordSource)
    (position : Nat) : belowWithin width bound (tries + 1) source position =
      (nextOf width source position).bind fun n =>
        if n.1 * bound % 2 ^ width.bits ≤ acceptZone width bound then
          some (n.1 * bound / 2 ^ width.bits, n.2)
        else belowWithin width bound tries source n.2 := by
  rw [belowWithin, bind_apply]
  refine Option.bind_congr fun n _ => ?_
  by_cases haccepted : n.1 * bound % 2 ^ width.bits ≤ acceptZone width bound
  · rw [if_pos haccepted, if_pos haccepted]
    rfl
  · rw [if_neg haccepted, if_neg haccepted]

/-- A number that is accepted within a number of tries is the one accepted within more. -/
theorem belowWithin_of_le (width : Width) (bound : Nat) {tries more : Nat} (hmore : tries ≤ more)
    {source : WordSource} {position : Nat} {r : Nat × Nat}
    (h : belowWithin width bound tries source position = some r) :
    belowWithin width bound more source position = some r := by
  -- the words before the accepted one are refused with either number of tries
  induction tries generalizing more position with
  | zero => exact absurd h nofun
  | succ tries ih =>
    obtain ⟨more, rfl⟩ : ∃ m, more = m + 1 := ⟨more - 1, by omega⟩
    rw [belowWithin_succ_apply] at h ⊢
    obtain ⟨n, hn, hrest⟩ := Option.bind_eq_some_iff.mp h
    rw [hn, Option.bind_some]
    split at hrest
    next haccepted => rwa [if_pos haccepted]
    next hrefused =>
      rw [if_neg hrefused]
      exact ih (Nat.le_of_succ_le_succ hmore) hrest

theorem steady_below (width : Width) (bound : Nat) : (below width bound).Steady := by
  intro word patience more position r hmore h
  have hwithin := steady_belowWithin width bound (patience + 1) hmore h
  exact belowWithin_of_le width bound (Nat.succ_le_succ hmore) hwithin

/-- **Patience decides nothing** about a draw that has an end. -/
theorem Draw.Built.steady {d : Draw α} (h : d.Built) : d.Steady := by
  induction h with
  | pure a => exact steady_pure a
  | bind _ _ hd hf => exact steady_bind hd hf
  | word => exact steady_nextWord
  | number width bound => exact steady_below width bound

end GasLens.Random
