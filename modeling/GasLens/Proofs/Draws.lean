/-
  GasLens/Proofs/Draws.lean
  =========================
  **What random draws can give** — properties that hold of a drawn value whatever the words of
  the source are.

  A draw that ends without a value promises nothing, so every property here is one of the values
  that a draw does give, from any source and from any position in it.
-/
import GasLens.Random

namespace GasLens.Random

/-- Every value that a draw can give has a property. -/
def Draw.Gives {α : Type} (d : Draw α) (P : α → Prop) : Prop :=
  ∀ (source : WordSource) (position : Nat) (a : α) (next : Nat),
    d source position = some (a, next) → P a

variable {α β : Type}

theorem gives_any (d : Draw α) : d.Gives fun _ => True := by
  intro source position a next _
  trivial

theorem gives_imp {d : Draw α} {P Q : α → Prop} (hd : d.Gives P) (h : ∀ a, P a → Q a) :
    d.Gives Q := by
  intro source position a next hdraw
  exact h a (hd source position a next hdraw)

theorem gives_pure {P : α → Prop} {a : α} (h : P a) : Draw.Gives (pure a) P := by
  intro source position b next hdraw
  change some (a, position) = some (b, next) at hdraw
  cases hdraw
  exact h

theorem gives_bind {d : Draw α} {f : α → Draw β} {P : α → Prop} {Q : β → Prop} (hd : d.Gives P)
    (hf : ∀ a, P a → (f a).Gives Q) : Draw.Gives (d >>= f) Q := by
  intro source position b next hdraw
  change Draw.bind d f source position = some (b, next) at hdraw
  rw [Draw.bind] at hdraw
  split at hdraw
  · rename_i a middle hfirst
    exact hf a (hd source position a middle hfirst) source middle b next hdraw
  · exact absurd hdraw nofun

theorem gives_map {d : Draw α} {f : α → β} {P : α → Prop} {Q : β → Prop} (hd : d.Gives P)
    (hf : ∀ a, P a → Q (f a)) : Draw.Gives (do return f (← d)) Q :=
  gives_bind hd fun a ha => gives_pure (hf a ha)

/-! ### Laws -/

theorem id_map_draw (d : Draw α) : id <$> d = d := by
  funext source position
  change Draw.bind d (fun a => Draw.pure (id a)) source position = d source position
  rw [Draw.bind]
  cases d source position <;> rfl

theorem pure_bind_draw (a : α) (f : α → Draw β) : (pure a : Draw α) >>= f = f a := rfl

theorem bind_assoc_draw {γ : Type} (d : Draw α) (f : α → Draw β) (g : β → Draw γ) :
    d >>= f >>= g = d >>= fun a => f a >>= g := by
  funext source position
  change Draw.bind (Draw.bind d f) g source position =
    Draw.bind d (fun a => Draw.bind (f a) g) source position
  rw [Draw.bind, Draw.bind, Draw.bind]
  cases d source position <;> rfl

instance : LawfulMonad Draw := LawfulMonad.mk' Draw id_map_draw pure_bind_draw bind_assoc_draw

theorem bind_apply (d : Draw α) (f : α → Draw β) (source : WordSource) (position : Nat) :
    (d >>= f) source position = (d source position).bind fun r => f r.1 source r.2 := by
  change Draw.bind d f source position = _
  rw [Draw.bind]
  cases d source position <;> rfl

/-- A value that is changed after it was drawn takes the same words. -/
theorem map_apply (f : α → β) (d : Draw α) (source : WordSource) (position : Nat) :
    (f <$> d) source position = (d source position).map fun r => (f r.1, r.2) := by
  change Draw.bind d (fun a => Draw.pure (f a)) source position = _
  rw [Draw.bind]
  cases d source position <;> rfl

/-! ### Numbers -/

theorem nextHalf_lt : nextHalf.Gives (· < 2 ^ 32) :=
  gives_map (gives_any nextWord) fun _ _ => Nat.mod_lt _ (by decide)

theorem nextOf_lt (width : Width) : (nextOf width).Gives (· < 2 ^ width.bits) := by
  cases width with
  | half => exact nextHalf_lt
  | whole => exact gives_map (gives_any nextWord) fun w _ => w.toNat_lt
  | double =>
    refine gives_bind (gives_any nextWord) fun low _ => ?_
    refine gives_map (gives_any nextWord) fun high _ => ?_
    have hlow := low.toNat_lt
    have hhigh := high.toNat_lt
    show low.toNat + high.toNat * 2 ^ 64 < 2 ^ 128
    omega

theorem belowWithin_lt (width : Width) {bound : Nat} (hpos : 0 < bound) (tries : Nat) :
    (belowWithin width bound tries).Gives (· < bound) := by
  induction tries with
  | zero =>
    intro source position a next hdraw
    exact absurd hdraw nofun
  | succ tries ih =>
    refine gives_bind (nextOf_lt width) fun n hn => ?_
    dsimp only
    split
    · refine gives_pure ?_
      exact Nat.div_lt_of_lt_mul (Nat.mul_lt_mul_of_pos_right hn hpos)
    · exact ih

theorem below_lt (width : Width) {bound : Nat} (hpos : 0 < bound) :
    (below width bound).Gives (· < bound) := by
  intro source position a next hdraw
  exact belowWithin_lt width hpos _ source position a next hdraw

/-! ### Lists -/

/-- The same draw a number of times gives that many values, each of which has the property. -/
theorem drawMany_all {d : Draw α} {P : α → Prop} (h : d.Gives P) (n : Nat) :
    (drawMany d n).Gives fun as => as.length = n ∧ ∀ a ∈ as, P a := by
  induction n with
  | zero => exact gives_pure ⟨rfl, nofun⟩
  | succ n ih =>
    refine gives_bind h fun a ha => ?_
    refine gives_map ih fun as has => ⟨congrArg Nat.succ has.1, ?_⟩
    intro b hb
    rcases List.mem_cons.mp hb with rfl | hb
    · exact ha
    · exact has.2 b hb

end GasLens.Random
