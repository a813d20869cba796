/-
  GasLens/Proofs/FairWords.lean
  =============================
  **Fair streams of words** — streams on which every draw of a campaign has an end.

  A number below a bound is drawn again while the words are refused, so a stream that is refused
  for ever leaves a draw without an end. It takes a rare stream for that: at least half of all
  words are accepted for any bound. `Fair` says of a stream that wherever a draw begins it is not
  refused for ever, and knows of no particular draw. A list of words with zeros behind it is fair.
-/
import GasLens.Proofs.Patience

namespace GasLens.Random

/-- The number of words that a number of a width takes. -/
def Width.words : Width → Nat
  | .half | .whole => 1
  | .double => 2

/-- The number of a width whose words begin at a position. -/
def numberAt (word : Nat → UInt64) : Width → Nat → Nat
  | .half, position => (word position).toNat % 2 ^ 32
  | .whole, position => (word position).toNat
  | .double, position => (word position).toNat + (word (position + 1)).toNat * 2 ^ 64

/-- A number is not refused for a bound. -/
def Width.Accepts (width : Width) (bound n : Nat) : Prop :=
  n * bound % 2 ^ width.bits ≤ acceptZone width bound

instance (width : Width) (bound n : Nat) : Decidable (width.Accepts bound n) :=
  inferInstanceAs (Decidable (_ ≤ _))

/-- From every position on, the numbers of a stream are not refused for ever. -/
def Fair (word : Nat → UInt64) : Prop :=
  ∀ (width : Width) (bound position : Nat),
    ∃ k, width.Accepts bound (numberAt word width (position + k * width.words))

/-- Zero is never refused. -/
theorem Width.accepts_zero (width : Width) (bound : Nat) : width.Accepts bound 0 := by
  rw [Accepts, Nat.zero_mul, Nat.zero_mod]
  exact Nat.zero_le _

theorem fair_of_zeros {word : Nat → UInt64} {n : Nat} (h : ∀ i, n ≤ i → word i = 0) :
    Fair word := by
  intro width bound position
  refine ⟨n, ?_⟩
  have hpos : n ≤ position + n * width.words := by
    have hwords : 1 ≤ width.words := by cases width <;> decide
    exact Nat.le_trans (Nat.le_mul_of_pos_right n hwords) (Nat.le_add_left _ _)
  have hzero : numberAt word width (position + n * width.words) = 0 := by
    generalize position + n * width.words = first at hpos
    cases width <;> simp [numberAt, h first hpos, h (first + 1) (Nat.le_succ_of_le hpos)]
  rw [hzero]
  exact width.accepts_zero bound

theorem fair_ofList (words : List UInt64) : Fair (WordSource.ofList words).word := by
  refine fair_of_zeros (n := words.length) fun i hi => ?_
  simp [WordSource.ofList, List.getElem?_eq_none hi]

/-! ### Draws that end -/

variable {α β : Type} {word : Nat → UInt64}

/-- A draw settles on a value wherever in the stream it begins. -/
def Draw.Ends (d : Draw α) (word : Nat → UInt64) : Prop :=
  ∀ position, ∃ r, d.Settles word position r

theorem ends_pure (a : α) : (pure a : Draw α).Ends word := fun _ => ⟨_, 0, fun _ _ => rfl⟩

theorem ends_nextWord : nextWord.Ends word :=
  fun position => ⟨(word position, position + 1), 0, fun _ _ => rfl⟩

theorem ends_bind {d : Draw α} {f : α → Draw β} (hd : d.Ends word)
    (hf : ∀ a, (f a).Ends word) : (d >>= f).Ends word := by
  intro position
  obtain ⟨⟨a, middle⟩, enough, hfirst⟩ := hd position
  obtain ⟨r, enough', hrest⟩ := hf a middle
  refine ⟨r, max enough enough', fun patience hpatience => ?_⟩
  rw [bind_apply, hfirst patience (Nat.le_trans (Nat.le_max_left _ _) hpatience)]
  exact hrest patience (Nat.le_trans (Nat.le_max_right _ _) hpatience)

theorem nextOf_apply (width : Width) (source : WordSource) (position : Nat) :
    nextOf width source position =
      some (numberAt source.word width position, position + width.words) := by
  cases width <;> rfl

theorem belowWithin_succ_eq (width : Width) (bound tries patience position : Nat) :
    belowWithin width bound (tries + 1) ⟨word, patience⟩ position =
      if width.Accepts bound (numberAt word width position) then
        some (numberAt word width position * bound / 2 ^ width.bits, position + width.words)
      else belowWithin width bound tries ⟨word, patience⟩ (position + width.words) := by
  rw [belowWithin_succ_apply, nextOf_apply, Option.bind_some]
  rfl

/-- A number that is not refused behind so many others is drawn with one more try. -/
theorem exists_belowWithin_of_accepts {width : Width} {bound k position : Nat}
    (h : width.Accepts bound (numberAt word width (position + k * width.words))) :
    ∃ r, ∀ tries patience,
      belowWithin width bound (k + tries + 1) ⟨word, patience⟩ position = some r := by
  induction k generalizing position with
  | zero =>
    rw [Nat.zero_mul, Nat.add_zero] at h
    exact ⟨_, fun tries patience => (belowWithin_succ_eq ..).trans (if_pos h)⟩
  | succ k ih =>
    by_cases hfirst : width.Accepts bound (numberAt word width position)
    · exact ⟨_, fun tries patience => (belowWithin_succ_eq ..).trans (if_pos hfirst)⟩
    · rw [Nat.succ_mul, Nat.add_comm (k * _), ← Nat.add_assoc] at h
      obtain ⟨r, hr⟩ := ih h
      refine ⟨r, fun tries patience => ?_⟩
      rw [Nat.succ_add, belowWithin_succ_eq, if_neg hfirst]
      exact hr tries patience

theorem ends_below (hword : Fair word) (width : Width) (bound : Nat) :
    (below width bound).Ends word := by
  intro position
  obtain ⟨k, haccepted⟩ := hword width bound position
  obtain ⟨r, hr⟩ := exists_belowWithin_of_accepts haccepted
  refine ⟨r, k, fun patience hpatience => ?_⟩
  obtain ⟨tries, rfl⟩ := Nat.exists_eq_add_of_le hpatience
  exact hr tries _

/-- **On a fair stream every draw has an end.** -/
theorem Draw.Built.ends {d : Draw α} (h : d.Built) (hword : Fair word) : d.Ends word := by
  induction h with
  | pure a => exact ends_pure a
  | bind _ _ hd hf => exact ends_bind hd hf
  | word => exact ends_nextWord
  | number width bound => exact ends_below hword width bound

end GasLens.Random
