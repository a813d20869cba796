/-
  GasLens/Proofs/DelayTexts.lean
  ==============================
  **Which texts are delays** — the texts that are read, and how many milliseconds they are.

  A delay is an amount, and perhaps a unit with white space between the two. The signs of the units
  overlap: the text of a delay in milliseconds also ends with the sign of seconds. But no amount
  ends with a letter, so the unit that closes a text decides which form it has
  (`isDelay_iff_of_eq_some`, `isDelay_iff_of_eq_none`), and a text is a delay in one way only.

  The milliseconds are held in a word of 64 bits. Of a number of units that fits a word while its
  milliseconds do not, nothing is read: it is neither a delay nor a fault (`readDelay_stops`).
-/
import GasLens.Config.Delay
import GasLens.Proofs.CheckedSums
import GasLens.Proofs.Numerals
import GasLens.Proofs.Readings
import GasLens.Proofs.TrimmedTexts
import Mathlib.Data.List.Basic

namespace GasLens.Config

open GasLens.Text

/-! ### Texts of delays -/

/-- The sign of a unit, and the milliseconds of one. -/
inductive IsUnit : List Char → Nat → Prop
  | milliseconds : IsUnit ['m', 's'] 1
  | seconds : IsUnit ['s'] 1000
  | minutes : IsUnit ['m'] 60000
  | hours : IsUnit ['h'] 3600000

/-- A text of decimal digits, which may follow a plus sign. -/
def IsAmount (text : List Char) (n : Nat) : Prop :=
  ∃ digits, (text = digits ∨ text = '+' :: digits) ∧ IsNumeral 10 digits n

/-- A text is a number of units of so many milliseconds each, where an amount alone is in a unit
that is known beforehand. -/
inductive IsDelay (known : Nat) : List Char → Nat → Nat → Prop
  | bare {amount : List Char} {n : Nat} : IsAmount amount n → IsDelay known amount n known
  | withUnit {amount blanks sign : List Char} {n unit : Nat} : IsAmount amount n →
      (∀ c ∈ blanks, isBlank c = true) → IsUnit sign unit →
      IsDelay known (amount ++ blanks ++ sign) n unit

/-- A string is a delay between white space. -/
def Denotes (known : Nat) (s : String) (n unit : Nat) : Prop :=
  ∃ front body back, s.toList = front ++ body ++ back ∧ (∀ c ∈ front, isBlank c = true) ∧
    (∀ c ∈ back, isBlank c = true) ∧ IsDelay known body n unit

theorem isUnit_iff {sign : List Char} {unit : Nat} :
    IsUnit sign unit ↔ ∃ u : TimeUnit, sign = u.sign ∧ unit = u.milliseconds := by
  constructor
  · intro h
    cases h with
    | milliseconds => exact ⟨.millisecond, rfl, rfl⟩
    | seconds => exact ⟨.second, rfl, rfl⟩
    | minutes => exact ⟨.minute, rfl, rfl⟩
    | hours => exact ⟨.hour, rfl, rfl⟩
  · rintro ⟨u, rfl, rfl⟩
    cases u with
    | millisecond => exact .milliseconds
    | second => exact .seconds
    | minute => exact .minutes
    | hour => exact .hours

theorem ofSign?_of_isUnit {sign : String} {unit : Nat} (h : IsUnit sign.toList unit) :
    ∃ u, TimeUnit.ofSign? sign = some u ∧ u.milliseconds = unit := by
  obtain ⟨u, hsign, rfl⟩ := isUnit_iff.1 h
  refine ⟨u, ?_, rfl⟩
  rw [TimeUnit.ofSign?, hsign]
  cases u <;> rfl

/-! ### The ends of amounts -/

theorem isBlank_of_isDigit {c : Char} (h : c.isDigit = true) : isBlank c = false := by
  simp only [Char.isDigit, Bool.and_eq_true, decide_eq_true_eq] at h
  have hlow : 48 ≤ c.toNat := UInt32.le_iff_toNat_le.1 h.1
  have hhigh : c.toNat ≤ 57 := UInt32.le_iff_toNat_le.1 h.2
  simp only [isBlank, inRanges, blankRanges, List.any_cons, List.any_nil, Bool.or_false,
    Bool.or_eq_false_iff, Bool.and_eq_false_iff, decide_eq_false_iff_not]
  omega

section Amounts

variable {text : List Char} {n : Nat}

theorem IsAmount.ne_nil (h : IsAmount text n) : text ≠ [] := by
  obtain ⟨digits, rfl | rfl, hdigits⟩ := h
  · exact hdigits.1
  · exact List.cons_ne_nil _ _

theorem IsAmount.isBlank_of_head? (h : IsAmount text n) {c : Char} (hc : text.head? = some c) :
    isBlank c = false := by
  obtain ⟨digits, rfl | rfl, hdigits⟩ := h
  · exact isBlank_of_isDigit (hdigits.isDigit c (List.mem_of_head? hc))
  · cases hc
    decide

theorem IsAmount.isDigit_of_getLast? (h : IsAmount text n) {c : Char}
    (hc : text.getLast? = some c) : c.isDigit = true := by
  obtain ⟨digits, rfl | rfl, hdigits⟩ := h
  · exact hdigits.isDigit c (List.mem_of_getLast? hc)
  · rw [List.getLast?_cons_of_ne_nil hdigits.1] at hc
    exact hdigits.isDigit c (List.mem_of_getLast? hc)

end Amounts

/-! ### The unit at the end -/

section Closing

variable {what cs front digits : List Char} {u : TimeUnit}

theorem dropClosing?_eq_some_iff : dropClosing? what cs = some front ↔ cs = front ++ what := by
  unfold dropClosing?
  constructor
  · intro h
    split at h
    next hsuffix =>
      obtain ⟨before, rfl⟩ := List.isSuffixOf_iff_suffix.1 hsuffix
      rw [List.length_append, Nat.add_sub_cancel, List.take_left] at h
      rw [Option.some.inj h]
    next => cases h
  · rintro rfl
    rw [if_pos (List.isSuffixOf_iff_suffix.2 ⟨front, rfl⟩), List.length_append,
      Nat.add_sub_cancel, List.take_left]

theorem dropClosing?_eq_none (h : ∀ front, cs ≠ front ++ what) : dropClosing? what cs = none := by
  rw [Option.eq_none_iff_forall_ne_some]
  intro front hfront
  exact h front (dropClosing?_eq_some_iff.1 hfront)

/-- Texts with different last characters do not close one another. -/
theorem dropClosing?_of_getLast?_ne {a b : Char} (hcs : cs.getLast? = some a)
    (hwhat : what.getLast? = some b) (hne : a ≠ b) : dropClosing? what cs = none := by
  apply dropClosing?_eq_none
  rintro front rfl
  rw [List.getLast?_append, hwhat] at hcs
  exact hne (Option.some.inj hcs).symm

theorem eq_append_of_closingUnit? (h : closingUnit? cs = some (u, front)) :
    cs = front ++ u.sign := by
  obtain ⟨v, -, hv⟩ := List.exists_of_findSome?_eq_some h
  obtain ⟨before, hbefore, heq⟩ := Option.map_eq_some_iff.1 hv
  cases heq
  exact dropClosing?_eq_some_iff.1 hbefore

/-- A unit is found at the end, if what precedes it does not complete the sign of another one. -/
theorem closingUnit?_append (u : TimeUnit) (h : ∀ c, front.getLast? = some c → c ≠ 'm') :
    closingUnit? (front ++ u.sign) = some (u, front) := by
  have hself : dropClosing? u.sign (front ++ u.sign) = some front := dropClosing?_eq_some_iff.2 rfl
  have hother : ∀ {v : TimeUnit} {a b : Char}, u.sign = [a] → v.sign.getLast? = some b → a ≠ b →
      dropClosing? v.sign (front ++ u.sign) = none := by
    intro v a b hu hv hne
    rw [hu]
    exact dropClosing?_of_getLast?_ne List.getLast?_concat hv hne
  -- the units that are tried before the one at the end do not close the text
  cases u with
  | millisecond => simp [closingUnit?, TimeUnit.all, hself]
  | second =>
    have hmillisecond : dropClosing? TimeUnit.millisecond.sign (front ++ ['s']) = none := by
      apply dropClosing?_eq_none
      intro before heq
      have hassoc : before ++ ['m', 's'] = before ++ ['m'] ++ ['s'] := by
        rw [List.append_assoc]
        rfl
      have hfront : front = before ++ ['m'] := List.append_cancel_right (heq.trans hassoc)
      rw [hfront] at h
      exact h 'm' List.getLast?_concat rfl
    change closingUnit? (front ++ ['s']) = _
    change dropClosing? TimeUnit.second.sign (front ++ ['s']) = _ at hself
    simp [closingUnit?, TimeUnit.all, hmillisecond, hself]
  | minute =>
    have hmillisecond := hother (v := .millisecond) rfl rfl (by decide)
    have hsecond := hother (v := .second) rfl rfl (by decide)
    simp [closingUnit?, TimeUnit.all, hmillisecond, hsecond, hself]
  | hour =>
    have hmillisecond := hother (v := .millisecond) rfl rfl (by decide)
    have hsecond := hother (v := .second) rfl rfl (by decide)
    have hminute := hother (v := .minute) rfl rfl (by decide)
    simp [closingUnit?, TimeUnit.all, hmillisecond, hsecond, hminute, hself]

theorem closingUnit?_eq_none (h : ∀ c, cs.getLast? = some c → c.isDigit = true) (hne : cs ≠ []) :
    closingUnit? cs = none := by
  obtain ⟨c, hc⟩ := Option.isSome_iff_exists.1 (List.getLast?_isSome.2 hne)
  have hdigit := h c hc
  have hunit : ∀ u : TimeUnit, dropClosing? u.sign cs = none := by
    intro u
    obtain ⟨d, hd, hletter⟩ : ∃ d, u.sign.getLast? = some d ∧ d.isDigit = false := by
      cases u <;> exact ⟨_, rfl, rfl⟩
    refine dropClosing?_of_getLast?_ne hc hd ?_
    rintro rfl
    rw [hdigit] at hletter
    cases hletter
  simp [closingUnit?, hunit]

end Closing

/-! ### The form of a text -/

section Forms

variable {known n unit : Nat} {s : String} {body front : List Char} {u : TimeUnit}

theorem IsUnit.isBlank_of_getLast? {sign : List Char} (h : IsUnit sign unit) {c : Char}
    (hc : sign.getLast? = some c) : isBlank c = false := by
  cases h <;> cases hc <;> decide

theorem IsUnit.pos {sign : List Char} (h : IsUnit sign unit) : 0 < unit := by
  cases h <;> decide

theorem IsUnit.ne_nil {sign : List Char} (h : IsUnit sign unit) : sign ≠ [] := by
  cases h <;> exact List.cons_ne_nil _ _

theorem IsAmount.trim_append {amount blanks : List Char} (h : IsAmount amount n)
    (hblanks : ∀ c ∈ blanks, isBlank c = true) : trim (amount ++ blanks) = amount := by
  refine IsTrimmed.trim_eq ⟨⟨[], blanks, rfl, nofun, hblanks⟩, ?_, ?_⟩
  · exact fun c hc => h.isBlank_of_head? hc
  · exact fun c hc => isBlank_of_isDigit (h.isDigit_of_getLast? hc)

/-- A delay has no white space at its ends. -/
theorem IsDelay.isBlank_of_ends (h : IsDelay known body n unit) :
    (∀ c, body.head? = some c → isBlank c = false) ∧
      ∀ c, body.getLast? = some c → isBlank c = false := by
  cases h with
  | bare hamount =>
    exact ⟨fun c hc => hamount.isBlank_of_head? hc,
      fun c hc => isBlank_of_isDigit (hamount.isDigit_of_getLast? hc)⟩
  | @withUnit amount blanks sign _ _ hamount hblanks hunit =>
    constructor
    · intro c hc
      rw [List.append_assoc, List.head?_append_of_ne_nil _ hamount.ne_nil] at hc
      exact hamount.isBlank_of_head? hc
    · intro c hc
      rw [List.getLast?_append_of_ne_nil _ hunit.ne_nil] at hc
      exact hunit.isBlank_of_getLast? hc

theorem denotes_iff : Denotes known s n unit ↔ IsDelay known (trim s.toList) n unit := by
  constructor
  · rintro ⟨front, body, back, hs, hfront, hback, hbody⟩
    obtain ⟨hhead, hlast⟩ := hbody.isBlank_of_ends
    rw [IsTrimmed.trim_eq ⟨⟨front, back, hs, hfront, hback⟩, hhead, hlast⟩]
    exact hbody
  · intro h
    obtain ⟨front, back, hs, hfront, hback⟩ := (isTrimmed_trim s.toList).surrounded
    exact ⟨front, trim s.toList, back, hs, hfront, hback, h⟩

/-- Neither a digit nor white space completes the sign of another unit. -/
theorem IsAmount.closingUnit?_append {amount blanks : List Char} (h : IsAmount amount n)
    (hblanks : ∀ c ∈ blanks, isBlank c = true) (u : TimeUnit) :
    closingUnit? (amount ++ blanks ++ u.sign) = some (u, amount ++ blanks) := by
  apply Config.closingUnit?_append
  rintro c hc rfl
  by_cases hnil : blanks = []
  · rw [hnil, List.append_nil] at hc
    exact absurd (h.isDigit_of_getLast? hc) (by decide)
  · rw [List.getLast?_append_of_ne_nil _ hnil] at hc
    exact absurd (hblanks _ (List.mem_of_getLast? hc)) (by decide)

/-- Without a unit at its end, a text is a delay if it is an amount. -/
theorem isDelay_iff_of_eq_none (h : closingUnit? body = none) :
    IsDelay known body n unit ↔ IsAmount body n ∧ unit = known := by
  constructor
  · intro hdelay
    cases hdelay with
    | bare hamount => exact ⟨hamount, rfl⟩
    | withUnit hamount hblanks hunit =>
      obtain ⟨u, rfl, -⟩ := isUnit_iff.1 hunit
      rw [hamount.closingUnit?_append hblanks] at h
      cases h
  · rintro ⟨hamount, rfl⟩
    exact .bare hamount

/-- With a unit at its end, a text is a delay if an amount is left without the unit and the white
space before it. -/
theorem isDelay_iff_of_eq_some (h : closingUnit? body = some (u, front))
    (hhead : ∀ c, body.head? = some c → isBlank c = false) :
    IsDelay known body n unit ↔ IsAmount (trim front) n ∧ unit = u.milliseconds := by
  constructor
  · intro hdelay
    cases hdelay with
    | bare hamount =>
      rw [closingUnit?_eq_none (fun _ => hamount.isDigit_of_getLast?) hamount.ne_nil] at h
      cases h
    | withUnit hamount hblanks hunit =>
      obtain ⟨v, rfl, rfl⟩ := isUnit_iff.1 hunit
      rw [hamount.closingUnit?_append hblanks] at h
      cases h
      rw [hamount.trim_append hblanks]
      exact ⟨hamount, rfl⟩
  · rintro ⟨hamount, rfl⟩
    obtain ⟨⟨before, blanks, hfront, hbefore, hblanks⟩, -, -⟩ := isTrimmed_trim front
    have hbody := eq_append_of_closingUnit? h
    -- white space before the amount would be at the head of the text
    have hnil : before = [] := by
      cases before with
      | nil => rfl
      | cons c before =>
        rw [hbody, hfront] at hhead
        have hc := hbefore c List.mem_cons_self
        rw [hhead c rfl] at hc
        cases hc
    rw [hbody, hfront, hnil]
    exact .withUnit hamount hblanks (isUnit_iff.2 ⟨u, rfl, rfl⟩)

end Forms

/-! ### Reading -/

section Reading

variable {known n m unit unit' : Nat} {s : String} {cs body : List Char}

theorem readAmount_eq_ok_iff : readAmount cs = .ok n ↔ IsAmount cs n ∧ n < 2 ^ 64 := by
  have hbound : n ≤ maxU64 ↔ n < 2 ^ 64 := by
    rw [maxU64]
    omega
  rw [readAmount, mapError_eq_ok_iff, readNat_eq_ok_iff (by decide) (by decide), hbound]
  constructor
  · rintro ⟨digits, htext, hdigits, hn⟩
    exact ⟨⟨digits, htext, hdigits⟩, hn⟩
  · rintro ⟨⟨digits, htext, hdigits⟩, hn⟩
    exact ⟨digits, htext, hdigits, hn⟩

/-- An amount has one value, since a bound above both values reads either of them. -/
theorem IsAmount.unique (hn : IsAmount cs n) (hm : IsAmount cs m) : n = m := by
  have hread : ∀ {k}, IsAmount cs k → k ≤ n + m → readNat 10 (n + m) cs = .ok k := by
    rintro k ⟨digits, htext, hdigits⟩ hk
    exact (readNat_eq_ok_iff (by decide) (by decide)).2 ⟨digits, htext, hdigits, hk⟩
  have hboth := (hread hn (Nat.le_add_right n m)).symm.trans (hread hm (Nat.le_add_left m n))
  exact Except.ok.inj hboth

theorem Denotes.unit_pos (h : Denotes known s n unit) (hknown : 0 < known) : 0 < unit := by
  obtain ⟨_, _, _, _, _, _, hdelay⟩ := h
  cases hdelay with
  | bare => exact hknown
  | withUnit _ _ hunit => exact hunit.pos

/-- A text is a delay in one way only. -/
theorem Denotes.unique (hn : Denotes known s n unit) (hm : Denotes known s m unit') :
    n = m ∧ unit = unit' := by
  rw [denotes_iff] at hn hm
  cases hclosing : closingUnit? (trim s.toList) with
  | none =>
    rw [isDelay_iff_of_eq_none hclosing] at hn hm
    exact ⟨hn.1.unique hm.1, hn.2.trans hm.2.symm⟩
  | some found =>
    have hhead := (isTrimmed_trim s.toList).head
    rw [isDelay_iff_of_eq_some hclosing hhead] at hn hm
    exact ⟨hn.1.unique hm.1, hn.2.trans hm.2.symm⟩

/-- Reading a text is reading its amount in one unit. -/
theorem exists_readScaled {default : String} (hdefault : IsUnit default.toList known)
    (s : String) :
    ∃ u amount, readDelay default s = readScaled u amount ∧
      ∀ n unit, Denotes known s n unit ↔ IsAmount amount n ∧ unit = u.milliseconds := by
  simp only [denotes_iff]
  unfold readDelay
  cases hclosing : closingUnit? (trim s.toList) with
  | some found =>
    obtain ⟨u, front⟩ := found
    simp only [hclosing]
    exact ⟨u, trim front, rfl, fun n unit =>
      isDelay_iff_of_eq_some hclosing (isTrimmed_trim s.toList).head⟩
  | none =>
    obtain ⟨u, hu, rfl⟩ := ofSign?_of_isUnit hdefault
    simp only [hclosing, hu]
    exact ⟨u, trim s.toList, rfl, fun n unit => isDelay_iff_of_eq_none hclosing⟩

/-- Reading ends in one of three ways: with the product of what a text denotes, without a value
because no word holds the product, or with a fault. -/
theorem readDelay_cases {default : String} (hdefault : IsUnit default.toList known) (s : String) :
    (∃ n unit, Denotes known s n unit ∧ n * unit < 2 ^ 64 ∧
        readDelay default s = some (.ok (n * unit))) ∨
      (∃ n unit, Denotes known s n unit ∧ n < 2 ^ 64 ∧ 2 ^ 64 ≤ n * unit ∧
        readDelay default s = none) ∨
      (∀ n unit, Denotes known s n unit → 2 ^ 64 ≤ n) ∧
        ∃ e, readDelay default s = some (.error e) := by
  obtain ⟨u, amount, hread, hdenotes⟩ := exists_readScaled hdefault s
  rw [hread, readScaled]
  cases hamount : readAmount amount with
  | error e =>
    refine .inr (.inr ⟨?_, e, rfl⟩)
    intro n unit h
    by_contra hn
    rw [readAmount_eq_ok_iff.2 ⟨((hdenotes n unit).1 h).1, Nat.not_le.1 hn⟩] at hamount
    cases hamount
  | ok n =>
    obtain ⟨hn, hfits⟩ := readAmount_eq_ok_iff.1 hamount
    have hdenoted : Denotes known s n u.milliseconds := (hdenotes n _).2 ⟨hn, rfl⟩
    cases hscaled : u.scale n with
    | none =>
      have hover : maxU64 < n * u.milliseconds := Checked.word_eq_none_iff.1 hscaled
      exact .inr (.inl ⟨n, _, hdenoted, hfits, hover, congrArg (Option.map Except.ok) hscaled⟩)
    | some r =>
      obtain ⟨hword, rfl⟩ := Checked.word_eq_some_iff.1 hscaled
      exact .inl ⟨n, _, hdenoted, Nat.lt_succ_of_le hword,
        congrArg (Option.map Except.ok) hscaled⟩

/-- A number of units is not above their milliseconds. -/
theorem Denotes.le_mul (h : Denotes known s n unit) (hknown : 0 < known) : n ≤ n * unit :=
  Nat.le_mul_of_pos_right n (h.unit_pos hknown)

theorem readDelay_eq_ok_iff {default : String} (hdefault : IsUnit default.toList known) {r : Nat} :
    readDelay default s = some (.ok r) ↔
      ∃ n unit, Denotes known s n unit ∧ n * unit < 2 ^ 64 ∧ r = n * unit := by
  obtain ⟨n, unit, h, hfits, hread⟩ | ⟨n, unit, h, -, hover, hread⟩ | ⟨hlarge, e, hread⟩ :=
    readDelay_cases hdefault s
  · rw [hread]
    constructor
    · intro hr
      cases hr
      exact ⟨n, unit, h, hfits, rfl⟩
    · rintro ⟨m, unit', hm, -, rfl⟩
      obtain ⟨rfl, rfl⟩ := h.unique hm
      rfl
  · rw [hread]
    refine iff_of_false (fun hr => by cases hr) ?_
    rintro ⟨m, unit', hm, hfits, -⟩
    obtain ⟨rfl, rfl⟩ := h.unique hm
    exact Nat.not_lt.2 hover hfits
  · rw [hread]
    refine iff_of_false (fun hr => by cases hr) ?_
    rintro ⟨m, unit', hm, hfits, -⟩
    exact Nat.not_lt.2 ((hlarge m unit' hm).trans (hm.le_mul hdefault.pos)) hfits

theorem readDelay_eq_none_iff {default : String} (hdefault : IsUnit default.toList known) :
    readDelay default s = none ↔
      ∃ n unit, Denotes known s n unit ∧ n < 2 ^ 64 ∧ 2 ^ 64 ≤ n * unit := by
  obtain ⟨n, unit, h, hfits, hread⟩ | ⟨n, unit, h, hn, hover, hread⟩ | ⟨hlarge, e, hread⟩ :=
    readDelay_cases hdefault s
  · rw [hread]
    refine iff_of_false (fun hr => by cases hr) ?_
    rintro ⟨m, unit', hm, -, hover⟩
    obtain ⟨rfl, rfl⟩ := h.unique hm
    exact Nat.not_lt.2 hover hfits
  · exact iff_of_true hread ⟨n, unit, h, hn, hover⟩
  · rw [hread]
    refine iff_of_false (fun hr => by cases hr) ?_
    rintro ⟨m, unit', hm, hsmall, -⟩
    exact Nat.not_lt.2 (hlarge m unit' hm) hsmall

theorem exists_readDelay_error_iff {default : String} (hdefault : IsUnit default.toList known) :
    (∃ e, readDelay default s = some (.error e)) ↔
      ∀ n unit, Denotes known s n unit → 2 ^ 64 ≤ n := by
  obtain ⟨n, unit, h, hfits, hread⟩ | ⟨n, unit, h, hn, -, hread⟩ | ⟨hlarge, e, hread⟩ :=
    readDelay_cases hdefault s
  · rw [hread]
    refine iff_of_false (fun ⟨e, he⟩ => by cases he) fun hlarge => ?_
    exact Nat.not_lt.2 ((hlarge n unit h).trans (h.le_mul hdefault.pos)) hfits
  · rw [hread]
    refine iff_of_false (fun ⟨e, he⟩ => by cases he) fun hlarge => ?_
    exact Nat.not_lt.2 (hlarge n unit h) hn
  · exact iff_of_true ⟨e, hread⟩ hlarge

/-- **Delays are read exactly or not at all.** A text is read if it denotes a number of
milliseconds that fits a word, and that number is what is read; nothing is ever cut down to a
word. Nothing else is read. It is a fault, unless the number of units fits a word and only its
milliseconds do not: then the program stops. -/
theorem readDelay_of_denoted {default : String} (hdefault : IsUnit default.toList known)
    (s : String) :
    (∀ r, readDelay default s = some (.ok r) ↔
        ∃ n unit, Denotes known s n unit ∧ n * unit < 2 ^ 64 ∧ r = n * unit) ∧
      (readDelay default s = none ↔
        ∃ n unit, Denotes known s n unit ∧ n < 2 ^ 64 ∧ 2 ^ 64 ≤ n * unit) ∧
      ((∃ e, readDelay default s = some (.error e)) ↔
        ∀ n unit, Denotes known s n unit → 2 ^ 64 ≤ n) :=
  ⟨fun _ => readDelay_eq_ok_iff hdefault, readDelay_eq_none_iff hdefault,
    exists_readDelay_error_iff hdefault⟩

theorem isAmount_of_readAmount (h : readAmount cs = .ok n) : IsAmount cs n :=
  (readAmount_eq_ok_iff.1 h).1

/-- Ninety minutes, between white space and with white space before the unit. -/
theorem readDelay_of_denoted_minutes :
    IsUnit "ms".toList 1 ∧ Denotes 1 " 90 m\n" 90 60000 ∧
      readDelay "ms" " 90 m\n" = some (.ok 5400000) := by
  have hdefault : IsUnit "ms".toList 1 := .milliseconds
  have hdelay : IsDelay 1 (['9', '0'] ++ [' '] ++ ['m']) 90 60000 :=
    .withUnit (isAmount_of_readAmount rfl) (List.forall_mem_singleton.2 rfl) .minutes
  have hdenotes : Denotes 1 " 90 m\n" 90 60000 :=
    ⟨[' '], _, ['\n'], rfl, List.forall_mem_singleton.2 rfl, List.forall_mem_singleton.2 rfl,
      hdelay⟩
  have hread := (readDelay_of_denoted hdefault " 90 m\n").1 5400000
  exact ⟨hdefault, hdenotes, hread.2 ⟨_, _, hdenotes, by decide, rfl⟩⟩

/-- A number of seconds that fits a word, and whose milliseconds do not. -/
theorem readDelay_stops :
    Denotes 1 "18446744073709552s" 18446744073709552 1000 ∧
      (∀ n unit, Denotes 1 "18446744073709552s" n unit → 2 ^ 64 ≤ n * unit) ∧
      readDelay "ms" "18446744073709552s" = none := by
  have hdefault : IsUnit "ms".toList 1 := .milliseconds
  have hdelay : IsDelay 1 ("18446744073709552".toList ++ [] ++ ['s']) 18446744073709552 1000 :=
    .withUnit (isAmount_of_readAmount rfl) (List.forall_mem_nil _) .seconds
  have hdenotes : Denotes 1 "18446744073709552s" 18446744073709552 1000 :=
    ⟨[], _, [], rfl, List.forall_mem_nil _, List.forall_mem_nil _, hdelay⟩
  refine ⟨hdenotes, ?_, ?_⟩
  · intro n unit h
    obtain ⟨rfl, rfl⟩ := h.unique hdenotes
    decide
  · exact (readDelay_eq_none_iff hdefault).2 ⟨_, _, hdenotes, by decide, by decide⟩

end Reading

end GasLens.Config
