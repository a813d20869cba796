/-
  GasLens/Proofs/JsonNumbers.lean
  ===============================
  **Numbers of documents, written and read** — a number ends where nothing that could belong to it
  follows, so what stands behind it does not change its value (`readNumber_append`).

  An integer of 64 bits is written with digits alone and is read back (`readsBack_ofNat`). Of
  doubles nothing is proved here: reading scales a word of 64 bits by a power of ten, which is not
  exact for all of them, so that reading back is a property of each double (`ReadsBack`).
  Whatever is read as an integer fits 64 bits (`fits_of_readNumber`).
-/
import GasLens.Json.Number
import GasLens.Json.Writer
import GasLens.Proofs.Numerals

namespace GasLens.Json

open GasLens.Text

/-! ### Where a number ends -/

/-- Texts that add nothing to a number in front of them. -/
def EndsNumber (rest : List Char) : Prop :=
  ∀ c ∈ rest.head?, isDecimalDigit c = false ∧ c ≠ '.' ∧ c ≠ 'e' ∧ c ≠ 'E'

theorem endsNumber_nil : EndsNumber [] := by
  intro c hc
  cases hc

theorem endsNumber_cons {c : Char} (rest : List Char)
    (h : isDecimalDigit c = false ∧ c ≠ '.' ∧ c ≠ 'e' ∧ c ≠ 'E') : EndsNumber (c :: rest) := by
  intro d hd
  cases hd
  exact h

section Ends

variable {rest : List Char}

theorem spanDigits_append (h : EndsNumber rest) (cs : List Char) :
    spanDigits (cs ++ rest) = ((spanDigits cs).1, (spanDigits cs).2 ++ rest) := by
  induction cs with
  | nil =>
    cases rest with
    | nil => rfl
    | cons c rest => simp [spanDigits, (h c rfl).1]
  | cons c cs ih =>
    simp only [spanDigits, Prod.mk.injEq, List.cons_append] at ih ⊢
    cases hc : isDecimalDigit c with
    | false => simp [hc]
    | true =>
      rw [List.takeWhile_cons_of_pos hc, List.takeWhile_cons_of_pos hc,
        List.dropWhile_cons_of_pos hc, List.dropWhile_cons_of_pos hc, List.map_cons, List.map_cons,
        ih.1, ih.2]
      exact ⟨rfl, rfl⟩

theorem exponentDigits_append (h : EndsNumber rest) (value : List Nat → Option Float)
    {cs r : List Char} {x : Float}
    (hread : (match spanDigits cs with
      | ([], _) => none
      | (digits, r) => (value digits).map fun x => (x, r)) = some (x, r)) :
    (match spanDigits (cs ++ rest) with
      | ([], _) => none
      | (digits, r) => (value digits).map fun x => (x, r)) = some (x, r ++ rest) := by
  rw [spanDigits_append h]
  rcases hspan : spanDigits cs with ⟨digits, tail⟩
  rw [hspan] at hread
  cases digits with
  | nil => cases hread
  | cons d ds =>
    simp only [Option.map_eq_some_iff, Prod.mk.injEq] at hread ⊢
    obtain ⟨y, hy, rfl, rfl⟩ := hread
    exact ⟨y, hy, rfl, rfl⟩

theorem readExponent_unsigned {c d : Char} (hc : c = 'e' ∨ c = 'E') (hminus : d ≠ '-')
    (hplus : d ≠ '+') (negative : Bool) (word : Nat) (power : Int) (cs : List Char) :
    readExponent negative word power (c :: d :: cs) =
      match spanDigits (d :: cs) with
      | ([], _) => none
      | (digits, r) => (withExponent negative word power false digits).map fun x => (x, r) := by
  have hminus' : ∀ r, d :: cs = '-' :: r → False := fun r hr => hminus (List.cons.inj hr).1
  have hplus' : ∀ r, d :: cs = '+' :: r → False := fun r hr => hplus (List.cons.inj hr).1
  exact (readExponent.eq_3 _ _ _ _ _ hminus' hplus').trans (if_pos hc)

theorem readExponent_append (h : EndsNumber rest) {negative : Bool} {word : Nat} {power : Int}
    {cs r : List Char} {x : Float} (hread : readExponent negative word power cs = some (x, r)) :
    readExponent negative word power (cs ++ rest) = some (x, r ++ rest) := by
  cases cs with
  | nil =>
    simp only [readExponent, Option.map_eq_some_iff, Prod.mk.injEq] at hread
    obtain ⟨y, hy, rfl, rfl⟩ := hread
    cases rest with
    | nil => simp [readExponent, hy]
    | cons c rest =>
      obtain ⟨_, _, he, hE⟩ := h c rfl
      simp [readExponent, hy, he, hE]
  | cons c cs =>
    by_cases hc : c = 'e' ∨ c = 'E'
    · cases cs with
      | nil =>
        simp [readExponent, hc, spanDigits] at hread
      | cons d cs =>
        rw [List.cons_append, List.cons_append]
        -- the sign of the exponent stands in front of what is appended
        by_cases hminus : d = '-'
        · subst hminus
          simp only [readExponent, if_pos hc] at hread ⊢
          exact exponentDigits_append h (withExponent negative word power true) hread
        · by_cases hplus : d = '+'
          · subst hplus
            simp only [readExponent, if_pos hc] at hread ⊢
            exact exponentDigits_append h (withExponent negative word power false) hread
          · rw [readExponent_unsigned hc hminus hplus] at hread ⊢
            exact exponentDigits_append h (withExponent negative word power false) hread
    · simp only [readExponent, List.cons_append, if_neg hc, Option.map_eq_some_iff,
        Prod.mk.injEq] at hread ⊢
      obtain ⟨y, hy, rfl, rfl⟩ := hread
      exact ⟨y, hy, rfl, rfl⟩

theorem readPlaces_append (h : EndsNumber rest) {negative : Bool} {word : Nat} {power : Int}
    {cs r : List Char} {x : Float} (hread : readPlaces negative word power cs = some (x, r)) :
    readPlaces negative word power (cs ++ rest) = some (x, r ++ rest) := by
  rw [readPlaces] at hread ⊢
  rw [spanDigits_append h]
  rcases hspan : spanDigits cs with ⟨digits, tail⟩
  rw [hspan] at hread
  cases digits with
  | nil => cases hread
  | cons d ds => exact readExponent_append h hread

theorem readTail_of_ne (negative : Bool) (word : Nat) (left : List Nat) {cs : List Char}
    (hpoint : cs.head? ≠ some '.') :
    readTail negative word left cs =
      bif left.isEmpty && !(cs.head?.any fun c => c = 'e' || c = 'E') then
        some (wholeNumber negative word, cs)
      else (readExponent negative word left.length cs).map fun (x, rest) => (.double x, rest) := by
  unfold readTail
  split <;> simp_all [cond_eq_ite]

/-- What is behind a number and adds nothing to it is left as it is. -/
theorem readTail_append (h : EndsNumber rest) {negative : Bool} {word : Nat} {left : List Nat}
    {cs r : List Char} {n : JsonNumber} (hread : readTail negative word left cs = some (n, r)) :
    readTail negative word left (cs ++ rest) = some (n, r ++ rest) := by
  cases cs with
  | nil =>
    have hrest : rest.head? ≠ some '.' := fun hhead => (h '.' hhead).2.1 rfl
    have hmark : (rest.head?.any fun c => c = 'e' || c = 'E') = false := by
      cases rest with
      | nil => rfl
      | cons c rest =>
        obtain ⟨_, _, he, hE⟩ := h c rfl
        simp [he, hE]
    rw [readTail_of_ne _ _ _ (by simp)] at hread
    rw [List.nil_append, readTail_of_ne _ _ _ hrest, hmark]
    cases hleft : left.isEmpty with
    | true =>
      rw [hleft] at hread
      cases hread
      rfl
    | false =>
      simp only [hleft, Bool.false_and, cond_false, Option.map_eq_some_iff,
        Prod.mk.injEq] at hread ⊢
      obtain ⟨⟨x, tail⟩, hx, rfl, rfl⟩ := hread
      exact ⟨(x, tail ++ rest), readExponent_append h hx, rfl, rfl⟩
  | cons c cs =>
    by_cases hpoint : c = '.'
    · subst hpoint
      simp only [readTail, List.cons_append, Option.map_eq_some_iff, Prod.mk.injEq] at hread ⊢
      obtain ⟨⟨x, tail⟩, hx, rfl, rfl⟩ := hread
      exact ⟨(x, tail ++ rest), readPlaces_append h hx, rfl, rfl⟩
    · have hhead : ∀ tail : List Char, (c :: tail).head? ≠ some '.' := by
        intro tail
        simpa using hpoint
      rw [readTail_of_ne _ _ _ (hhead cs)] at hread
      rw [List.cons_append, readTail_of_ne _ _ _ (hhead _)]
      simp only [List.head?_cons] at hread ⊢
      generalize (left.isEmpty && !((some c).any fun c => c = 'e' || c = 'E')) = whole at hread ⊢
      cases whole with
      | true =>
        cases hread
        rfl
      | false =>
        simp only [cond_false, Option.map_eq_some_iff, Prod.mk.injEq] at hread ⊢
        obtain ⟨⟨x, tail⟩, hx, rfl, rfl⟩ := hread
        exact ⟨(x, tail ++ rest), readExponent_append h hx, rfl, rfl⟩

theorem readUnsigned_append (h : EndsNumber rest) {negative : Bool} {cs r : List Char}
    {n : JsonNumber} (hread : readUnsigned negative cs = some (n, r)) :
    readUnsigned negative (cs ++ rest) = some (n, r ++ rest) := by
  rw [readUnsigned] at hread ⊢
  rw [spanDigits_append h]
  rcases hspan : spanDigits cs with ⟨digits, tail⟩
  rw [hspan] at hread
  rcases digits with _ | ⟨d, _ | ⟨e, ds⟩⟩
  · cases hread
  · exact readTail_append h hread
  · cases d with
    | zero => cases hread
    | succ d => exact readTail_append h hread

theorem readNumber_cons_of_ne {c : Char} (hc : c ≠ '-') (cs : List Char) :
    readNumber (c :: cs) = readUnsigned false (c :: cs) := by
  unfold readNumber
  split <;> simp_all

/-- **What ends a number does not change it.** -/
theorem readNumber_append (h : EndsNumber rest) {cs r : List Char} {n : JsonNumber}
    (hread : readNumber cs = some (n, r)) : readNumber (cs ++ rest) = some (n, r ++ rest) := by
  cases cs with
  | nil => cases hread
  | cons c cs =>
    by_cases hminus : c = '-'
    · subst hminus
      exact readUnsigned_append h hread
    · rw [readNumber_cons_of_ne hminus] at hread
      rw [List.cons_append, readNumber_cons_of_ne hminus]
      exact readUnsigned_append h hread

end Ends

/-- A number begins with a digit or a minus sign. -/
theorem exists_cons_of_readNumber {cs r : List Char} {n : JsonNumber}
    (h : readNumber cs = some (n, r)) :
    ∃ c tail, cs = c :: tail ∧ (c = '-' ∨ isDecimalDigit c = true) := by
  cases cs with
  | nil => cases h
  | cons c tail =>
    refine ⟨c, tail, rfl, ?_⟩
    by_cases hminus : c = '-'
    · exact Or.inl hminus
    · right
      rw [readNumber_cons_of_ne hminus, readUnsigned] at h
      cases hdigit : isDecimalDigit c with
      | true => rfl
      | false => simp [spanDigits, hdigit] at h

/-! ### Integers -/

theorem gather_of_isDigit {word : Nat} {cs : List Char}
    (hb : Nat.ofDigitChars 10 cs word ≤ maxU64) :
    gather word (cs.map fun c => c.toNat - '0'.toNat) = (Nat.ofDigitChars 10 cs word, []) := by
  induction cs generalizing word with
  | nil => rfl
  | cons c cs ih =>
    rw [Nat.ofDigitChars_cons] at hb ⊢
    have hnext := le_ofDigitChars (10 * word + (c.toNat - '0'.toNat)) cs
    have hcomm : word * 10 + (c.toNat - '0'.toNat) = 10 * word + (c.toNat - '0'.toNat) := by
      omega
    rw [List.map_cons, gather, hcomm, if_pos (Nat.le_trans hnext hb)]
    exact ih hb

theorem readUnsigned_of_span {cs rest : List Char} {d e : Nat} {ds : List Nat}
    (hspan : spanDigits cs = (d :: e :: ds, rest)) (hd : d ≠ 0) (negative : Bool) :
    readUnsigned negative cs =
      readTail negative (gather 0 (d :: e :: ds)).1 (gather 0 (d :: e :: ds)).2 rest := by
  rw [readUnsigned, hspan]
  cases d with
  | zero => exact absurd rfl hd
  | succ d => rfl

/-- Only zero is written with a zero in front. -/
theorem head_decimal_ne {n : Nat} (hn : 0 < n) :
    ∃ c cs, decimal n = c :: cs ∧ c.toNat - '0'.toNat ≠ 0 := by
  induction n using Nat.strongRecOn with
  | _ n ih =>
    by_cases hlt : n < 10
    · have hdigits : ∀ d < 10, 0 < d → d.digitChar.toNat - '0'.toNat ≠ 0 := by decide
      exact ⟨n.digitChar, [], Nat.toDigits_of_lt_base hlt, hdigits n hlt hn⟩
    · obtain ⟨c, cs, hcs, hc⟩ := ih (n / 10) (by omega) (by omega)
      refine ⟨c, cs ++ [(n % 10).digitChar], ?_, hc⟩
      rw [decimal, Nat.toDigits_of_base_le (by decide) (by omega)]
      exact congrArg (· ++ _) hcs

theorem spanDigits_decimal (n : Nat) :
    spanDigits (decimal n) = ((decimal n).map fun c => c.toNat - '0'.toNat, []) := by
  have hall : ∀ c ∈ decimal n, isDecimalDigit c = true := fun c hc => isDigit_of_mem_decimal hc
  have htake := @List.takeWhile_append_of_pos _ isDecimalDigit (decimal n) [] hall
  have hdrop := @List.dropWhile_append_of_pos _ isDecimalDigit (decimal n) [] hall
  rw [List.append_nil] at htake hdrop
  rw [spanDigits, htake, hdrop]
  simp

theorem readNumber_decimal {n : Nat} (h : n ≤ maxU64) :
    readNumber (decimal n) = some (.integer n, []) := by
  have hvalue : Nat.ofDigitChars 10 (decimal n) 0 = n := Nat.ofDigitChars_ten_toDigits
  have hspan := spanDigits_decimal n
  cases hn : decimal n with
  | nil => exact absurd hn (decimal_ne_nil n)
  | cons c cs =>
    have hc : c.isDigit = true := isDigit_of_mem_decimal (hn ▸ List.mem_cons_self)
    have hminus : c ≠ '-' := fun heq => absurd (heq ▸ hc) (by decide)
    rw [hn] at hvalue hspan
    rw [readNumber_cons_of_ne hminus]
    cases cs with
    | nil =>
      rw [readUnsigned, hspan]
      have hc' : c.toNat - '0'.toNat = n := by
        rw [← hvalue, Nat.ofDigitChars_cons, Nat.ofDigitChars_nil]
        omega
      simp only [List.map_cons, List.map_nil, hc']
      rfl
    | cons d cs =>
      have hpos : 0 < n := by
        rcases Nat.eq_zero_or_pos n with rfl | hpos
        · cases hn
        · exact hpos
      obtain ⟨c', cs', hhead, hne⟩ := head_decimal_ne hpos
      rw [hn] at hhead
      cases hhead
      have hgather := gather_of_isDigit (hvalue.symm ▸ h)
      rw [List.map_cons, List.map_cons] at hspan hgather
      rw [readUnsigned_of_span hspan hne, hgather, hvalue]
      rfl

/-- A number of a document that is read back as it was. -/
def ReadsBack (n : JsonNumber) : Prop := readNumber (numberText n).toList = some (n, [])

/-- What is wanted of a number where it stands in front of something else. -/
theorem ReadsBack.append {n : JsonNumber} (h : ReadsBack n) {rest : List Char}
    (hrest : EndsNumber rest) : readNumber ((numberText n).toList ++ rest) = some (n, rest) :=
  readNumber_append hrest h

theorem readsBack_ofNat {n : Nat} (h : n ≤ maxU64) : ReadsBack (.integer n) := by
  have htext : (numberText (.integer n)).toList = decimal n := by
    rw [numberText, intText, if_neg (by omega), natText, String.toList_ofList, Int.natAbs_natCast]
  rw [ReadsBack, htext]
  exact readNumber_decimal h

/-! ### Integers that are read -/

/-- The integers that a document can hold: those of 64 bits, with a sign or without. -/
def FitsWord (n : JsonNumber) : Prop :=
  match n with
  | .integer n => -2 ^ 63 ≤ n ∧ n ≤ maxU64
  | .double _ => True

theorem gather_le {word : Nat} (hword : word ≤ maxU64) (ds : List Nat) :
    (gather word ds).1 ≤ maxU64 := by
  induction ds generalizing word with
  | nil => exact hword
  | cons d ds ih =>
    rw [gather]
    split
    · exact ih ‹_›
    · exact hword

theorem fits_wholeNumber (negative : Bool) {word : Nat} (hword : word ≤ maxU64) :
    FitsWord (wholeNumber negative word) := by
  unfold wholeNumber
  cases negative with
  | false =>
    simp only [Bool.false_eq_true, if_false, FitsWord]
    omega
  | true =>
    simp only [if_true]
    split
    · trivial
    · rename_i hbounds
      simp only [FitsWord]
      omega

theorem fits_of_readTail {negative : Bool} {word : Nat} {left : List Nat} {cs r : List Char}
    {n : JsonNumber} (hword : word ≤ maxU64) (h : readTail negative word left cs = some (n, r)) :
    FitsWord n := by
  unfold readTail at h
  split at h
  · obtain ⟨p, _, heq⟩ := Option.map_eq_some_iff.1 h
    cases heq
    trivial
  · split at h
    · cases h
      exact fits_wholeNumber negative hword
    · obtain ⟨p, _, heq⟩ := Option.map_eq_some_iff.1 h
      cases heq
      trivial

theorem le_nine_of_mem_spanDigits {cs : List Char} {d : Nat} (h : d ∈ (spanDigits cs).1) :
    d ≤ 9 := by
  obtain ⟨c, hc, rfl⟩ := List.mem_map.1 h
  have hall := @List.all_takeWhile _ isDecimalDigit cs
  have hdigit : isDecimalDigit c = true := List.all_eq_true.1 hall c hc
  simp only [isDecimalDigit, Bool.and_eq_true, decide_eq_true_eq] at hdigit
  have hhigh : c.toNat ≤ '9'.toNat := UInt32.le_iff_toNat_le.1 hdigit.2
  have hnine : '9'.toNat = '0'.toNat + 9 := rfl
  omega

theorem fits_of_readUnsigned {negative : Bool} {cs r : List Char} {n : JsonNumber}
    (h : readUnsigned negative cs = some (n, r)) : FitsWord n := by
  unfold readUnsigned at h
  split at h
  · cases h
  · rename_i d rest hspan
    have hd : d ≤ 9 := le_nine_of_mem_spanDigits (by rw [hspan]; simp)
    exact fits_of_readTail (Nat.le_trans hd (by decide)) h
  · cases h
  · exact fits_of_readTail (gather_le (by decide) _) h

/-- Integers that are read fit 64 bits. -/
theorem fits_of_readNumber {cs r : List Char} {n : JsonNumber}
    (h : readNumber cs = some (n, r)) : FitsWord n := by
  unfold readNumber at h
  split at h <;> exact fits_of_readUnsigned h

end GasLens.Json
