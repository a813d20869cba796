/-
  GasLens/Proofs/CodeTexts.lean
  =============================
  **What becomes of a code text** — the bytes that are read from it, or the one fault that it has.

  A text is told by what stands behind its mark (`IsCodeOf`), and what is read from that by the
  bytes that are written the same way, up to the case of the letters. So nothing here speaks of
  the value of a digit: bytes are read just if their text is the lowered one (`readHex_eq_ok_iff`),
  and a fault is the first byte that is no digit (`IsFirstBad`), of which there is at most one.

  The map of a program looks for a code before it reads one. What it takes for missing is what
  would be read as empty, so an empty code never is a fault of the map.
-/
import GasLens.Proofs.MarkedTexts
import GasLens.Proofs.PcAlignment

namespace GasLens.Text

/-! ### Letter case -/

/-- Lowering moves the capitals of ASCII thirty-two places up, and nothing else. -/
theorem toLower_cases (c : Char) :
    c.toLower = c ∨ 'A'.toNat ≤ c.toNat ∧ c.toLower.toNat = c.toNat + 32 := by
  unfold Char.toLower
  split
  · rename_i hcapital
    have hhigh : c.val.toNat ≤ 90 := UInt32.le_iff_toNat_le.1 hcapital.2
    have hlt : c.val.toNat + 32 < 2 ^ 32 := by omega
    have hsum : (c.val + 32).toNat = c.val.toNat + 32 := by
      rw [UInt32.toNat_add]
      exact Nat.mod_eq_of_lt hlt
    exact Or.inr ⟨UInt32.le_iff_toNat_le.1 hcapital.1, hsum⟩
  · exact Or.inl rfl

theorem toLower_digitChar :
    ∀ d < 16, d.digitChar.toLower = d.digitChar ∧ d.digitChar.toUpper.toLower = d.digitChar := by
  decide

theorem toUpper_digitChar :
    ∀ d < 16, 'A'.toNat + 32 ≤ d.digitChar.toNat →
      d.digitChar.toUpper = Char.ofNat (d.digitChar.toNat - 32) := by
  decide

/-- A character is a digit if lowering it makes it the digit that is written. -/
theorem isDigitOf_iff_toLower {d : Nat} (hd : d < 16) {c : Char} :
    IsDigitOf 16 c d ↔ c.toLower = d.digitChar := by
  constructor
  · rintro ⟨-, rfl | rfl⟩
    · exact (toLower_digitChar d hd).1
    · exact (toLower_digitChar d hd).2
  · intro hlower
    rcases toLower_cases c with hsame | ⟨hcapital, hplace⟩
    · exact ⟨hd, Or.inl (hsame ▸ hlower)⟩
    · rw [hlower] at hplace
      refine ⟨hd, Or.inr ?_⟩
      rw [toUpper_digitChar d hd (by omega), hplace, Nat.add_sub_cancel, Char.ofNat_toNat]

theorem isHexDigit_of_toLower_mem {bs : List UInt8} {c : Char} (h : c.toLower ∈ hexChars bs) :
    IsHexDigit c := by
  obtain ⟨b, -, hmem⟩ := List.mem_flatMap.1 h
  simp only [hexPair, List.mem_cons, List.not_mem_nil, or_false] at hmem
  rcases hmem with heq | heq
  · exact ⟨_, (isDigitOf_iff_toLower (Nat.mod_lt _ (by decide))).2 heq⟩
  · exact ⟨_, (isDigitOf_iff_toLower (Nat.mod_lt _ (by decide))).2 heq⟩

theorem forall_isHexDigit_of_map_toLower {cs : List Char} {bs : List UInt8}
    (h : cs.map Char.toLower = hexChars bs) : ∀ c ∈ cs, IsHexDigit c := by
  intro c hc
  have hmem : c.toLower ∈ cs.map Char.toLower := List.mem_map_of_mem hc
  rw [h] at hmem
  exact isHexDigit_of_toLower_mem hmem

/-! ### Bytes that are read -/

theorem readHexDigit_eq_ok_iff {index d : Nat} {b : UInt8} :
    readHexDigit index b = .ok d ↔ d < 16 ∧ (charOfByte b).toLower = d.digitChar := by
  have hvalue : hexValue? b = some d ↔ d < 16 ∧ (charOfByte b).toLower = d.digitChar := by
    rw [hexValue?, digitValue?_eq_some_iff (Nat.le_refl 16)]
    constructor
    · exact fun h => ⟨h.1, (isDigitOf_iff_toLower h.1).1 h⟩
    · exact fun ⟨hd, h⟩ => (isDigitOf_iff_toLower hd).2 h
  rw [← hvalue, readHexDigit]
  cases hexValue? b with
  | none => exact ⟨nofun, nofun⟩
  | some value =>
    constructor
    · rintro ⟨⟩
      rfl
    · rintro ⟨⟩
      rfl

theorem hexPair_ofNat {high low : Nat} (hhigh : high < 16) (hlow : low < 16) :
    hexPair (UInt8.ofNat (high * 16 + low)) = [high.digitChar, low.digitChar] := by
  have hvalue : (UInt8.ofNat (high * 16 + low)).toNat = high * 16 + low := by
    rw [UInt8.toNat_ofNat']
    omega
  rw [hexPair, hvalue, hexDigit, hexDigit]
  rw [show (high * 16 + low) / 16 % 16 = high by omega, show (high * 16 + low) % 16 = low by omega]

/-- What is read from digits is written with the same digits, lowered. -/
theorem map_toLower_of_readHexPairs {index : Nat} {bs bytes : List UInt8}
    (heven : bs.length % 2 = 0) (h : readHexPairs index bs = .ok bytes) :
    bs.map (fun b => (charOfByte b).toLower) = hexChars bytes := by
  fun_induction readHexPairs index bs generalizing bytes with
  | case1 => cases h
  | case2 => cases h
  | case3 => cases h
  | case4 index a b r high hhigh low hlow rest hrest ih =>
    cases h
    obtain ⟨hhighlt, ha⟩ := readHexDigit_eq_ok_iff.1 hhigh
    obtain ⟨hlowlt, hb⟩ := readHexDigit_eq_ok_iff.1 hlow
    simp only [List.length_cons] at heven
    rw [List.map_cons, List.map_cons, ha, hb, ih (by omega) hrest, hexChars_cons,
      hexPair_ofNat hhighlt hlowlt]
    rfl
  | case5 bs _ hshort =>
    cases h
    rcases bs with _ | ⟨a, _ | ⟨b, r⟩⟩
    · rfl
    · cases heven
    · exact (hshort a b r rfl).elim

theorem map_toLower_of_readHex {cs : List Char} {bs : List UInt8}
    (h : readHex (utf8 cs) = .ok bs) : cs.map Char.toLower = hexChars bs := by
  have hdigits := (exists_readHex_utf8_iff.1 ⟨bs, h, rfl⟩).2
  rw [readHex] at h
  split at h
  · cases h
  · have hlowered := map_toLower_of_readHexPairs (by omega) h
    rw [← hlowered]
    nth_rewrite 1 [← map_charOfByte_utf8 hdigits]
    rw [List.map_map]
    rfl

/-- Bytes are read from the characters that are their own digits once they are lowered. -/
theorem readHex_eq_ok_iff {cs : List Char} {bs : List UInt8} :
    readHex (utf8 cs) = .ok bs ↔ cs.map Char.toLower = hexChars bs := by
  constructor
  · exact map_toLower_of_readHex
  · intro h
    have hlength : cs.length = 2 * bs.length := by
      rw [← length_hexChars, ← h, List.length_map]
    obtain ⟨bytes, hread, -⟩ :=
      exists_readHex_utf8_iff.2 ⟨hlength, forall_isHexDigit_of_map_toLower h⟩
    -- no other bytes are written with these digits
    have heq : bs = bytes := hexChars_injective (h.symm.trans (map_toLower_of_readHex hread))
    rw [heq]
    exact hread

/-! ### The first byte that is no digit -/

/-- A byte is no digit, and all bytes before it are. -/
structure IsFirstBad (bs : List UInt8) (i : Nat) (b : UInt8) : Prop where
  get : bs[i]? = some b
  bad : ¬ IsHexDigit (charOfByte b)
  before : ∀ c ∈ bs.take i, IsHexDigit (charOfByte c)

namespace IsFirstBad

variable {bs : List UInt8} {i j : Nat} {a b c : UInt8}

theorem head (h : ¬ IsHexDigit (charOfByte a)) : IsFirstBad (a :: bs) 0 a :=
  ⟨rfl, h, fun _ hc => absurd hc List.not_mem_nil⟩

theorem tail (ha : IsHexDigit (charOfByte a)) (h : IsFirstBad bs i b) :
    IsFirstBad (a :: bs) (i + 1) b :=
  ⟨h.get, h.bad, List.forall_mem_cons.2 ⟨ha, h.before⟩⟩

theorem le (h : IsFirstBad bs i b) (h' : IsFirstBad bs j c) : i ≤ j := by
  apply Nat.le_of_not_lt
  intro hlt
  have hmem : c ∈ bs.take i := List.mem_of_getElem? (List.getElem?_take_of_lt hlt ▸ h'.get)
  exact h'.bad (h.before c hmem)

theorem unique (h : IsFirstBad bs i b) (h' : IsFirstBad bs j c) : i = j ∧ b = c := by
  have hij : i = j := Nat.le_antisymm (h.le h') (h'.le h)
  subst hij
  exact ⟨rfl, Option.some.inj (h.get.symm.trans h'.get)⟩

end IsFirstBad

theorem not_isHexDigit_of_readHexDigit {index : Nat} {b : UInt8} {e : HexFault}
    (h : readHexDigit index b = .error e) :
    ¬ IsHexDigit (charOfByte b) ∧ e = .invalidCharacter (charOfByte b) index := by
  constructor
  · intro hdigit
    obtain ⟨d, hd⟩ := (exists_readHexDigit_iff index).2 (isHexByte_iff.2 hdigit)
    rw [hd] at h
    cases h
  · unfold readHexDigit at h
    split at h
    · cases h
    · cases h
      rfl

theorem isHexDigit_of_readHexDigit {index d : Nat} {b : UInt8}
    (h : readHexDigit index b = .ok d) : IsHexDigit (charOfByte b) :=
  isHexByte_iff.1 ((exists_readHexDigit_iff index).1 ⟨d, h⟩)

theorem exists_isFirstBad_of_readHexPairs {index : Nat} {bs : List UInt8} {e : HexFault}
    (h : readHexPairs index bs = .error e) :
    ∃ i b, IsFirstBad bs i b ∧ e = .invalidCharacter (charOfByte b) (index + i) := by
  fun_induction readHexPairs index bs with
  | case1 index a b r fault hread =>
    cases h
    obtain ⟨hbad, rfl⟩ := not_isHexDigit_of_readHexDigit hread
    exact ⟨0, a, .head hbad, rfl⟩
  | case2 index a b r high hhigh fault hread =>
    cases h
    obtain ⟨hbad, rfl⟩ := not_isHexDigit_of_readHexDigit hread
    exact ⟨1, b, .tail (isHexDigit_of_readHexDigit hhigh) (.head hbad), rfl⟩
  | case3 index a b r high hhigh low hlow fault hread ih =>
    cases h
    obtain ⟨i, bad, hfirst, rfl⟩ := ih hread
    have hpair := (hfirst.tail (isHexDigit_of_readHexDigit hlow)).tail
      (isHexDigit_of_readHexDigit hhigh)
    refine ⟨i + 2, bad, hpair, ?_⟩
    rw [Nat.add_assoc, Nat.add_comm 2 i]
  | case4 => cases h
  | case5 => cases h

theorem readHex_eq_oddLength_iff {bs : List UInt8} {n : Nat} :
    readHex bs = .error (.oddLength n) ↔ n = bs.length ∧ n % 2 = 1 := by
  rw [readHex]
  split
  · rename_i hodd
    constructor
    · rintro ⟨⟩
      exact ⟨rfl, hodd⟩
    · rintro ⟨rfl, -⟩
      rfl
  · rename_i heven
    constructor
    · intro h
      obtain ⟨i, b, -, he⟩ := exists_isFirstBad_of_readHexPairs h
      cases he
    · rintro ⟨rfl, hodd⟩
      exact absurd hodd heven

/-- The first byte that is no digit is the one that is named, and only in a text of even length. -/
theorem readHex_eq_invalidCharacter_iff {bs : List UInt8} {c : Char} {i : Nat} :
    readHex bs = .error (.invalidCharacter c i) ↔
      bs.length % 2 = 0 ∧ ∃ b, IsFirstBad bs i b ∧ c = charOfByte b := by
  rw [readHex]
  split
  · constructor
    · rintro ⟨⟩
    · rintro ⟨heven, -⟩
      omega
  · have heven : bs.length % 2 = 0 := by omega
    constructor
    · intro h
      obtain ⟨j, b, hfirst, he⟩ := exists_isFirstBad_of_readHexPairs h
      cases he
      rw [Nat.zero_add]
      exact ⟨heven, b, hfirst, rfl⟩
    · rintro ⟨-, b, hfirst, rfl⟩
      cases hread : readHexPairs 0 bs with
      | ok bytes =>
        have hall := (exists_readHexPairs_iff 0 heven).1 ⟨bytes, hread⟩
        exact absurd (isHexByte_iff.1 (hall b (List.mem_of_getElem? hfirst.get))) hfirst.bad
      | error e =>
        obtain ⟨j, b', hfirst', rfl⟩ := exists_isFirstBad_of_readHexPairs hread
        obtain ⟨rfl, rfl⟩ := hfirst.unique hfirst'
        rw [Nat.zero_add]

end GasLens.Text

namespace GasLens.Bytecode

open GasLens.Text

/-! ### Digits behind a mark -/

/-- What stands behind one mark, or the whole text where none stands in front. -/
inductive IsBehindMark : List Char → List Char → Prop
  | lower (digits : List Char) : IsBehindMark ('0' :: 'x' :: digits) digits
  | upper (digits : List Char) : IsBehindMark ('0' :: 'X' :: digits) digits
  | bare {digits : List Char} (hlower : ¬ ['0', 'x'] <+: digits)
      (hupper : ¬ ['0', 'X'] <+: digits) : IsBehindMark digits digits

/-- The digits of a code text: behind one mark, and without the white space around both. -/
def IsCodeOf (text : String) (digits : List Char) : Prop :=
  ∃ body, IsTrimmed text.toList body ∧ IsBehindMark body digits

theorem isBehindMark_iff {body digits : List Char} :
    IsBehindMark body digits ↔ dropHexMark body = digits := by
  constructor
  · intro h
    cases h with
    | lower => rfl
    | upper => rfl
    | bare hlower hupper =>
      unfold dropHexMark
      split
      · exact absurd (List.prefix_append _ _) hlower
      · exact absurd (List.prefix_append _ _) hupper
      · rfl
  · rintro rfl
    unfold dropHexMark
    split
    · exact .lower _
    · exact .upper _
    · rename_i hlower hupper
      exact .bare (fun ⟨r, hr⟩ => hlower r hr.symm) (fun ⟨r, hr⟩ => hupper r hr.symm)

theorem isCodeOf_iff {text : String} {digits : List Char} :
    IsCodeOf text digits ↔ codeDigits text = digits := by
  unfold IsCodeOf codeDigits
  simp only [← trim_eq_iff, exists_eq_left', isBehindMark_iff]

/-- What may stand in front of the digits of a code: no mark, or one in either case. -/
def codeMarks : List (List Char) := [[], ['0', 'x'], ['0', 'X']]

/-- Digits stand behind a mark, in either case of its letter, and need none. -/
theorem isBehindMark_of_isHexDigit {mark digits : List Char}
    (hmark : mark ∈ codeMarks) (hdigits : ∀ c ∈ digits, IsHexDigit c) :
    IsBehindMark (mark ++ digits) digits := by
  -- the letter of a mark is no digit
  have hletter : ∀ c ∈ ['x', 'X'], ¬ IsHexDigit c := by
    simp only [isHexDigit_iff]
    rintro c hc ⟨d, hd⟩
    simp only [List.mem_cons, List.not_mem_nil, or_false] at hc
    rcases hc with rfl | rfl <;> cases hd
  simp only [codeMarks, List.mem_cons, List.not_mem_nil, or_false] at hmark
  rcases hmark with rfl | rfl | rfl
  · refine .bare (fun hmarked => ?_) (fun hmarked => ?_)
    · exact hletter 'x' (by simp) (hdigits 'x' (hmarked.subset (by simp)))
    · exact hletter 'X' (by simp) (hdigits 'X' (hmarked.subset (by simp)))
  · exact .lower digits
  · exact .upper digits

/-! ### The outcome of reading -/

/-- What reading makes of the digits of a text: which fault they have, and which bytes they are. -/
structure ReadAs (digits : List Char) (outcome : Except DecodeFault (List UInt8)) : Prop where
  empty_iff : outcome = .error .empty ↔ digits = []
  oddLength_iff (n : Nat) :
    outcome = .error (.oddLength n) ↔ n = (utf8 digits).length ∧ n % 2 = 1
  invalidHex_iff (c : Char) (i : Nat) : outcome = .error (.invalidHex c i) ↔
    (utf8 digits).length % 2 = 0 ∧ ∃ b, IsFirstBad (utf8 digits) i b ∧ c = charOfByte b
  ok_iff (bs : List UInt8) :
    outcome = .ok bs ↔ bs ≠ [] ∧ digits.map Char.toLower = hexChars bs
  /-- Nothing but pairs of digits is read, and all of them are. -/
  exists_ok_iff : (∃ bs, outcome = .ok bs) ↔
    digits ≠ [] ∧ digits.length % 2 = 0 ∧ ∀ c ∈ digits, IsHexDigit c

theorem readAs_nil : ReadAs [] (.error .empty) where
  empty_iff := by simp
  oddLength_iff n := by
    constructor
    · rintro ⟨⟩
    · rintro ⟨rfl, hodd⟩
      cases hodd
  invalidHex_iff c i := by
    constructor
    · rintro ⟨⟩
    · rintro ⟨-, b, hfirst, -⟩
      cases hfirst.get
  ok_iff bs := by
    constructor
    · rintro ⟨⟩
    · rintro ⟨hne, htext⟩
      have hnil : hexChars [] = hexChars bs := htext
      exact absurd (hexChars_injective hnil).symm hne
  exists_ok_iff := by simp

theorem decodeFaultOf_injective : Function.Injective decodeFaultOf := by
  intro e e' h
  cases e <;> cases e' <;> cases h <;> rfl

theorem readAs_readHex {digits : List Char} (hne : digits ≠ []) :
    ReadAs digits ((readHex (utf8 digits)).mapError decodeFaultOf) where
  empty_iff := by
    cases readHex (utf8 digits) with
    | ok bs => simp [Except.mapError, hne]
    | error e => cases e <;> simp [Except.mapError, decodeFaultOf, hne]
  oddLength_iff n := by
    rw [← readHex_eq_oddLength_iff]
    exact mapError_eq_error_iff decodeFaultOf_injective (e := .oddLength n)
  invalidHex_iff c i := by
    rw [← readHex_eq_invalidCharacter_iff]
    exact mapError_eq_error_iff decodeFaultOf_injective (e := .invalidCharacter c i)
  ok_iff bs := by
    rw [mapError_eq_ok_iff, readHex_eq_ok_iff]
    constructor
    · intro htext
      refine ⟨?_, htext⟩
      rintro rfl
      exact hne (List.map_eq_nil_iff.1 htext)
    · exact And.right
  exists_ok_iff := by
    simp only [mapError_eq_ok_iff]
    constructor
    · rintro ⟨bs, hread⟩
      obtain ⟨hlength, hdigits⟩ := exists_readHex_utf8_iff.1 ⟨bs, hread, rfl⟩
      exact ⟨hne, by omega, hdigits⟩
    · rintro ⟨-, heven, hdigits⟩
      have hlength : digits.length = 2 * (digits.length / 2) := by omega
      obtain ⟨bs, hread, -⟩ := exists_readHex_utf8_iff.2 ⟨hlength, hdigits⟩
      exact ⟨bs, hread⟩

theorem readAs_bytesOfText {text : String} {digits : List Char} (h : IsCodeOf text digits) :
    ReadAs digits (bytesOfText text) := by
  rw [isCodeOf_iff] at h
  subst h
  unfold bytesOfText
  split
  · rename_i hnil
    rw [hnil]
    exact readAs_nil
  · rename_i hne
    exact readAs_readHex hne

/-! ### Written bytes -/

theorem isBlank_eq_false_of_isHexDigit {c : Char} (h : IsHexDigit c) : isBlank c = false := by
  obtain ⟨d, hd, hc⟩ := h
  interval_cases d <;> rcases hc with rfl | rfl <;> rfl

/-- Neither a mark nor a digit is white space. -/
theorem isBlank_eq_false_of_mem {mark digits : List Char}
    (hmark : mark ∈ codeMarks) (hdigits : ∀ c ∈ digits, IsHexDigit c) {c : Char}
    (hc : c ∈ mark ++ digits) : isBlank c = false := by
  rcases List.mem_append.1 hc with hc | hc
  · have hmarks : (codeMarks.all fun mark => mark.all fun c => !isBlank c) = true := by decide
    have hnot := List.all_eq_true.1 (List.all_eq_true.1 hmarks mark hmark) c hc
    exact (Bool.not_eq_true' _).mp hnot
  · exact isBlank_eq_false_of_isHexDigit (hdigits c hc)

theorem isCodeOf_of_isHexDigit {front mark digits back : List Char}
    (hfront : ∀ c ∈ front, isBlank c = true) (hback : ∀ c ∈ back, isBlank c = true)
    (hmark : mark ∈ codeMarks) (hdigits : ∀ c ∈ digits, IsHexDigit c) :
    IsCodeOf (String.ofList (front ++ (mark ++ digits) ++ back)) digits := by
  have hinner : ∀ c ∈ mark ++ digits, isBlank c = false := fun _ =>
    isBlank_eq_false_of_mem hmark hdigits
  refine ⟨mark ++ digits, ⟨⟨front, back, String.toList_ofList, hfront, hback⟩, ?_, ?_⟩,
    isBehindMark_of_isHexDigit hmark hdigits⟩
  · exact fun c hc => hinner c (List.mem_of_head? hc)
  · exact fun c hc => hinner c (List.mem_of_getLast? hc)

end GasLens.Bytecode

namespace GasLens.Source

open GasLens.Text GasLens.Bytecode

/-! ### Codes of a map -/

theorem noCode_iff {text : String} : NoCode (some text) ↔ bytesOfText text = .error .empty := by
  rw [(readAs_bytesOfText (isCodeOf_iff.2 rfl)).empty_iff, codeDigits, dropHexMark_eq_nil_iff]
  constructor
  · exact fun h => h text rfl
  · rintro h _ ⟨⟩
    exact h

theorem presentCode?_eq_none_iff {text : String} :
    presentCode? (some text) = none ↔ bytesOfText text = .error .empty := by
  rw [← noCode_iff]
  constructor
  · intro h
    by_contra hpresent
    rw [presentCode?_eq_some hpresent] at h
    cases h
  · exact presentCode?_eq_none

/-- A code of white space counts as no code at all, so no empty one is left to be read. -/
theorem buildPcLineMap_ne_empty (sourceMap code : Option String) (source : String)
    (policy : EmptyFieldPolicy) :
    buildPcLineMap sourceMap code source policy ≠ .error (.decode .empty) := by
  intro h
  by_cases hmissing : NoMap sourceMap ∨ NoCode code
  · rw [buildPcLineMap_of_missing hmissing] at h
    cases h
  · obtain ⟨m, c, rfl, rfl, hm, hc⟩ := exists_of_not_missing hmissing
    rw [buildPcLineMap_of_present hm hc] at h
    cases hb : bytesOfText c with
    | error cause =>
      rw [decodeText, hb] at h
      cases h
      exact hc (noCode_iff.2 hb)
    | ok bytes =>
      rw [decodeText_of_bytesOfText hb] at h
      cases hp : readPositions policy m with
      | error fault =>
        rw [hp] at h
        cases h
      | ok positions =>
        rw [hp] at h
        cases h

/-- **Every code text is read, or has one fault.** Each text has the digits of one code. They are
read as the bytes that are written with them, in either case of the letters, and the first fault
that they have is the one that is told. So bytes that are written as digits are read back, from
behind any mark and between any white space. A map takes a code for missing just if reading it
would find it empty; hence it never fails with an empty code. -/
theorem code_texts_are_read :
    (∀ text, ∃! digits, IsCodeOf text digits) ∧
    (∀ text digits, IsCodeOf text digits → ReadAs digits (bytesOfText text)) ∧
    (∀ bs digits front mark back, bs ≠ [] → digits.map Char.toLower = hexChars bs →
      mark ∈ codeMarks →
      (∀ c ∈ front, isBlank c = true) → (∀ c ∈ back, isBlank c = true) →
      bytesOfText (String.ofList (front ++ (mark ++ digits) ++ back)) = .ok bs) ∧
    (∀ text, presentCode? (some text) = none ↔ bytesOfText text = .error .empty) ∧
    ∀ sourceMap code source policy,
      buildPcLineMap sourceMap code source policy ≠ .error (.decode .empty) := by
  refine ⟨?_, ?_, ?_, ?_, ?_⟩
  · intro text
    exact ⟨codeDigits text, isCodeOf_iff.2 rfl, fun _ h => (isCodeOf_iff.1 h).symm⟩
  · intro text digits hcode
    exact readAs_bytesOfText hcode
  · intro bs digits front mark back hne htext hmark hfront hback
    have hdigits := forall_isHexDigit_of_map_toLower htext
    have hread := readAs_bytesOfText (isCodeOf_of_isHexDigit hfront hback hmark hdigits)
    exact (hread.ok_iff bs).2 ⟨hne, htext⟩
  · intro text
    exact presentCode?_eq_none_iff
  · exact buildPcLineMap_ne_empty

/-- Two bytes in letters of both cases, behind a mark and between white space. -/
theorem code_texts_are_read_mixed_case :
    bytesOfText (String.ofList ([' ', '\t'] ++ (['0', 'X'] ++ ['d', 'E', 'A', 'd']) ++ ['\n'])) =
      .ok [0xde, 0xad] := by
  have hfront : [' ', '\t'].all isBlank = true := by decide
  have hback : ['\n'].all isBlank = true := by decide
  exact code_texts_are_read.2.2.1 [0xde, 0xad] ['d', 'E', 'A', 'd'] [' ', '\t'] ['0', 'X'] ['\n']
    (by decide) (by decide) (by decide) (List.all_eq_true.1 hfront) (List.all_eq_true.1 hback)

end GasLens.Source
