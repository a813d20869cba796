/-
  GasLens/Proofs/SourceMapText.lean
  =================================
  **Writing source maps** — every way to write a list of positions is read back as that list.

  `Writes` says which texts a record may have: its fields between colons, an absent one empty,
  and any number of empty fields at the end left out. `Shortens` says which fields a compiler may
  leave empty because they repeat the record before. Reading under the policy that repeats
  undoes the second, since what it fills in is taken from the record before as it was filled
  itself (`filledFrom_of_shortens`), however long a run of empty fields is.
-/
import GasLens.Proofs.Numerals
import GasLens.Source.Position
import Mathlib.Data.List.Forall2

namespace GasLens.Source

open GasLens.Text

/-! ### Texts of fields and records -/

/-- The text of a number that may be absent. -/
def numberText : Option Int → List Char
  | some n => (intText n).toList
  | none => []

def jumpText : Option Jump → List Char
  | some j => [j.symbol]
  | none => []

/-- The texts of the five fields in their order. -/
def fieldTexts (p : Position) : List (List Char) :=
  [numberText p.start, numberText p.length, numberText p.file, jumpText p.jump,
    numberText p.modifier]

/-- A text writes a position if it holds the fields between colons, where empty fields at the end
may be left out with their colons. -/
def Writes (p : Position) (raw : List Char) : Prop :=
  ∃ fields k, fieldTexts p = fields ++ List.replicate k [] ∧ raw = [':'].intercalate fields

/-- The text of a source map with these records. -/
def mapText (raws : List (List Char)) : String := String.ofList ([';'].intercalate raws)

/-- The numbers of a position are whole numbers of 64 bits. -/
structure Position.Fits (p : Position) : Prop where
  start : ∀ n, p.start = some n → IsInt64 n
  length : ∀ n, p.length = some n → IsInt64 n
  file : ∀ n, p.file = some n → IsInt64 n
  modifier : ∀ n, p.modifier = some n → IsInt64 n

/-! ### Separators do not occur inside fields -/

theorem split_eq_splitOn (sep : Char) (cs : List Char) : split sep cs = cs.splitOn sep := by
  induction cs with
  | nil => rw [List.splitOn_nil]; rfl
  | cons c cs ih =>
    rw [List.splitOn_cons_eq_if_modifyHead, split, ih]
    by_cases h : c = sep
    · simp [h]
    · simp only [h, beq_iff_eq, if_false]
      cases hs : cs.splitOn sep with
      | nil => exact absurd hs (List.splitOn_ne_nil sep cs)
      | cons piece pieces => rfl

theorem split_intercalate {sep : Char} {pieces : List (List Char)} (hne : pieces ≠ [])
    (h : ∀ piece ∈ pieces, sep ∉ piece) : split sep ([sep].intercalate pieces) = pieces := by
  rw [split_eq_splitOn]
  exact List.splitOn_intercalate sep h hne

theorem not_mem_numberText {c : Char} (hd : c.isDigit = false) (hm : c ≠ '-') (o : Option Int) :
    c ∉ numberText o := by
  cases o with
  | none => exact List.not_mem_nil
  | some n =>
    intro hmem
    rcases isDigit_or_minus_of_mem_intText hmem with h | h
    · rw [hd] at h
      cases h
    · exact hm h

theorem not_mem_jumpText {c : Char} (h : ∀ j, c ≠ Jump.symbol j) (o : Option Jump) :
    c ∉ jumpText o := by
  cases o with
  | none => exact List.not_mem_nil
  | some j => exact fun hmem => h j (List.mem_singleton.1 hmem)

/-- A character that is no digit, no minus and no jump is in no field. -/
theorem not_mem_fieldTexts {c : Char} (hd : c.isDigit = false) (hm : c ≠ '-')
    (hj : ∀ j, c ≠ Jump.symbol j) (p : Position) : ∀ field ∈ fieldTexts p, c ∉ field := by
  intro field hfield
  simp only [fieldTexts, List.mem_cons, List.not_mem_nil, or_false] at hfield
  rcases hfield with rfl | rfl | rfl | rfl | rfl
  · exact not_mem_numberText hd hm _
  · exact not_mem_numberText hd hm _
  · exact not_mem_numberText hd hm _
  · exact not_mem_jumpText hj _
  · exact not_mem_numberText hd hm _

theorem colon_not_mem_fieldTexts (p : Position) : ∀ field ∈ fieldTexts p, ':' ∉ field :=
  not_mem_fieldTexts (by decide) (by decide) (fun j => by cases j <;> decide) p

theorem semicolon_not_mem_fieldTexts (p : Position) : ∀ field ∈ fieldTexts p, ';' ∉ field :=
  not_mem_fieldTexts (by decide) (by decide) (fun j => by cases j <;> decide) p

theorem mem_intercalate {α : Type} {sep : List α} {pieces : List (List α)} {a : α}
    (h : a ∈ sep.intercalate pieces) : a ∈ sep ∨ ∃ piece ∈ pieces, a ∈ piece := by
  induction pieces with
  | nil => cases h
  | cons piece pieces ih =>
    cases pieces with
    | nil =>
      rw [List.intercalate_singleton] at h
      exact Or.inr ⟨piece, List.mem_cons_self, h⟩
    | cons next rest =>
      rw [List.intercalate_cons_cons, List.mem_append, List.mem_append] at h
      rcases h with (hpiece | hsep) | hrest
      · exact Or.inr ⟨piece, List.mem_cons_self, hpiece⟩
      · exact Or.inl hsep
      · rcases ih hrest with hsep | ⟨p, hp, ha⟩
        · exact Or.inl hsep
        · exact Or.inr ⟨p, List.mem_cons_of_mem piece hp, ha⟩

theorem Writes.semicolon_not_mem {p : Position} {raw : List Char} (h : Writes p raw) :
    ';' ∉ raw := by
  obtain ⟨fields, k, hfields, rfl⟩ := h
  intro hmem
  rcases mem_intercalate hmem with hcolon | ⟨field, hfield, hin⟩
  · exact absurd (List.mem_singleton.1 hcolon) (by decide)
  · exact semicolon_not_mem_fieldTexts p field (hfields ▸ List.mem_append_left _ hfield) hin

/-! ### Reading one record -/

theorem readNumberField_numberText (record : Nat) (field : MapField) {o : Option Int}
    (h : ∀ n, o = some n → IsInt64 n) :
    readNumberField record field (numberText o) = .ok o := by
  cases o with
  | none => rfl
  | some n =>
    have hne : (intText n).toList.isEmpty = false :=
      List.isEmpty_eq_false_iff.2 (intText_ne_nil n)
    simp [readNumberField, numberText, hne, readInt64_intText (h n rfl)]

theorem readJumpField_jumpText (record : Nat) (o : Option Jump) :
    readJumpField record (jumpText o) = .ok o := by
  cases o with
  | none => rfl
  | some j => cases j <;> rfl

/-- A field that is left out at the end is as empty as one that is written empty. -/
theorem Writes.fieldAt_split {p : Position} {raw : List Char} (h : Writes p raw) (n : Nat) :
    fieldAt (split ':' raw) n = fieldAt (fieldTexts p) n := by
  obtain ⟨fields, k, hfields, rfl⟩ := h
  have hcolon : ∀ field ∈ fields, ':' ∉ field := fun field hfield =>
    colon_not_mem_fieldTexts p field (hfields ▸ List.mem_append_left _ hfield)
  have hleft : fieldAt (split ':' ([':'].intercalate fields)) n = fieldAt fields n := by
    by_cases hne : fields = []
    · subst hne
      cases n <;> rfl
    · rw [split_intercalate hne hcolon]
  have hright : fieldAt (fields ++ List.replicate k []) n = fieldAt fields n := by
    simp only [fieldAt, List.getD_eq_getElem?_getD]
    by_cases hn : n < fields.length
    · rw [List.getElem?_append_left hn]
    · have hge : fields.length ≤ n := Nat.not_lt.1 hn
      rw [List.getElem?_append_right hge, List.getElem?_eq_none hge, List.getElem?_replicate]
      split <;> rfl
  rw [hleft, hfields, hright]

theorem Writes.readRecord {p : Position} {raw : List Char} (h : Writes p raw) (hp : p.Fits)
    (record : Nat) : readRecord record raw = .ok p := by
  simp only [Source.readRecord, h.fieldAt_split]
  have hstart := readNumberField_numberText record .start hp.start
  have hlength := readNumberField_numberText record .length hp.length
  have hfile := readNumberField_numberText record .file hp.file
  have hjump := readJumpField_jumpText record p.jump
  have hmodifier := readNumberField_numberText record .modifier hp.modifier
  simp only [fieldTexts, fieldAt, List.getD_cons_zero, List.getD_cons_succ, hstart, hlength,
    hfile, hjump, hmodifier]
  rfl

/-! ### Reading all records -/

theorem readRecords_of_writes {ps : List Position} {raws : List (List Char)}
    (h : List.Forall₂ Writes ps raws) (hfits : ∀ p ∈ ps, p.Fits) (record : Nat) :
    readRecords record raws = .ok ps := by
  induction h generalizing record with
  | nil => rfl
  | @cons p raw ps raws hwrites _ ih =>
    have hhead := hwrites.readRecord (hfits p List.mem_cons_self) record
    have htail := ih (fun q hq => hfits q (List.mem_cons_of_mem p hq)) (record + 1)
    rw [readRecords, hhead, htail]
    rfl

theorem semicolon_not_mem_of_writes {ps : List Position} {raws : List (List Char)}
    (h : List.Forall₂ Writes ps raws) : ∀ raw ∈ raws, ';' ∉ raw := by
  induction h with
  | nil => exact fun raw hraw => absurd hraw List.not_mem_nil
  | cons hwrites _ ih =>
    intro raw hraw
    rcases List.mem_cons.1 hraw with rfl | hmem
    · exact hwrites.semicolon_not_mem
    · exact ih raw hmem

/-- A source map is read record by record. -/
theorem readPositions_mapText {ps : List Position} {raws : List (List Char)} (hne : ps ≠ [])
    (h : List.Forall₂ Writes ps raws) (hfits : ∀ p ∈ ps, p.Fits) (policy : EmptyFieldPolicy) :
    readPositions policy (mapText raws) = .ok (policy.apply ps) := by
  have hraws : raws ≠ [] := by
    intro hnil
    subst hnil
    cases h
    exact hne rfl
  rw [readPositions, mapText, String.toList_ofList,
    split_intercalate hraws (semicolon_not_mem_of_writes h), readRecords_of_writes h hfits]
  rfl

/-! ### Leaving out what repeats -/

/-- All five fields of a position are present. -/
structure Position.Complete (p : Position) : Prop where
  start : p.start.isSome
  length : p.length.isSome
  file : p.file.isSome
  jump : p.jump.isSome
  modifier : p.modifier.isSome

/-- A field is written as it is, or left empty where it repeats the one before. -/
def ShortField {α : Type} (previous field written : Option α) : Prop :=
  written = field ∨ written = none ∧ field = previous

/-- Each field of a position is written as it is, or left empty where it repeats the one of the
position before. -/
structure Shortens (previous p written : Position) : Prop where
  start : ShortField previous.start p.start written.start
  length : ShortField previous.length p.length written.length
  file : ShortField previous.file p.file written.file
  jump : ShortField previous.jump p.jump written.jump
  modifier : ShortField previous.modifier p.modifier written.modifier

/-- Positions behind a previous one, and how they are written with repeated fields left empty. -/
inductive ShortenedFrom : Position → List Position → List Position → Prop where
  | nil (previous : Position) : ShortenedFrom previous [] []
  | cons {previous p written : Position} {ps qs : List Position} :
      Shortens previous p written → ShortenedFrom p ps qs →
      ShortenedFrom previous (p :: ps) (written :: qs)

/-- Positions of which the first one is written in full. -/
inductive Shortened : List Position → List Position → Prop where
  | first {p : Position} {ps qs : List Position} :
      ShortenedFrom p ps qs → Shortened (p :: ps) (p :: qs)

/-- A field that is present is filled in from the one before where it was left empty. -/
theorem ShortField.orElse {α : Type} {previous field written : Option α}
    (h : ShortField previous field written) (hsome : field.isSome) :
    (written <|> previous) = field := by
  rcases h with rfl | ⟨rfl, rfl⟩
  · obtain ⟨a, rfl⟩ := Option.isSome_iff_exists.1 hsome
    rfl
  · rfl

theorem Shortens.orElse {previous p written : Position} (h : Shortens previous p written)
    (hp : p.Complete) : written.orElse previous = p := by
  simp only [Position.orElse, h.start.orElse hp.start, h.length.orElse hp.length,
    h.file.orElse hp.file, h.jump.orElse hp.jump, h.modifier.orElse hp.modifier]

/-- Filling in gives back what was left out, from one filled position to the next. -/
theorem filledFrom_of_shortenedFrom {previous : Position} {ps qs : List Position}
    (h : ShortenedFrom previous ps qs) (hps : ∀ p ∈ ps, p.Complete) :
    filledFrom previous qs = ps := by
  induction h with
  | nil previous => rfl
  | @cons previous p written ps qs hshort _ ih =>
    have hhead := hshort.orElse (hps p List.mem_cons_self)
    have htail := ih fun q hq => hps q (List.mem_cons_of_mem p hq)
    rw [filledFrom, hhead, htail]

theorem apply_of_shortened {ps qs : List Position} (h : Shortened ps qs)
    (hps : ∀ p ∈ ps, p.Complete) : EmptyFieldPolicy.inheritPrevious.apply qs = ps := by
  cases h with
  | @first p ps qs hrest =>
    have htail := filledFrom_of_shortenedFrom hrest fun q hq =>
      hps q (List.mem_cons_of_mem p hq)
    rw [EmptyFieldPolicy.apply, filledFrom, Position.orElse_blank, htail]

/-! ### What is left out fits as well -/

theorem ShortField.of_eq_some {α : Type} {previous field written : Option α}
    (h : ShortField previous field written) {a : α} (ha : written = some a) : field = some a := by
  rcases h with rfl | ⟨rfl, _⟩
  · exact ha
  · cases ha

theorem Shortens.fits {previous p written : Position} (h : Shortens previous p written)
    (hp : p.Fits) : written.Fits where
  start n hn := hp.start n (h.start.of_eq_some hn)
  length n hn := hp.length n (h.length.of_eq_some hn)
  file n hn := hp.file n (h.file.of_eq_some hn)
  modifier n hn := hp.modifier n (h.modifier.of_eq_some hn)

theorem fits_of_shortenedFrom {previous : Position} {ps qs : List Position}
    (h : ShortenedFrom previous ps qs) (hps : ∀ p ∈ ps, p.Fits) : ∀ q ∈ qs, q.Fits := by
  induction h with
  | nil previous => exact fun q hq => absurd hq List.not_mem_nil
  | @cons previous p written ps qs hshort _ ih =>
    intro q hq
    rcases List.mem_cons.1 hq with rfl | hmem
    · exact hshort.fits (hps p List.mem_cons_self)
    · exact ih (fun r hr => hps r (List.mem_cons_of_mem p hr)) q hmem

theorem fits_of_shortened {ps qs : List Position} (h : Shortened ps qs)
    (hps : ∀ p ∈ ps, p.Fits) : ∀ q ∈ qs, q.Fits := by
  cases h with
  | @first p ps qs hrest =>
    intro q hq
    rcases List.mem_cons.1 hq with rfl | hmem
    · exact hps q List.mem_cons_self
    · exact fits_of_shortenedFrom hrest (fun r hr => hps r (List.mem_cons_of_mem p hr)) q hmem

/-! ### Both readings -/

/-- **Reading undoes writing.** Positions that are written as they are, with absent fields empty,
are read back where an empty field is absent. Positions with all fields, written in full at
first and then with any repeated fields left empty, are read back where an empty field repeats. -/
theorem readPositions_of_written {ps : List Position} (hne : ps ≠ [])
    (hfits : ∀ p ∈ ps, p.Fits) :
    ((∀ p ∈ ps, p.Complete) → ∀ qs raws, Shortened ps qs → List.Forall₂ Writes qs raws →
        readPositions .inheritPrevious (mapText raws) = .ok ps) ∧
      ∀ raws, List.Forall₂ Writes ps raws → readPositions .absent (mapText raws) = .ok ps := by
  constructor
  · intro hcomplete qs raws hshort hwrites
    have hqs : qs ≠ [] := by
      cases hshort
      exact List.cons_ne_nil _ _
    rw [readPositions_mapText hqs hwrites (fits_of_shortened hshort hfits),
      apply_of_shortened hshort hcomplete]
  · intro raws hwrites
    rw [readPositions_mapText hne hwrites hfits]
    rfl

/-- Three positions under the repeating policy: the second one repeats all fields and is written
as nothing, the third one changes its length and file only. And two positions with absent fields,
of which the second one has no field at all. -/
theorem readPositions_of_written_repeated :
    readPositions .inheritPrevious (mapText ["-5:2:0:-:1".toList, [], ":3:7".toList]) =
        .ok [⟨some (-5), some 2, some 0, some .regular, some 1⟩,
          ⟨some (-5), some 2, some 0, some .regular, some 1⟩,
          ⟨some (-5), some 3, some 7, some .regular, some 1⟩] ∧
      readPositions .absent (mapText [":3:7".toList, []]) =
        .ok [⟨none, some 3, some 7, none, none⟩, .blank] := by
  have hpartial : Writes ⟨none, some 3, some 7, none, none⟩ ":3:7".toList :=
    ⟨[[], ['3'], ['7']], 2, by cbv, by cbv⟩
  have hblank : Writes .blank [] := ⟨[], 5, rfl, rfl⟩
  constructor
  · refine (readPositions_of_written (List.cons_ne_nil _ _) ?_).1 ?_
      [⟨some (-5), some 2, some 0, some .regular, some 1⟩, .blank,
        ⟨none, some 3, some 7, none, none⟩] _ ?_ ?_
    · intro p hp
      simp only [List.mem_cons, List.not_mem_nil, or_false] at hp
      rcases hp with rfl | rfl | rfl <;> constructor <;> intro n hn <;> cases hn <;> decide
    · intro p hp
      simp only [List.mem_cons, List.not_mem_nil, or_false] at hp
      rcases hp with rfl | rfl | rfl <;> constructor <;> rfl
    · have hsecond : Shortens ⟨some (-5), some 2, some 0, some .regular, some 1⟩
          ⟨some (-5), some 2, some 0, some .regular, some 1⟩ .blank := by
        constructor <;> exact Or.inr ⟨rfl, rfl⟩
      have hthird : Shortens ⟨some (-5), some 2, some 0, some .regular, some 1⟩
          ⟨some (-5), some 3, some 7, some .regular, some 1⟩
          ⟨none, some 3, some 7, none, none⟩ :=
        ⟨Or.inr ⟨rfl, rfl⟩, Or.inl rfl, Or.inl rfl, Or.inr ⟨rfl, rfl⟩, Or.inr ⟨rfl, rfl⟩⟩
      exact .first (.cons hsecond (.cons hthird (.nil _)))
    · have hfirst : Writes ⟨some (-5), some 2, some 0, some .regular, some 1⟩
          "-5:2:0:-:1".toList := ⟨_, 0, (List.append_nil _).symm, by cbv⟩
      exact .cons hfirst (.cons hblank (.cons hpartial .nil))
  · refine (readPositions_of_written (List.cons_ne_nil _ _) ?_).2 _
      (.cons hpartial (.cons hblank .nil))
    intro p hp
    simp only [List.mem_cons, List.not_mem_nil, or_false] at hp
    rcases hp with rfl | rfl <;> constructor <;> intro n hn <;> cases hn <;> decide

end GasLens.Source
