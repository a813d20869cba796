/-
  GasLens/Proofs/JsonWords.lean
  =============================
  **Integers of documents that were read** — all of them fit 64 bits.

  An integer that does not fit is read as a double, so no integer of a document is ever greater
  than a word can hold, however deep it stands. What is not wanted is kept as null and holds no
  numbers at all.
-/
import GasLens.Json.Reader
import GasLens.Proofs.JsonNumbers

namespace GasLens.Json

open GasLens.Text

mutual

/-- All integers of a document fit 64 bits. -/
def Fits : Json → Prop
  | .number n => FitsWord n
  | .array items => FitsItems items
  | .object members => FitsMembers members
  | _ => True

/-- All integers of documents fit 64 bits. -/
def FitsItems : List Json → Prop
  | [] => True
  | j :: r => Fits j ∧ FitsItems r

/-- All integers in the values of members fit 64 bits. -/
def FitsMembers : List (String × Json) → Prop
  | [] => True
  | (_, j) :: r => Fits j ∧ FitsMembers r

end

theorem FitsItems.of_mem {js : List Json} (h : FitsItems js) {j : Json} (hj : j ∈ js) : Fits j := by
  induction js with
  | nil => cases hj
  | cons k js ih =>
    rw [FitsItems] at h
    rcases List.mem_cons.1 hj with rfl | hmem
    · exact h.1
    · exact ih h.2 hmem

theorem FitsMembers.of_mem {ms : List (String × Json)} (h : FitsMembers ms) {m : String × Json}
    (hm : m ∈ ms) : Fits m.2 := by
  induction ms with
  | nil => cases hm
  | cons k ms ih =>
    rw [FitsMembers] at h
    rcases List.mem_cons.1 hm with rfl | hmem
    · exact h.1
    · exact ih h.2 hmem

/-! ### Reading -/

section Steps

variable {fuel : Nat}

/-- What is read with an amount of fuel fits. -/
structure ReadsFitting (fuel : Nat) : Prop where
  value {depth : Nat} {o : Outline} {cs r : List Char} {j : Json} :
    readValue fuel depth o cs = some (j, r) → Fits j
  items {depth : Nat} {o : Outline} {cs r : List Char} {js : List Json} :
    readItems fuel depth o cs = some (js, r) → FitsItems js
  members {depth : Nat} {o : Outline} {cs r : List Char} {ms : List (String × Json)} :
    readMembers fuel depth o cs = some (ms, r) → FitsMembers ms
  member {depth : Nat} {o : Option Outline} {cs r : List Char} {j : Json} :
    readMember fuel depth o cs = some (j, r) → Fits j

theorem readsFitting_zero : ReadsFitting 0 where
  value h := by rw [readValue] at h; cases h
  items h := by rw [readItems] at h; cases h
  members h := by rw [readMembers] at h; cases h
  member h := by rw [readMember] at h; cases h

theorem fits_of_readWord {word : String} {j k : Json} {cs r : List Char} (hj : Fits j)
    (h : readWord word j cs = some (k, r)) : Fits k := by
  obtain ⟨rest, _, heq⟩ := Option.map_eq_some_iff.1 h
  cases heq
  exact hj

/-- A value is read from its parts, so it fits if they do. -/
theorem ReadsFitting.value_succ (h : ReadsFitting fuel) {depth : Nat} {o : Outline}
    {cs r : List Char} {j : Json} (hread : readValue (fuel + 1) depth o cs = some (j, r)) :
    Fits j := by
  rw [readValue.eq_def] at hread
  simp only at hread
  split at hread
  · split at hread
    · cases hread
    · cases hread
      trivial
    · obtain ⟨⟨ms, rest⟩, hms, heq⟩ := Option.map_eq_some_iff.1 hread
      cases heq
      rw [Fits]
      exact h.members hms
  · split at hread
    · cases hread
    · cases hread
      trivial
    · obtain ⟨⟨js, rest⟩, hjs, heq⟩ := Option.map_eq_some_iff.1 hread
      cases heq
      rw [Fits]
      exact h.items hjs
  · obtain ⟨⟨s, rest⟩, _, heq⟩ := Option.map_eq_some_iff.1 hread
    cases heq
    trivial
  · exact fits_of_readWord (j := .bool true) trivial hread
  · exact fits_of_readWord (j := .bool false) trivial hread
  · exact fits_of_readWord (j := .null) trivial hread
  · obtain ⟨⟨n, rest⟩, hn, heq⟩ := Option.map_eq_some_iff.1 hread
    cases heq
    rw [Fits]
    exact fits_of_readNumber hn

theorem ReadsFitting.items_succ (h : ReadsFitting fuel) {depth : Nat} {o : Outline}
    {cs r : List Char} {js : List Json} (hread : readItems (fuel + 1) depth o cs = some (js, r)) :
    FitsItems js := by
  rw [readItems] at hread
  split at hread
  · cases hread
  · rename_i j rest hj
    split at hread
    · cases hread
      exact ⟨h.value hj, trivial⟩
    · obtain ⟨⟨ks, tail⟩, hks, heq⟩ := Option.map_eq_some_iff.1 hread
      cases heq
      exact ⟨h.value hj, h.items hks⟩
    · cases hread

theorem ReadsFitting.members_succ (h : ReadsFitting fuel) {depth : Nat} {o : Outline}
    {cs r : List Char} {ms : List (String × Json)}
    (hread : readMembers (fuel + 1) depth o cs = some (ms, r)) : FitsMembers ms := by
  rw [readMembers] at hread
  split at hread
  · split at hread
    · cases hread
    · split at hread
      · split at hread
        · cases hread
        · rename_i j rest hj
          split at hread
          · cases hread
            exact ⟨h.member hj, trivial⟩
          · obtain ⟨⟨ks, tail⟩, hks, heq⟩ := Option.map_eq_some_iff.1 hread
            cases heq
            exact ⟨h.member hj, h.members hks⟩
          · cases hread
      · cases hread
  · cases hread

theorem ReadsFitting.member_succ (h : ReadsFitting fuel) {depth : Nat} {o : Option Outline}
    {cs r : List Char} {j : Json} (hread : readMember (fuel + 1) depth o cs = some (j, r)) :
    Fits j := by
  cases o with
  | some o =>
    rw [readMember] at hread
    exact h.value hread
  | none =>
    rw [readMember] at hread
    obtain ⟨rest, _, heq⟩ := Option.map_eq_some_iff.1 hread
    cases heq
    trivial

end Steps

theorem readsFitting (fuel : Nat) : ReadsFitting fuel := by
  induction fuel with
  | zero => exact readsFitting_zero
  | succ fuel ih => exact ⟨ih.value_succ, ih.items_succ, ih.members_succ, ih.member_succ⟩

/-- **All integers of a document that was read fit 64 bits.** -/
theorem fits_of_readOutline? {o : Outline} {s : String} {j : Json}
    (h : readOutline? o s = some j) : Fits j := by
  rw [readOutline?, readAll] at h
  split at h
  · rename_i k rest hread
    split at h
    · cases h
      exact (readsFitting _).value hread
    · cases h
  · cases h

end GasLens.Json
