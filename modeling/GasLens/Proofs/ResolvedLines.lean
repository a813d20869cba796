/-
  GasLens/Proofs/ResolvedLines.lean
  =================================
  **Which offsets are on a line** — the index of a source against the scan of its bytes and
  against the pieces between its newlines.

  A source with one more newline at its end is the sequence of its pieces, each with the newline
  that ends it (`endedBytes_segments`). So a piece begins where the ended pieces before it stop,
  and the newlines before any byte of a piece, its own newline included, are as many as the pieces
  before it (`count_take_firstByte_add`). The newlines before an offset never decrease with the
  offset, hence the offsets of a line are those of one piece and no others.
-/
import GasLens.Proofs.HeatmapLines
import GasLens.Proofs.SourceLines

namespace GasLens.Source

open GasLens.Text

/-! ### The bytes of pieces -/

/-- The bytes of pieces, each with the newline that ends it. -/
def endedBytes (pieces : List (List Char)) : List UInt8 :=
  pieces.flatMap fun piece => utf8 piece ++ [newline]

/-- The offset of the first byte of the piece behind `k` others. -/
def firstByte (pieces : List (List Char)) (k : Nat) : Nat := (endedBytes (pieces.take k)).length

theorem endedBytes_cons (piece : List Char) (pieces : List (List Char)) :
    endedBytes (piece :: pieces) = utf8 piece ++ newline :: endedBytes pieces := by
  rw [endedBytes, List.flatMap_cons, List.append_assoc]
  rfl

theorem endedBytes_split (cs : List Char) :
    endedBytes (split '\n' cs) = utf8 cs ++ [newline] := by
  induction cs with
  | nil => rfl
  | cons c cs ih =>
    by_cases hc : c = '\n'
    · subst hc
      simp only [split, if_pos]
      rw [endedBytes_cons, ih]
      rfl
    · simp only [split, if_neg hc]
      cases hs : split '\n' cs with
      | nil => exact absurd hs (split_ne_nil '\n' cs)
      | cons piece pieces =>
        rw [hs, endedBytes_cons] at ih
        have hcons : ∀ ds : List Char, utf8 (c :: ds) = utf8 [c] ++ utf8 ds :=
          fun ds => utf8_append [c] ds
        simp only
        rw [endedBytes_cons, hcons piece, hcons cs, List.append_assoc, ih, List.append_assoc]

theorem endedBytes_segments (source : String) :
    endedBytes (segments source) = bytesOf source ++ [newline] :=
  endedBytes_split source.toList

theorem not_mem_of_mem_split {sep : Char} {cs piece : List Char} (h : piece ∈ split sep cs) :
    sep ∉ piece := by
  induction cs generalizing piece with
  | nil =>
    rw [List.mem_singleton.1 h]
    exact List.not_mem_nil
  | cons c cs ih =>
    by_cases hc : c = sep
    · simp only [split, if_pos hc] at h
      rcases List.mem_cons.1 h with rfl | hmem
      · exact List.not_mem_nil
      · exact ih hmem
    · simp only [split, if_neg hc] at h
      cases hs : split sep cs with
      | nil => exact absurd hs (split_ne_nil sep cs)
      | cons first pieces =>
        rw [hs] at h ih
        rcases List.mem_cons.1 h with rfl | hmem
        · intro hin
          rcases List.mem_cons.1 hin with heq | hin
          · exact hc heq.symm
          · exact ih List.mem_cons_self hin
        · exact ih (List.mem_cons_of_mem first hmem)

theorem newline_not_mem_utf8 {piece : List Char} (h : '\n' ∉ piece) : newline ∉ utf8 piece := by
  rw [← List.count_eq_zero, count_newline_utf8, List.count_eq_zero]
  exact h

theorem count_newline_endedBytes {pieces : List (List Char)} (h : ∀ piece ∈ pieces, '\n' ∉ piece) :
    (endedBytes pieces).count newline = pieces.length := by
  induction pieces with
  | nil => rfl
  | cons piece pieces ih =>
    have hpiece : (utf8 piece).count newline = 0 :=
      List.count_eq_zero.2 (newline_not_mem_utf8 (h piece List.mem_cons_self))
    have hrest := ih fun p hp => h p (List.mem_cons_of_mem piece hp)
    rw [endedBytes_cons, List.count_append, hpiece, List.count_cons_self, hrest, Nat.zero_add,
      List.length_cons]

/-! ### Newlines before an offset -/

theorem count_take_mono (bytes : List UInt8) {m n : Nat} (h : m ≤ n) :
    (bytes.take m).count newline ≤ (bytes.take n).count newline :=
  (List.take_sublist_take_left h).count_le newline

section Pieces

variable {source : String} {k : Nat} {piece : List Char}

theorem firstByte_succ {pieces : List (List Char)} (h : pieces[k]? = some piece) :
    firstByte pieces (k + 1) = firstByte pieces k + (utf8 piece).length + 1 := by
  have htake : pieces.take (k + 1) = pieces.take k ++ [piece] := by
    rw [List.take_add_one, h]
    rfl
  rw [firstByte, htake, endedBytes, List.flatMap_append, List.length_append, List.flatMap_singleton,
    List.length_append, List.length_singleton, Nat.add_assoc]
  rfl

/-- Before a byte of a piece, and before the newline that ends it, there are the newlines of the
pieces before it. -/
theorem count_take_firstByte_add (h : (segments source)[k]? = some piece) {m : Nat}
    (hm : m ≤ (utf8 piece).length) :
    ((bytesOf source).take (firstByte (segments source) k + m)).count newline = k := by
  obtain ⟨hk, hget⟩ := List.getElem?_eq_some_iff.1 h
  have hpieces : segments source =
      (segments source).take k ++ piece :: (segments source).drop (k + 1) := by
    rw [← hget, ← List.drop_eq_getElem_cons hk, List.take_append_drop]
  have hended : bytesOf source ++ [newline] =
      endedBytes ((segments source).take k) ++
        (utf8 piece ++ newline :: endedBytes ((segments source).drop (k + 1))) := by
    rw [← endedBytes_cons, ← endedBytes_segments]
    conv_lhs => rw [hpieces]
    exact List.flatMap_append
  have hlength := congrArg List.length hended
  simp only [List.length_append, List.length_cons, List.length_nil] at hlength
  have hle : firstByte (segments source) k + m ≤ (bytesOf source).length := by
    rw [firstByte]
    omega
  -- the newline at the end is not reached
  have htake : (bytesOf source).take (firstByte (segments source) k + m) =
      endedBytes ((segments source).take k) ++ (utf8 piece).take m := by
    rw [← List.take_append_of_le_length hle, hended, firstByte, List.take_length_add_append,
      List.take_append_of_le_length hm]
  have hfront : ∀ p ∈ (segments source).take k, '\n' ∉ p :=
    fun p hp => not_mem_of_mem_split (List.mem_of_mem_take hp)
  have hpiece : newline ∉ (utf8 piece).take m := fun hmem =>
    newline_not_mem_utf8 (not_mem_of_mem_split (List.mem_of_getElem? h)) (List.mem_of_mem_take hmem)
  rw [htake, List.count_append, count_newline_endedBytes hfront, List.count_eq_zero.2 hpiece,
    List.length_take_of_le (Nat.le_of_lt hk), Nat.add_zero]

/-- As many newlines as there are pieces before a piece stand before the offsets from its first
byte to its newline, and, if it is the last one, before those that follow. -/
theorem count_take_eq_iff (h : (segments source)[k]? = some piece) (offset : Nat) :
    ((bytesOf source).take offset).count newline = k ↔
      firstByte (segments source) k ≤ offset ∧
        (offset ≤ firstByte (segments source) k + (utf8 piece).length ∨
          k + 1 = (segments source).length) := by
  have hk : k < (segments source).length := (List.getElem?_eq_some_iff.1 h).1
  constructor
  · intro hcount
    constructor
    · by_contra hlt
      cases k with
      | zero => exact hlt (Nat.zero_le offset)
      | succ j =>
        -- the offset is not behind the newline of the piece before
        have hj := List.getElem?_eq_getElem (Nat.lt_of_succ_lt hk)
        rw [firstByte_succ hj] at hlt
        have hle := count_take_mono (bytesOf source) (Nat.le_of_lt_succ (Nat.not_le.1 hlt))
        rw [hcount, count_take_firstByte_add hj (Nat.le_refl _)] at hle
        exact absurd hle (Nat.not_succ_le_self j)
    · by_contra hbehind
      obtain ⟨hlt, hnot⟩ := not_or.1 hbehind
      -- the offset is not before the first byte of the piece behind
      have hnext := List.getElem?_eq_getElem (Nat.lt_of_le_of_ne hk hnot)
      have hfirst := count_take_firstByte_add hnext (Nat.zero_le _)
      rw [Nat.add_zero, firstByte_succ h] at hfirst
      have hle := count_take_mono (bytesOf source) (Nat.not_le.1 hlt)
      rw [hcount, hfirst] at hle
      exact absurd hle (Nat.not_succ_le_self k)
  · rintro ⟨hfirst, hlast⟩
    have hfrom := count_take_mono (bytesOf source) hfirst
    have hbegin := count_take_firstByte_add h (Nat.zero_le _)
    rw [Nat.add_zero] at hbegin
    rw [hbegin] at hfrom
    refine Nat.le_antisymm ?_ hfrom
    rcases hlast with hwithin | hend
    · have hto := count_take_mono (bytesOf source) hwithin
      rwa [count_take_firstByte_add h (Nat.le_refl _)] at hto
    · have htotal := (List.take_sublist offset (bytesOf source)).count_le newline
      rw [length_segments, length_sourceLines] at hend
      omega

end Pieces

/-! ### The index -/

/-- What an index answers is right for a source. The pieces of the source are counted from zero,
its lines from one. -/
structure ResolvesLines (source : String) (i : LineIndex) : Prop where
  lineOf_eq_scanned (offset : Option Int) : i.lineOf offset = scannedLine (bytesOf source) offset
  lineOf_eq_unmapped_iff (offset : Option Int) :
    i.lineOf offset = -1 ↔ ∀ o, offset = some o → o < 0
  lineOf_between (offset : Int) : 0 ≤ offset →
    1 ≤ i.lineOf (some offset) ∧ i.lineOf (some offset) ≤ i.lineCount
  lineOf_mono (m n : Int) : m ≤ n → i.lineOf (some m) ≤ i.lineOf (some n)
  /-- The pieces in a row, each with the newline that ends it, are the source and one newline. -/
  pieces : endedBytes (segments source) = bytesOf source ++ [newline]
  lineCount_eq : i.lineCount = (segments source).length
  /-- A line has the offsets from the first byte of its piece to the newline that ends it. The last
  line has no newline, and all offsets from its first byte on. -/
  lineOf_eq_iff (k : Nat) (piece : List Char) : (segments source)[k]? = some piece →
    ∀ offset : Int, i.lineOf (some offset) = k + 1 ↔
      firstByte (segments source) k ≤ offset ∧
        (offset ≤ firstByte (segments source) k + (utf8 piece).length ∨ k + 1 = i.lineCount)
  lineOf_of_past (offset : Int) : (bytesOf source).length ≤ offset →
    i.lineOf (some offset) = i.lineCount

theorem length_newlinesFrom (offset : Nat) (bytes : List UInt8) :
    (newlinesFrom offset bytes).length = bytes.count newline := by
  induction bytes generalizing offset with
  | nil => rfl
  | cons b bytes ih =>
    unfold newlinesFrom
    by_cases hb : b = newline
    · rw [if_pos hb, List.length_cons, ih, hb, List.count_cons_self]
    · rw [if_neg hb, ih, List.count_cons_of_ne hb]

section Index

variable (source : String)

theorem lineCount_ofSource : (LineIndex.ofSource source).lineCount = (segments source).length := by
  rw [LineIndex.lineCount, LineIndex.ofSource, LineIndex.ofBytes, length_newlinesFrom,
    length_segments, length_sourceLines]

theorem lineOf_ofSource (offset : Int) : (LineIndex.ofSource source).lineOf (some offset) =
    if 0 ≤ offset then (((bytesOf source).take offset.toNat).count newline : Int) + 1 else -1 := by
  by_cases h : 0 ≤ offset
  · rw [if_pos h, LineIndex.lineOf, if_pos h, LineIndex.ofSource, lineAt_ofBytes,
      ← List.take_take, List.take_length]
  · rw [if_neg h, LineIndex.lineOf, if_neg h]
    rfl

theorem lineOf_ofSource_of_nonneg {offset : Int} (h : 0 ≤ offset) :
    (LineIndex.ofSource source).lineOf (some offset) =
      (((bytesOf source).take offset.toNat).count newline : Int) + 1 := by
  rw [lineOf_ofSource, if_pos h]

theorem lineOf_ofSource_of_neg {offset : Int} (h : offset < 0) :
    (LineIndex.ofSource source).lineOf (some offset) = -1 := by
  rw [lineOf_ofSource, if_neg (Int.not_le.2 h)]

theorem lineOf_ofSource_eq_scanned (offset : Option Int) :
    (LineIndex.ofSource source).lineOf offset = scannedLine (bytesOf source) offset := by
  cases offset with
  | none => rfl
  | some offset =>
    rw [lineOf_ofSource, scannedLine]
    rfl

theorem lineOf_ofSource_eq_unmapped_iff (offset : Option Int) :
    (LineIndex.ofSource source).lineOf offset = -1 ↔ ∀ o, offset = some o → o < 0 := by
  cases offset with
  | none => exact ⟨fun _ o ho => (by cases ho), fun _ => rfl⟩
  | some offset =>
    constructor
    · intro hline o ho
      cases ho
      by_contra hneg
      rw [lineOf_ofSource_of_nonneg source (Int.not_lt.1 hneg)] at hline
      unfold Line at hline
      omega
    · intro hneg
      exact lineOf_ofSource_of_neg source (hneg offset rfl)

theorem lineOf_ofSource_mono {m n : Int} (h : m ≤ n) :
    (LineIndex.ofSource source).lineOf (some m) ≤ (LineIndex.ofSource source).lineOf (some n) := by
  rw [lineOf_ofSource, lineOf_ofSource]
  unfold Line
  split_ifs with hm hn
  · have hcount := count_take_mono (bytesOf source) (Int.toNat_le_toNat h)
    omega
  · omega
  · omega
  · exact Int.le_refl _

theorem lineOf_ofSource_of_past {offset : Int} (h : (bytesOf source).length ≤ offset) :
    (LineIndex.ofSource source).lineOf (some offset) = (LineIndex.ofSource source).lineCount := by
  have hnonneg : 0 ≤ offset := Int.le_trans (Int.natCast_nonneg _) h
  have hall : (bytesOf source).take offset.toNat = bytesOf source :=
    List.take_of_length_le (Int.toNat_natCast _ ▸ Int.toNat_le_toNat h)
  rw [lineOf_ofSource_of_nonneg source hnonneg, hall, lineCount_ofSource, length_segments,
    length_sourceLines]
  rfl

/-- A line reaches from its first byte to the newline behind it, and the last one reaches on for
ever. -/
theorem lineOf_ofSource_eq_iff {k : Nat} {piece : List Char}
    (h : (segments source)[k]? = some piece) (offset : Int) :
    (LineIndex.ofSource source).lineOf (some offset) = k + 1 ↔
      firstByte (segments source) k ≤ offset ∧
        (offset ≤ firstByte (segments source) k + (utf8 piece).length ∨
          k + 1 = (LineIndex.ofSource source).lineCount) := by
  rw [lineCount_ofSource]
  by_cases hneg : offset < 0
  · rw [lineOf_ofSource_of_neg source hneg]
    unfold Line
    omega
  · have hnonneg := Int.not_lt.1 hneg
    have hiff := count_take_eq_iff h offset.toNat
    rw [lineOf_ofSource_of_nonneg source hnonneg]
    unfold Line
    omega

/-- **The index resolves lines.** For every source, what the index answers is what the scan of the
bytes answers, and both are right. -/
theorem ofSource_resolvesLines : ResolvesLines source (LineIndex.ofSource source) where
  lineOf_eq_scanned := lineOf_ofSource_eq_scanned source
  lineOf_eq_unmapped_iff := lineOf_ofSource_eq_unmapped_iff source
  lineOf_between := by
    intro offset hnonneg
    have hpast := lineOf_ofSource_mono source (Int.le_max_left offset (bytesOf source).length)
    rw [lineOf_ofSource_of_past source (Int.le_max_right _ _)] at hpast
    refine ⟨?_, hpast⟩
    rw [lineOf_ofSource_of_nonneg source hnonneg]
    unfold Line
    omega
  lineOf_mono := fun _ _ => lineOf_ofSource_mono source
  pieces := endedBytes_segments source
  lineCount_eq := lineCount_ofSource source
  lineOf_eq_iff := fun _ _ => lineOf_ofSource_eq_iff source
  lineOf_of_past := fun _ => lineOf_ofSource_of_past source

/-- A character of two bytes, an empty line, and a newline at the end: the newline of a line is on
that line, and the line behind the last newline is empty. -/
example :
    (List.range 6).map (fun offset : Nat => (LineIndex.ofSource "é\n\n").lineOf (some offset)) =
      [1, 1, 1, 2, 3, 3] := by
  decide +kernel

end Index

end GasLens.Source
