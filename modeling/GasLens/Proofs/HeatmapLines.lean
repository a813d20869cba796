/-
  GasLens/Proofs/HeatmapLines.lean
  ================================
  **Heatmaps line by line** — what a heatmap shows, said from the source and the costs of the
  functions alone.

  The gas of a line (`rawCost`) is that of all functions, if the line is the last one or holds
  code, and nothing otherwise. A heatmap merges the costs of the functions into one map, through
  a filter, and reads that map again under other numbers. Both are undone here: what the merged
  costs hold at a line is its gas (`getD_mergedCosts`), and they hold nothing besides
  (`total_mergedCosts`). Every other fact about a heatmap is about `rawCost`, which looks at no
  entry elsewhere and does not see the order of the functions. Whether there is a heatmap is one
  of these facts: there is one as long as the gas of all lines fits a word.
-/
import GasLens.Proofs.CostKeys
import GasLens.Proofs.Doubles
import GasLens.Proofs.TrimmedTexts

namespace GasLens

open GasLens.Source GasLens.Text

/-! ### The lines of a source -/

/-- The pieces of a source between its newlines. -/
def segments (source : String) : List (List Char) := split '\n' source.toList

/-- A piece that is neither blank nor begins with the mark of a comment. -/
def IsExecutable (segment : List Char) : Prop :=
  trim segment ≠ [] ∧ ¬ ['/', '/'] <+: trim segment ∧ ¬ ['/', '*'] <+: trim segment ∧
    ¬ ['*'] <+: trim segment

/-- A text is a piece less the carriage return at its end, if there is one. -/
def IsShown (segment text : List Char) : Prop :=
  segment = text ++ ['\r'] ∨ segment = text ∧ ¬ ['\r'] <:+ segment

theorem isShown_withoutReturn (segment : List Char) : IsShown segment (withoutReturn segment) := by
  unfold withoutReturn dropClosing?
  by_cases h : ['\r'] <:+ segment
  · left
    obtain ⟨text, rfl⟩ := h
    simp
  · right
    simp [h]

theorem IsShown.trim_eq {segment text : List Char} (h : IsShown segment text) :
    trim text = trim segment := by
  rcases h with rfl | ⟨rfl, _⟩
  · have hreturn : ∀ c ∈ ['\r'], isBlank c = true := List.forall_mem_singleton.2 rfl
    exact (trim_append_of_blank hreturn).symm
  · rfl

theorem isNonExecutable_eq_false_iff {text : List Char} :
    isNonExecutable text = false ↔ IsExecutable text := by
  simp [isNonExecutable, IsExecutable, commentMarks, ← List.isPrefixOf_iff_prefix]

section Counting

variable {source : String} {k : Nat}

theorem length_segments (source : String) :
    (segments source).length = (sourceLines source).length := (List.length_map _).symm

theorem segments_ne_nil (source : String) : segments source ≠ [] := split_ne_nil _ _

theorem getElem?_sourceLines (source : String) (k : Nat) :
    (sourceLines source)[k]? = (segments source)[k]?.map withoutReturn :=
  List.getElem?_map

/-- The line behind `k` others counts: it is the last one, or it holds code. -/
def Counts (pieces : List (List Char)) (k : Nat) : Prop :=
  k + 1 = pieces.length ∨ ∃ segment, pieces[k]? = some segment ∧ IsExecutable segment

instance (segment : List Char) : Decidable (IsExecutable segment) :=
  inferInstanceAs (Decidable (_ ∧ _))

instance (pieces : List (List Char)) (k : Nat) : Decidable (Counts pieces k) :=
  match h : pieces[k]? with
  | some segment =>
    decidable_of_iff (k + 1 = pieces.length ∨ IsExecutable segment) (by simp [Counts, h])
  | none => decidable_of_iff (k + 1 = pieces.length) (by simp [Counts, h])

theorem Counts.lt_length {pieces : List (List Char)} (h : Counts pieces k) : k < pieces.length := by
  rcases h with h | ⟨segment, h, _⟩
  · omega
  · exact (List.getElem?_eq_some_iff.1 h).1

/-- A piece and the line that is shown of it count alike. -/
theorem countsAt_iff :
    countsAt (sourceLines source) ((k + 1 : Nat) : Line) = true ↔ Counts (segments source) k := by
  have hpos : (0 : Int) < ((k + 1 : Nat) : Int) := by omega
  rw [countsAt, Int.toNat_natCast, Nat.add_sub_cancel, getElem?_sourceLines, ← length_segments,
    decide_eq_true hpos, Bool.true_and, Counts]
  cases hget : (segments source)[k]? with
  | none =>
    have hlength := List.getElem?_eq_none_iff.1 hget
    have hlast : k + 1 ≠ (segments source).length := by omega
    simp [hlast]
  | some segment =>
    have htrim : isNonExecutable (withoutReturn segment) = isNonExecutable segment := by
      rw [isNonExecutable, isNonExecutable, (isShown_withoutReturn segment).trim_eq]
    simp [htrim, isNonExecutable_eq_false_iff]

theorem countsAt_between {line : Line} (h : countsAt (sourceLines source) line = true) :
    0 < line ∧ line ≤ ((segments source).length : Int) := by
  unfold countsAt at h
  rw [Bool.and_eq_true, decide_eq_true_eq] at h
  obtain ⟨hpos, hcounts⟩ := h
  refine ⟨hpos, ?_⟩
  cases hget : (sourceLines source)[line.toNat - 1]? with
  | none =>
    rw [hget] at hcounts
    cases hcounts
  | some text =>
    have hlt := (List.getElem?_eq_some_iff.1 hget).1
    rw [← length_segments] at hlt
    have hcast : line.toNat = line := Int.toNat_of_nonneg (Int.le_of_lt hpos)
    rw [← hcast]
    exact_mod_cast Nat.le_of_pred_lt hlt

end Counting

/-! ### The gas of a line -/

/-- The gas of the line behind `k` others, over all functions. -/
def rawCost (pieces : List (List Char)) (c : ContractReport) (k : Nat) : Nat :=
  if Counts pieces k then (c.functions.map fun f => f.costByLine.getD ((k + 1 : Nat) : Line) 0).sum
  else 0

/-- Whether a number is that of one of so many lines. -/
def isLineUpTo (n : Nat) (line : Int) : Bool := decide (0 < line ∧ line ≤ n)

theorem sumWhere_isLineUpTo_succ (n : Nat) (es : List (Line × Nat)) :
    sumWhere (isLineUpTo (n + 1)) es =
      sumWhere (isLineUpTo n) es +
        sumWhere (fun line : Int => decide (line = (n + 1 : Nat))) es := by
  induction es with
  | nil => rfl
  | cons e es ih =>
    simp only [sumWhere_cons, ih, isLineUpTo, decide_eq_true_eq]
    split_ifs <;> omega

theorem SortedMap.sum_getD_eq_totalWhere (m : SortedMap Line Nat) (n : Nat) :
    ((List.range n).map fun k => m.getD ((k + 1 : Nat) : Line) 0).sum =
      m.totalWhere (isLineUpTo n) := by
  induction n with
  | zero =>
    refine (sumWhere_eq_zero fun e _ => ?_).symm
    apply decide_eq_false
    rintro ⟨hpos, hle⟩
    exact absurd (Int.lt_of_lt_of_le hpos hle) (by decide)
  | succ n ih =>
    rw [List.range_succ, List.map_append, List.sum_append, ih, List.map_singleton,
      List.sum_singleton, getD_eq_totalWhere]
    exact (sumWhere_isLineUpTo_succ n m.entries).symm

section Reports

variable (source : String) (c : ContractReport)

/-- Merging the functions adds up what they have on a line, and nothing where gas does not count. -/
theorem getD_mergedCosts (k : Nat) :
    (mergedCosts (sourceLines source) c).getD ((k + 1 : Nat) : Line) 0 =
      rawCost (segments source) c k := by
  rw [SortedMap.getD_eq_totalWhere, totalWhere_mergedCosts, rawCost]
  split
  · rename_i hcounts
    congr 1
    apply List.map_congr_left
    intro f _
    rw [SortedMap.getD_eq_totalWhere]
    -- at this one line, to count says nothing more
    congr 1
    funext line
    by_cases hline : line = ((k + 1 : Nat) : Int)
    · rw [hline, countsAt_iff.2 hcounts, Bool.true_and]
    · rw [decide_eq_false hline, Bool.and_false]
  · rename_i hcounts
    apply List.sum_eq_zero
    intro n hn
    obtain ⟨f, _, rfl⟩ := List.mem_map.1 hn
    apply sumWhere_eq_zero
    intro e _
    rw [Bool.and_eq_false_iff]
    by_cases hline : e.1 = ((k + 1 : Nat) : Int)
    · left
      rw [hline, ← Bool.not_eq_true, countsAt_iff]
      exact hcounts
    · exact Or.inr (decide_eq_false hline)

/-- The merged costs stand at lines of the source. -/
theorem total_mergedCosts :
    (mergedCosts (sourceLines source) c).total =
      ((List.range (segments source).length).map (rawCost (segments source) c)).sum := by
  have hraw : rawCost (segments source) c =
      fun k => (mergedCosts (sourceLines source) c).getD ((k + 1 : Nat) : Line) 0 := by
    funext k
    exact (getD_mergedCosts source c k).symm
  have hlines : (fun line => countsAt (sourceLines source) line && true) =
      fun line => countsAt (sourceLines source) line &&
        isLineUpTo (segments source).length line := by
    funext line
    cases hcounts : countsAt (sourceLines source) line with
    | false => rfl
    | true => exact (decide_eq_true (countsAt_between hcounts)).symm
  rw [hraw, SortedMap.sum_getD_eq_totalWhere, SortedMap.total_eq_totalWhere,
    totalWhere_mergedCosts, totalWhere_mergedCosts, hlines]

/-! ### The lines that are shown -/

theorem lines_build :
    (Heatmap.build c source).lines = (segments source).mapIdx fun k segment =>
      heatmapLine (mergedCosts (sourceLines source) c) (mergedCosts (sourceLines source) c).total
        (segments source).length (k + 1) (withoutReturn segment) := by
  apply List.ext_getElem?
  intro k
  have hline := getElem?_heatmapLinesFrom (mergedCosts (sourceLines source) c)
    (mergedCosts (sourceLines source) c).total (segments source).length 1 k (sourceLines source)
  rw [getElem?_sourceLines, Option.map_map, Nat.add_comm 1 k] at hline
  rw [List.getElem?_mapIdx, Heatmap.build, ← length_segments]
  exact hline

theorem totalCost_build_eq :
    (Heatmap.build c source).totalCost =
      ((List.range (segments source).length).map (rawCost (segments source) c)).sum :=
  total_mergedCosts source c

end Reports

section Lines

variable {costs : SortedMap Line Nat} {total number : Nat} {text : List Char}

theorem toList_text_heatmapLine (count : Nat) :
    (heatmapLine costs total count number text).text.toList = text := by
  simp only [heatmapLine]
  split <;> exact String.toList_ofList

theorem isBoilerplate_heatmapLine_of_ne {count : Nat} (h : number ≠ count) :
    (heatmapLine costs total count number text).isBoilerplate = false := by
  simp [heatmapLine, h]

/-- A part of a total that is nothing stays nothing when it is divided and rounded. -/
theorem shareOf_zero (total : Nat) : shareOf 0 total = Decimal.ofNat 0 := by
  unfold shareOf
  split
  · rfl
  · rename_i h
    exact Decimal.zero_div_ofNat (Nat.pos_of_ne_zero h)

/-- What the last line shows of its gas. -/
structure HeatmapLine.IsLast (line : HeatmapLine) (raw : Nat) : Prop where
  cost : line.cost = 0
  share : line.share = Decimal.ofNat 0
  isBoilerplate : line.isBoilerplate = decide (0 < raw)
  severity : line.severity = if 0 < raw then .boilerplate else .none

theorem isLast_heatmapLine :
    (heatmapLine costs total number number text).IsLast (costs.getD number 0) := by
  unfold heatmapLine
  generalize hraw : costs.getD (number : Line) 0 = raw
  by_cases hpos : 0 < raw
  · simp only [hpos, and_self, if_true]
    exact ⟨rfl, rfl, (decide_eq_true hpos).symm, (if_pos hpos).symm⟩
  · obtain rfl : raw = 0 := Nat.eq_zero_of_not_pos hpos
    simp only [Nat.lt_irrefl, and_false, if_false, shareOf_zero]
    refine ⟨rfl, ?_, rfl, ?_⟩
    · show roundShare (Decimal.ofNat 0) = Decimal.ofNat 0
      decide +kernel
    · show Severity.ofShare (Decimal.ofNat 0) = .none
      decide +kernel

theorem heatmapLine_congr {costs' : SortedMap Line Nat}
    (h : costs.getD number 0 = costs'.getD number 0) (count : Nat) :
    heatmapLine costs total count number text = heatmapLine costs' total count number text := by
  simp only [heatmapLine, h]

end Lines

/-! ### Functions -/

/-- The statistics of a report are its own, and its lines are those of a source where it has gas. -/
structure FunctionSummary.IsOf (f : FunctionReport) (s : FunctionSummary) : Prop where
  statistics : s.name = f.name ∧ s.avg = f.avg ∧ s.min = f.min ∧ s.max = f.max ∧ s.p95 = f.p95
  ascending : s.lines.Pairwise (· < ·)
  mem_lines : ∀ line, line ∈ s.lines ↔ 0 < line ∧ 0 < f.costByLine.getD line 0

theorem FunctionReport.mem_lines_iff {f : FunctionReport} {line : Line} :
    line ∈ f.lines ↔ 0 < line ∧ 0 < f.costByLine.getD line 0 := by
  simp only [lines, List.mem_map, List.mem_filter, Bool.and_eq_true, decide_eq_true_eq]
  constructor
  · rintro ⟨⟨line, cost⟩, ⟨hmem, hpos, hcost⟩, rfl⟩
    have hget : f.costByLine.get? line = some cost :=
      (SortedMap.findEntry_eq_some_iff f.costByLine.ascending).2 hmem
    refine ⟨hpos, ?_⟩
    rw [SortedMap.getD, hget]
    exact hcost
  · rintro ⟨hpos, hcost⟩
    rw [SortedMap.getD] at hcost
    cases hget : f.costByLine.get? line with
    | none =>
      rw [hget] at hcost
      exact absurd hcost (Nat.lt_irrefl 0)
    | some cost =>
      rw [hget] at hcost
      have hmem : (line, cost) ∈ f.costByLine.entries :=
        (SortedMap.findEntry_eq_some_iff f.costByLine.ascending).1 hget
      exact ⟨(line, cost), ⟨hmem, hpos, hcost⟩, rfl⟩

theorem FunctionSummary.isOf_ofReport (f : FunctionReport) : (ofReport f).IsOf f where
  statistics := ⟨rfl, rfl, rfl, rfl, rfl⟩
  ascending := f.costByLine.ascending.sublist (List.filter_sublist.map Prod.fst)
  mem_lines := fun _ => FunctionReport.mem_lines_iff

/-! ### Heatmaps -/

/-- What a heatmap shows of a report over the pieces of a source. -/
structure Heatmap.Shows (h : Heatmap) (c : ContractReport) (pieces : List (List Char)) : Prop where
  contractName : h.contractName = c.name
  length_lines : h.lines.length = pieces.length
  /-- The lines are numbered from one on and have the texts of the pieces. -/
  line : ∀ k line, h.lines[k]? = some line →
    line.number = k + 1 ∧ ∃ segment, pieces[k]? = some segment ∧ IsShown segment line.text.toList
  ordinary : ∀ k line, h.lines[k]? = some line → k + 1 ≠ pieces.length →
    line.cost = rawCost pieces c k ∧ line.isBoilerplate = false
  last : ∀ k line, h.lines[k]? = some line → k + 1 = pieces.length →
    line.IsLast (rawCost pieces c k)
  total : h.totalCost = ((List.range pieces.length).map (rawCost pieces c)).sum
  /-- The gas of the last line is all that is not shown. -/
  total_eq_shown :
    h.totalCost = (h.lines.map HeatmapLine.cost).sum + rawCost pieces c (pieces.length - 1)
  functions : List.Forall₂ FunctionSummary.IsOf c.functions h.functions

/-- Two functions have the same gas on the lines that count, whatever they have elsewhere. -/
def FunctionReport.AgreesOn (pieces : List (List Char)) (f g : FunctionReport) : Prop :=
  ∀ k, Counts pieces k →
    f.costByLine.getD ((k + 1 : Nat) : Line) 0 = g.costByLine.getD ((k + 1 : Nat) : Line) 0

section Shown

variable {source : String} {c : ContractReport}

theorem exists_segment_of_line {k : Nat} {line : HeatmapLine}
    (h : (Heatmap.build c source).lines[k]? = some line) :
    ∃ segment, (segments source)[k]? = some segment ∧
      line = heatmapLine (mergedCosts (sourceLines source) c)
        (mergedCosts (sourceLines source) c).total (segments source).length (k + 1)
        (withoutReturn segment) := by
  rw [lines_build, List.getElem?_mapIdx, Option.map_eq_some_iff] at h
  obtain ⟨segment, hget, hline⟩ := h
  exact ⟨segment, hget, hline.symm⟩

theorem cost_of_line {k : Nat} {line : HeatmapLine}
    (h : (Heatmap.build c source).lines[k]? = some line) :
    line.cost = if k + 1 = (segments source).length then 0 else rawCost (segments source) c k := by
  obtain ⟨segment, _, rfl⟩ := exists_segment_of_line h
  split
  · rename_i hlast
    rw [← hlast]
    exact isLast_heatmapLine.cost
  · rename_i hlast
    rw [cost_heatmapLine_of_ne hlast]
    exact getD_mergedCosts source c k

theorem map_cost_lines_build (source : String) (c : ContractReport) :
    (Heatmap.build c source).lines.map HeatmapLine.cost =
      (List.range (segments source).length).map fun k =>
        if k + 1 = (segments source).length then 0 else rawCost (segments source) c k := by
  have hlength : (Heatmap.build c source).lines.length = (segments source).length := by
    rw [lines_build, List.length_mapIdx]
  apply List.ext_getElem
  · rw [List.length_map, List.length_map, List.length_range, hlength]
  · intro k hk hk'
    rw [List.getElem_map, List.getElem_map, List.getElem_range]
    exact cost_of_line (List.getElem?_eq_getElem _)

/-- All lines but the last one show what they hold. -/
theorem totalCost_eq_shown (source : String) (c : ContractReport) :
    (Heatmap.build c source).totalCost = ((Heatmap.build c source).lines.map HeatmapLine.cost).sum +
      rawCost (segments source) c ((segments source).length - 1) := by
  rw [totalCost_build_eq, map_cost_lines_build]
  cases hlength : (segments source).length with
  | zero => exact absurd (List.length_eq_zero_iff.1 hlength) (segments_ne_nil source)
  | succ n =>
    have hbefore : ((List.range n).map fun k =>
        if k + 1 = n + 1 then 0 else rawCost (segments source) c k) =
          (List.range n).map (rawCost (segments source) c) := by
      apply List.map_congr_left
      intro k hk
      have hlt := List.mem_range.1 hk
      exact if_neg (by omega)
    rw [List.range_succ, List.map_append, List.map_append, List.sum_append, List.sum_append,
      hbefore]
    simp

theorem shows_build (c : ContractReport) (source : String) :
    (Heatmap.build c source).Shows c (segments source) where
  contractName := rfl
  length_lines := by rw [lines_build, List.length_mapIdx]
  line := by
    intro k line hline
    obtain ⟨segment, hget, rfl⟩ := exists_segment_of_line hline
    refine ⟨number_heatmapLine _ _ _ _ _, segment, hget, ?_⟩
    rw [toList_text_heatmapLine]
    exact isShown_withoutReturn segment
  ordinary := by
    intro k line hline hlast
    refine ⟨(cost_of_line hline).trans (if_neg hlast), ?_⟩
    obtain ⟨segment, _, rfl⟩ := exists_segment_of_line hline
    exact isBoilerplate_heatmapLine_of_ne hlast
  last := by
    intro k line hline hlast
    obtain ⟨segment, _, rfl⟩ := exists_segment_of_line hline
    rw [← hlast, ← getD_mergedCosts]
    exact isLast_heatmapLine
  total := totalCost_build_eq source c
  total_eq_shown := totalCost_eq_shown source c
  functions := List.forall₂_map_right_iff.2
    (List.forall₂_same.2 fun f _ => FunctionSummary.isOf_ofReport f)

/-- Only the gas of the lines decides what is shown. -/
theorem build_congr {fs gs : List FunctionReport}
    (h : ∀ k, rawCost (segments source) { c with functions := fs } k =
      rawCost (segments source) { c with functions := gs } k) :
    (Heatmap.build { c with functions := fs } source).totalCost =
        (Heatmap.build { c with functions := gs } source).totalCost ∧
      (Heatmap.build { c with functions := fs } source).lines =
        (Heatmap.build { c with functions := gs } source).lines := by
  have htotal : (Heatmap.build { c with functions := fs } source).totalCost =
      (Heatmap.build { c with functions := gs } source).totalCost := by
    rw [totalCost_build_eq, totalCost_build_eq]
    exact congrArg (fun raw => ((List.range (segments source).length).map raw).sum) (funext h)
  refine ⟨htotal, ?_⟩
  rw [lines_build, lines_build]
  congr 1
  funext k segment
  rw [show (mergedCosts (sourceLines source) { c with functions := fs }).total = _ from htotal]
  apply heatmapLine_congr
  rw [getD_mergedCosts, getD_mergedCosts, h]

theorem rawCost_of_agreesOn {fs gs : List FunctionReport}
    (h : List.Forall₂ (FunctionReport.AgreesOn (segments source)) fs gs) (k : Nat) :
    rawCost (segments source) { c with functions := fs } k =
      rawCost (segments source) { c with functions := gs } k := by
  unfold rawCost
  split
  · rename_i hcounts
    apply congrArg List.sum
    induction h with
    | nil => rfl
    | cons hagrees _ ih =>
      simp only [List.map_cons] at ih ⊢
      rw [hagrees k hcounts, ih]
  · rfl

theorem rawCost_of_perm {fs gs : List FunctionReport} (h : fs.Perm gs) (k : Nat) :
    rawCost (segments source) { c with functions := fs } k =
      rawCost (segments source) { c with functions := gs } k := by
  unfold rawCost
  split
  · exact (h.map _).sum_eq
  · rfl

/-- The gas of all lines over all functions. -/
def rawTotal (pieces : List (List Char)) (c : ContractReport) : Nat :=
  ((List.range pieces.length).map (rawCost pieces c)).sum

theorem isSome_ofReport_iff :
    (Heatmap.ofReport c source).isSome ↔ rawTotal (segments source) c ≤ maxU64 := by
  simp only [Option.isSome_iff_exists, Heatmap.ofReport_eq_some_iff, exists_eq_right,
    totalCost_build_eq, rawTotal]

/-- Reports whose heatmaps have one total over whole numbers have both a heatmap or both none. -/
theorem ofReport_rel {c' : ContractReport} {same : Heatmap → Heatmap → Prop}
    (htotal : (Heatmap.build c' source).totalCost = (Heatmap.build c source).totalCost)
    (hsame : same (Heatmap.build c' source) (Heatmap.build c source)) :
    Option.Rel same (Heatmap.ofReport c' source) (Heatmap.ofReport c source) := by
  cases hbuilt : Heatmap.ofReport c source with
  | some h =>
    obtain ⟨hfits, rfl⟩ := Heatmap.ofReport_eq_some_iff.1 hbuilt
    rw [Heatmap.ofReport_eq_some_iff.2 ⟨htotal.trans_le hfits, rfl⟩]
    exact .some hsame
  | none =>
    have hnone : Heatmap.ofReport c' source = none := by
      refine Option.eq_none_iff_forall_ne_some.2 fun h hbuilt' => ?_
      obtain ⟨hfits, rfl⟩ := Heatmap.ofReport_eq_some_iff.1 hbuilt'
      rw [htotal] at hfits
      rw [Heatmap.ofReport_eq_some_iff.2 ⟨hfits, rfl⟩] at hbuilt
      cases hbuilt
    rw [hnone]
    exact .none

end Shown

/-- **What a heatmap shows.** There is one as long as the gas of all lines fits a word. Its lines
are those of the source, each with its gas but the last one, which tells no more than whether it
has any; the total is the gas of all lines. Other entries of the functions than those of lines
that count change neither, and the order of the functions is that of their statistics and nothing
else. -/
theorem heatmap_shows_costs (c : ContractReport) (source : String) :
    ((Heatmap.ofReport c source).isSome ↔ rawTotal (segments source) c ≤ maxU64) ∧
      (∀ h, Heatmap.ofReport c source = some h → h.Shows c (segments source)) ∧
      (∀ fs, List.Forall₂ (FunctionReport.AgreesOn (segments source)) fs c.functions →
        Option.Rel (fun h' h => h'.totalCost = h.totalCost ∧ h'.lines = h.lines)
          (Heatmap.ofReport { c with functions := fs } source) (Heatmap.ofReport c source)) ∧
      ∀ fs, fs.Perm c.functions →
        Option.Rel (fun h' h => h'.contractName = h.contractName ∧ h'.totalCost = h.totalCost ∧
            h'.lines = h.lines ∧ h'.functions.Perm h.functions)
          (Heatmap.ofReport { c with functions := fs } source) (Heatmap.ofReport c source) := by
  refine ⟨isSome_ofReport_iff, ?_, ?_, ?_⟩
  · intro h hbuilt
    obtain ⟨_, rfl⟩ := Heatmap.ofReport_eq_some_iff.1 hbuilt
    exact shows_build c source
  · intro fs hagrees
    obtain ⟨htotal, hlines⟩ := build_congr (rawCost_of_agreesOn hagrees)
    exact ofReport_rel htotal ⟨htotal, hlines⟩
  · intro fs hperm
    have hraw : ∀ k, rawCost (segments source) { c with functions := fs } k =
        rawCost (segments source) { c with functions := c.functions } k :=
      fun k => rawCost_of_perm hperm k
    obtain ⟨htotal, hlines⟩ := build_congr hraw
    exact ofReport_rel htotal ⟨rfl, htotal, hlines, hperm.map FunctionSummary.ofReport⟩

/-- Gas on the line of a comment, or behind the source, is shown nowhere. -/
theorem heatmap_shows_costs_comment :
    let source := "f();\n// g\n\x7d"
    let f (entries : List (Line × Nat)) : FunctionReport :=
      { FunctionReport.ofName "f" with costByLine := SortedMap.ofList entries }
    let c : ContractReport := ⟨"Vault", 1, [f [(1, 5), (2, 7)]]⟩
    List.Forall₂ (FunctionReport.AgreesOn (segments source)) [f [(1, 5), (9, 3)]] c.functions ∧
      Option.Rel (fun h' h => h'.totalCost = h.totalCost ∧ h'.lines = h.lines)
        (Heatmap.ofReport { c with functions := [f [(1, 5), (9, 3)]] } source)
        (Heatmap.ofReport c source) := by
  intro source f c
  have hagrees : List.Forall₂ (FunctionReport.AgreesOn (segments source)) [f [(1, 5), (9, 3)]]
      c.functions := by
    refine .cons ?_ .nil
    intro k hcounts
    have hlength : (segments source).length = 3 := by decide +kernel
    have hlt := hcounts.lt_length
    rw [hlength] at hlt
    interval_cases k
    · rfl
    · exact absurd hcounts (by decide +kernel)
    · rfl
  exact ⟨hagrees, (heatmap_shows_costs c source).2.2.1 _ hagrees⟩

/-- Two lines of a report that passes every check hold too much gas together, and there is no
heatmap of it. -/
theorem ofReport_stops_at_two_lines :
    let source := "f();\ng();\n\x7d"
    let f : FunctionReport :=
      { FunctionReport.ofName "f" with costByLine := SortedMap.ofList [(1, 2 ^ 63), (2, 2 ^ 63)] }
    let c : ContractReport := ⟨"Vault", 1, [f]⟩
    c.validate.map Except.toBool = some true ∧ rawTotal (segments source) c = 2 ^ 64 ∧
      Heatmap.ofReport c source = none := by
  intro source f c
  have htotal : rawTotal (segments source) c = 2 ^ 64 := by decide +kernel
  refine ⟨by decide +kernel, htotal, ?_⟩
  rw [← Option.not_isSome_iff_eq_none, isSome_ofReport_iff, htotal]
  decide

end GasLens
