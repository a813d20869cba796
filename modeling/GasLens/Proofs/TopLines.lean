/-
  GasLens/Proofs/TopLines.lean
  ============================
  **The most expensive lines** — the summary of a profile holds the best lines and no others.

  The lines of a map have different numbers, so among them the order of the summary is strict: a
  line that costs more comes first, and of two that cost the same the smaller one
  (`LineCost.Precedes`). The whole map in this order is `ranked`. A summary is a front part of it,
  which already says which lines are left out, and that summaries of different sizes agree.

  That no other choice of lines costs more is a fact about descending lists
  (`sum_le_sum_take`): a part of such a list is at most its front part of the same size.
-/
import GasLens.Profile
import GasLens.Proofs.CostKeys
import Mathlib.Data.List.Permutation
import Mathlib.Order.Bounds.Defs

namespace GasLens

open GasLens.Source

/-! ### Front parts of descending lists -/

section Descending

variable {xs ys : List Nat} {x : Nat}

theorem sum_take_le_cons (h : ∀ y ∈ xs, y ≤ x) (n : Nat) :
    (xs.take n).sum ≤ ((x :: xs).take n).sum := by
  cases n with
  | zero => simp
  | succ n =>
    by_cases hn : n < xs.length
    · have hle : xs[n] ≤ x := h _ (List.getElem_mem hn)
      rw [List.take_succ_cons, List.sum_cons, ← List.take_append_getElem hn, List.sum_append,
        List.sum_singleton]
      omega
    · have hall : xs.length ≤ n := Nat.le_of_not_lt hn
      rw [List.take_succ_cons, List.sum_cons, List.take_of_length_le hall,
        List.take_of_length_le (Nat.le_succ_of_le hall)]
      omega

/-- A part of a descending list is at most its front part of the same size. -/
theorem sum_le_sum_take (hsub : ys.Sublist xs) (hxs : xs.Pairwise (· ≥ ·)) :
    ys.sum ≤ (xs.take ys.length).sum := by
  induction hsub with
  | slnil => simp
  | @cons ys xs x hsub ih =>
    rw [List.pairwise_cons] at hxs
    exact Nat.le_trans (ih hxs.2) (sum_take_le_cons hxs.1 ys.length)
  | @cons_cons ys xs x hsub ih =>
    rw [List.pairwise_cons] at hxs
    simpa using ih hxs.2

end Descending

/-! ### The order of a summary -/

namespace LineCost

variable {a b c : LineCost}

/-- A line costs more than another, or as much and has the smaller number. -/
def Precedes (a b : LineCost) : Prop := b.cost < a.cost ∨ a.cost = b.cost ∧ a.line < b.line

theorem before_iff :
    before a b = true ↔ b.cost < a.cost ∨ a.cost = b.cost ∧ a.line ≤ b.line := by
  simp [before]

theorem before_trans (a b c : LineCost) (hab : before a b = true) (hbc : before b c = true) :
    before a c = true := by
  rw [before_iff] at hab hbc ⊢
  rcases hab with hab | ⟨hab, hline⟩
  · exact Or.inl (by omega)
  · rcases hbc with hbc | ⟨hbc, hline'⟩
    · exact Or.inl (by omega)
    · exact Or.inr ⟨hab.trans hbc, Int.le_trans hline hline'⟩

theorem before_total (a b : LineCost) : (before a b || before b a) = true := by
  rw [Bool.or_eq_true, before_iff, before_iff]
  rcases Nat.lt_trichotomy a.cost b.cost with hlt | heq | hgt
  · exact Or.inr (Or.inl hlt)
  · rcases Int.le_total a.line b.line with hle | hle
    · exact Or.inl (Or.inr ⟨heq, hle⟩)
    · exact Or.inr (Or.inr ⟨heq.symm, hle⟩)
  · exact Or.inl (Or.inl hgt)

/-- Among lines with different numbers the order is strict. -/
theorem precedes_of_before (h : before a b = true) (hne : a.line ≠ b.line) : a.Precedes b := by
  rw [before_iff] at h
  rcases h with hcost | ⟨hcost, hline⟩
  · exact Or.inl hcost
  · exact Or.inr ⟨hcost, Int.lt_iff_le_and_ne.2 ⟨hline, hne⟩⟩

theorem Precedes.cost_le (h : a.Precedes b) : b.cost ≤ a.cost := by
  rcases h with hcost | ⟨hcost, -⟩ <;> omega

end LineCost

/-! ### All lines in order -/

section Ranked

variable (costs : SortedMap Line Nat)

def lineCosts : List LineCost := costs.entries.map fun e => ⟨e.1, e.2⟩

/-- The lines of a map in the order of a summary. -/
def ranked : List LineCost := (lineCosts costs).mergeSort LineCost.before

theorem topLines_eq_take (k : Nat) : topLines costs k = (ranked costs).take k := rfl

theorem ranked_perm : (ranked costs).Perm (lineCosts costs) := List.mergeSort_perm _ _

theorem length_ranked : (ranked costs).length = costs.size := by
  rw [(ranked_perm costs).length_eq, lineCosts, List.length_map]
  rfl

theorem map_line_lineCosts : (lineCosts costs).map LineCost.line = costs.keys := by
  rw [lineCosts, List.map_map]
  rfl

theorem nodup_lines_ranked : ((ranked costs).map LineCost.line).Nodup := by
  rw [((ranked_perm costs).map LineCost.line).nodup_iff, map_line_lineCosts]
  exact costs.nodup_keys

theorem ranked_ordered : (ranked costs).Pairwise LineCost.Precedes := by
  have hsorted := List.pairwise_mergeSort LineCost.before_trans LineCost.before_total
    (lineCosts costs)
  have hlines := List.pairwise_map.1 (nodup_lines_ranked costs)
  exact hsorted.imp₂ (fun _ _ hbefore hne => LineCost.precedes_of_before hbefore hne) hlines

variable {costs}

theorem mem_ranked {c : LineCost} : c ∈ ranked costs ↔ (c.line, c.cost) ∈ costs.entries := by
  rw [(ranked_perm costs).mem_iff, lineCosts, List.mem_map]
  constructor
  · rintro ⟨e, he, rfl⟩
    exact he
  · intro h
    exact ⟨_, h, rfl⟩

end Ranked

/-! ### Summaries -/

/-- The best lines of a map, as many as a summary holds. -/
structure IsTop (costs : SortedMap Line Nat) (limit : Nat) (top : List LineCost) : Prop where
  length : top.length = min limit costs.size
  entries : ∀ t ∈ top, (t.line, t.cost) ∈ costs.entries
  distinct : (top.map LineCost.line).Nodup
  ordered : top.Pairwise LineCost.Precedes
  /-- What is left out comes after all that is there. -/
  best : ∀ c : LineCost, (c.line, c.cost) ∈ costs.entries → c ∉ top → ∀ t ∈ top, t.Precedes c

theorem isTop_topLines (costs : SortedMap Line Nat) (limit : Nat) :
    IsTop costs limit (topLines costs limit) := by
  rw [topLines_eq_take]
  refine {
    length := by rw [List.length_take, length_ranked]
    entries := fun t ht => mem_ranked.1 (List.mem_of_mem_take ht)
    distinct := (nodup_lines_ranked costs).sublist ((List.take_sublist _ _).map _)
    ordered := (ranked_ordered costs).sublist (List.take_sublist _ _)
    best := ?_ }
  intro c hc hleft t ht
  -- a line that is not in front of the cut is behind it
  have hordered := ranked_ordered costs
  have hmem := mem_ranked.2 hc
  rw [← List.take_append_drop limit (ranked costs)] at hordered hmem
  have hbehind := (List.mem_append.1 hmem).resolve_left hleft
  exact (List.pairwise_append.1 hordered).2.2 t ht c hbehind

theorem IsTop.cost_eq {costs : SortedMap Line Nat} {limit : Nat} {top : List LineCost}
    (h : IsTop costs limit top) {t : LineCost} (ht : t ∈ top) : costs.getD t.line 0 = t.cost := by
  have hget : costs.get? t.line = some t.cost :=
    (SortedMap.findEntry_eq_some_iff costs.ascending).2 (h.entries t ht)
  rw [SortedMap.getD, hget]
  rfl

/-- No lines of a map cost more than the best ones. -/
theorem sum_cost_le_topLines (costs : SortedMap Line Nat) {lines : List Line}
    (hnodup : lines.Nodup) (hkeys : lines ⊆ costs.keys) :
    (lines.map fun line => costs.getD line 0).sum ≤
      ((topLines costs lines.length).map LineCost.cost).sum := by
  let chosen : List LineCost := lines.map fun line => ⟨line, costs.getD line 0⟩
  have hchosen : chosen ⊆ ranked costs := by
    intro c hc
    obtain ⟨line, hline, rfl⟩ := List.mem_map.1 hc
    have hget : costs.get? line = some (costs.getD line 0) :=
      SortedMap.get?_eq_some_iff.2 ⟨hkeys hline, rfl⟩
    exact mem_ranked.2 ((SortedMap.findEntry_eq_some_iff costs.ascending).1 hget)
  have hdistinct : chosen.Nodup :=
    List.pairwise_map.2 (hnodup.imp fun hne heq => hne (congrArg LineCost.line heq))
  -- in the order of the summary the chosen lines are a part of all lines
  obtain ⟨sorted, hperm, hsub⟩ := List.subperm_of_subset hdistinct hchosen
  have hdescending : ((ranked costs).map LineCost.cost).Pairwise (· ≥ ·) :=
    List.pairwise_map.2 ((ranked_ordered costs).imp fun h => h.cost_le)
  have hle := sum_le_sum_take (hsub.map LineCost.cost) hdescending
  calc (lines.map fun line => costs.getD line 0).sum = (chosen.map LineCost.cost).sum := by
        rw [List.map_map]
        rfl
    _ = (sorted.map LineCost.cost).sum := (hperm.map LineCost.cost).sum_nat.symm
    _ ≤ ((topLines costs lines.length).map LineCost.cost).sum := by
        rw [topLines_eq_take, List.map_take]
        rwa [List.length_map, hperm.length_eq, List.length_map] at hle

/-- **A summary holds the best lines.** It has as many lines as its limit allows, each with its
cost, in strict order, and every line that is left out comes after all of them. A smaller summary
is the front part of a larger one. No choice of as many lines costs more. -/
theorem topLines_best (costs : SortedMap Line Nat) (limit : Nat) :
    IsTop costs limit (topLines costs limit) ∧
      (∀ smaller, smaller ≤ limit → topLines costs smaller = (topLines costs limit).take smaller) ∧
      IsGreatest
        {total | ∃ lines : List Line, lines.Nodup ∧ lines ⊆ costs.keys ∧
          lines.length = min limit costs.size ∧
          total = (lines.map fun line => costs.getD line 0).sum}
        ((topLines costs limit).map LineCost.cost).sum := by
  have htop := isTop_topLines costs limit
  refine ⟨htop, ?_, ⟨(topLines costs limit).map LineCost.line, htop.distinct, ?_, ?_, ?_⟩, ?_⟩
  · intro smaller hle
    rw [topLines_eq_take, topLines_eq_take, List.take_take, Nat.min_eq_left hle]
  · intro line hline
    obtain ⟨t, ht, rfl⟩ := List.mem_map.1 hline
    exact List.mem_map_of_mem (htop.entries t ht)
  · rw [List.length_map, htop.length]
  · rw [List.map_map]
    exact congrArg List.sum (List.map_congr_left fun t ht => (htop.cost_eq ht).symm)
  · rintro total ⟨lines, hnodup, hkeys, hlength, rfl⟩
    have hle := sum_cost_le_topLines costs hnodup hkeys
    have hsame : topLines costs lines.length = topLines costs limit := by
      rw [hlength, topLines_eq_take, topLines_eq_take, ← length_ranked, ← List.take_eq_take_min]
    rwa [hsame] at hle

/-- Three lines of one cost at the cut: the smaller numbers stay. -/
theorem topLines_best_tie :
    let costs : SortedMap Line Nat := .ofList [(9, 5), (4, 5), (2, 1), (7, 8), (1, 5)]
    2 ≤ 3 ∧ topLines costs 3 = [⟨7, 8⟩, ⟨1, 5⟩, ⟨4, 5⟩] ∧ topLines costs 2 = [⟨7, 8⟩, ⟨1, 5⟩] := by
  intro costs
  have htop : topLines costs 3 = [⟨7, 8⟩, ⟨1, 5⟩, ⟨4, 5⟩] := by cbv
  refine ⟨by decide, htop, ?_⟩
  rw [(topLines_best costs 3).2.1 2 (by decide), htop]
  rfl

end GasLens
