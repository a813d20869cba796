/-
  GasLens/Proofs/ReportChecks.lean
  ================================
  **What the checks of a report let pass** — the statistics of a function against its samples,
  without the order in which they are checked.

  `Agrees` says it of the report of one function in whole numbers, and `Passes` adds what is
  checked of the mean and of the number of invocations; `check_eq_ok_iff` says that this is the
  check. The functions of a contract are checked one after another, and the first one that does
  not pass gives the fault and its name (`checkAll_cases`).

  The number of invocations is a sum of two words, and it is the last that is looked at. If
  everything before is in order and the sum does not fit a word, the check stops instead of giving
  a fault (`Overfull`, `read_stops_at_overfull`).
-/
import GasLens.Proofs.CheckedSums
import GasLens.Report.Document
import Mathlib.Data.List.Chain

namespace GasLens

open GasLens.Source GasLens.Text

namespace FunctionReport

/-! ### What a report has to say of its samples -/

/-- The statistics of a function agree with its samples. -/
structure Agrees (r : FunctionReport) : Prop where
  sorted : r.samples.Pairwise fun a b => a.cost ≤ b.cost
  min_le : ∀ s ∈ r.samples, r.min ≤ s.cost
  le_max : ∀ s ∈ r.samples, s.cost ≤ r.max
  /-- With samples, the statistics are amounts of gas of samples. -/
  mem_costs : r.samples ≠ [] → ∀ n ∈ [r.min, r.max, r.p95], n ∈ r.samples.map Sample.cost
  /-- Without samples, they are zero. -/
  eq_zero : r.samples = [] → r.min = 0 ∧ r.max = 0 ∧ r.p95 = 0
  lines_pos : ∀ line ∈ r.costByLine.keys, 0 < line
  traced_le : r.traced ≤ r.samples.length

/-- The mean is a number between the extremes, or zero without samples. -/
def AverageHolds (r : FunctionReport) : Prop :=
  if r.samples = [] then (r.avg == Decimal.ofNat 0) = true else isBetween r.avg r.min r.max = true

/-- All that is checked of the report of a function. -/
structure Passes (requested : Nat) (r : FunctionReport) : Prop where
  agrees : r.Agrees
  average : r.AverageHolds
  attempted_fits : r.samples.length + r.skipped ≤ maxU64
  attempted_le : r.samples.length + r.skipped ≤ requested

/-- What a report says of its samples is so, and it records more invocations than a word holds. -/
structure Overfull (r : FunctionReport) : Prop where
  agrees : r.Agrees
  average : r.AverageHolds
  lt_attempted : maxU64 < r.samples.length + r.skipped

theorem Agrees.p95_between {r : FunctionReport} (h : r.Agrees) (hne : r.samples ≠ []) :
    r.min ≤ r.p95 ∧ r.p95 ≤ r.max := by
  have hmem : r.p95 ∈ r.samples.map Sample.cost := h.mem_costs hne r.p95 (by simp)
  obtain ⟨s, hs, heq⟩ := List.mem_map.1 hmem
  exact heq ▸ ⟨h.min_le s hs, h.le_max s hs⟩

/-! ### The checks one by one -/

theorem isSorted_iff_isChain (samples : List Sample) :
    isSorted samples = true ↔ samples.IsChain fun a b => a.cost ≤ b.cost := by
  induction samples with
  | nil => simp [isSorted]
  | cons a r ih =>
    cases r with
    | nil => simp [isSorted]
    | cons b r => rw [isSorted, Bool.and_eq_true, decide_eq_true_eq, ih, List.isChain_cons_cons]

theorem isSorted_iff (samples : List Sample) :
    isSorted samples = true ↔ samples.Pairwise fun a b => a.cost ≤ b.cost := by
  have htrans : IsTrans Sample fun a b => a.cost ≤ b.cost := ⟨fun _ _ _ => Nat.le_trans⟩
  rw [isSorted_iff_isChain, List.isChain_iff_pairwise]

/-- A list that is not empty has two ends. -/
theorem exists_ends {α : Type} {xs : List α} (h : xs ≠ []) :
    ∃ first last, xs.head? = some first ∧ xs.getLast? = some last :=
  ⟨_, _, List.head?_eq_some_head h, List.getLast?_eq_some_getLast h⟩

theorem le_getLast_of_pairwise {samples : List Sample} {last : Sample}
    (h : samples.Pairwise fun a b => a.cost ≤ b.cost) (hlast : samples.getLast? = some last) :
    ∀ s ∈ samples, s.cost ≤ last.cost := by
  intro s hs
  obtain ⟨init, rfl⟩ := List.getLast?_eq_some_iff.1 hlast
  rcases List.mem_append.1 hs with hinit | hend
  · exact (List.pairwise_append.1 h).2.2 s hinit last List.mem_cons_self
  · exact Nat.le_of_eq (congrArg Sample.cost (List.mem_singleton.1 hend))

theorem head_le_of_pairwise {samples : List Sample} {first : Sample}
    (h : samples.Pairwise fun a b => a.cost ≤ b.cost) (hfirst : samples.head? = some first) :
    ∀ s ∈ samples, first.cost ≤ s.cost := by
  intro s hs
  obtain ⟨rest, rfl⟩ := List.head?_eq_some_iff.1 hfirst
  rcases List.mem_cons.1 hs with rfl | hrest
  · exact Nat.le_refl _
  · exact (List.pairwise_cons.1 h).1 s hrest

/-- An amount is that of the first of sorted samples if it is one of them and the least. -/
theorem eq_cost_head_iff {samples : List Sample} {first : Sample} {n : Nat}
    (h : samples.Pairwise fun a b => a.cost ≤ b.cost) (hfirst : samples.head? = some first) :
    n = first.cost ↔ n ∈ samples.map Sample.cost ∧ ∀ s ∈ samples, n ≤ s.cost := by
  have hmem : first ∈ samples := List.mem_of_head? hfirst
  constructor
  · rintro rfl
    exact ⟨List.mem_map_of_mem hmem, head_le_of_pairwise h hfirst⟩
  · rintro ⟨hn, hle⟩
    obtain ⟨s, hs, rfl⟩ := List.mem_map.1 hn
    exact Nat.le_antisymm (hle first hmem) (head_le_of_pairwise h hfirst s hs)

/-- An amount is that of the last of sorted samples if it is one of them and the greatest. -/
theorem eq_cost_getLast_iff {samples : List Sample} {last : Sample} {n : Nat}
    (h : samples.Pairwise fun a b => a.cost ≤ b.cost) (hlast : samples.getLast? = some last) :
    n = last.cost ↔ n ∈ samples.map Sample.cost ∧ ∀ s ∈ samples, s.cost ≤ n := by
  have hmem : last ∈ samples := List.mem_of_getLast? hlast
  constructor
  · rintro rfl
    exact ⟨List.mem_map_of_mem hmem, le_getLast_of_pairwise h hlast⟩
  · rintro ⟨hn, hle⟩
    obtain ⟨s, hs, rfl⟩ := List.mem_map.1 hn
    exact Nat.le_antisymm (le_getLast_of_pairwise h hlast s hs) (hle last hmem)

theorem any_cost_iff (samples : List Sample) (n : Nat) :
    samples.any (fun s => s.cost == n) = true ↔ n ∈ samples.map Sample.cost := by
  simp only [List.any_eq_true, beq_iff_eq, List.mem_map]

section Statistics

variable {r : FunctionReport}

theorem checkStatistics_of_nil (h : r.samples = []) :
    r.checkStatistics = .ok () ↔
      (r.min = 0 ∧ r.max = 0 ∧ r.p95 = 0) ∧ r.AverageHolds := by
  rw [AverageHolds, if_pos h]
  simp only [checkStatistics, h, List.head?_nil]
  split
  · rename_i hbad
    simp only [reduceCtorEq, false_iff]
    rintro ⟨⟨hmin, hmax, hp95⟩, havg⟩
    rcases hbad with hne | hne | hne | hne
    · exact hne hmin
    · exact hne hmax
    · exact hne hp95
    · exact absurd havg (Bool.eq_false_iff.1 hne)
  · rename_i hgood
    simp only [not_or, ne_eq, Decidable.not_not, Bool.not_eq_false] at hgood
    exact ⟨fun _ => ⟨⟨hgood.1, hgood.2.1, hgood.2.2.1⟩, hgood.2.2.2⟩, fun _ => rfl⟩

theorem checkStatistics_of_ends {first last : Sample} (hfirst : r.samples.head? = some first)
    (hlast : r.samples.getLast? = some last) :
    r.checkStatistics = .ok () ↔
      r.min = first.cost ∧ r.max = last.cost ∧ r.p95 ∈ r.samples.map Sample.cost ∧
        r.AverageHolds := by
  have hne : r.samples ≠ [] := fun h => by
    rw [h] at hfirst
    cases hfirst
  rw [AverageHolds, if_neg hne, ← any_cost_iff]
  simp only [checkStatistics, hfirst, hlast]
  by_cases hmin : r.min = first.cost
  · by_cases hmax : r.max = last.cost
    · rw [if_neg (by simp [hmin, hmax])]
      cases isBetween r.avg r.min r.max with
      | false => simp
      | true => cases r.samples.any (fun s => s.cost == r.p95) <;> simp [hmin, hmax]
    · simp [hmax]
  · simp [hmin]

end Statistics

/-! ### All checks -/

theorem checkStatistics_eq_ok_iff {r : FunctionReport}
    (h : r.samples.Pairwise fun a b => a.cost ≤ b.cost) :
    r.checkStatistics = .ok () ↔
      (∀ s ∈ r.samples, r.min ≤ s.cost) ∧ (∀ s ∈ r.samples, s.cost ≤ r.max) ∧
      (r.samples ≠ [] → ∀ n ∈ [r.min, r.max, r.p95], n ∈ r.samples.map Sample.cost) ∧
      (r.samples = [] → r.min = 0 ∧ r.max = 0 ∧ r.p95 = 0) ∧ r.AverageHolds := by
  by_cases hnil : r.samples = []
  · rw [checkStatistics_of_nil hnil]
    simp [hnil]
  · obtain ⟨first, last, hfirst, hlast⟩ := exists_ends hnil
    rw [checkStatistics_of_ends hfirst hlast, eq_cost_head_iff h hfirst,
      eq_cost_getLast_iff h hlast]
    simp only [List.forall_mem_cons, List.not_mem_nil, false_implies, implies_true, and_true,
      ne_eq, hnil, not_false_eq_true, true_implies, true_and]
    tauto

/-- A check that stands before others passes if it finds nothing and they pass. -/
theorem ite_error_eq_ok_iff {p : Prop} [Decidable p] {e : ReportFault}
    {rest : Except ReportFault Unit} :
    (if p then .error e else rest) = .ok () ↔ ¬ p ∧ rest = .ok () := by
  split <;> simp_all

theorem bind_eq_ok_iff {first rest : Except ReportFault Unit} :
    (first.bind fun _ => rest) = .ok () ↔ first = .ok () ∧ rest = .ok () := by
  cases first <;> simp [Except.bind]

theorem checkAlone_eq_steps (r : FunctionReport) :
    r.checkAlone =
      if isSorted r.samples = false then .error .unsorted
      else r.checkStatistics.bind fun _ =>
        if ∃ line ∈ r.costByLine.keys, line ≤ 0 then .error .nonPositiveLine
        else if r.samples.length < r.traced then .error .tooManyTraces
        else .ok () := by
  simp only [checkAlone, bind, throw, throwThe, MonadExceptOf.throw, pure, Except.pure,
    Bool.not_eq_true', List.any_eq_true, decide_eq_true_eq]
  split
  · rfl
  · cases r.checkStatistics <;> rfl

/-- The first checks pass just those reports that say of their samples what is so. -/
theorem checkAlone_eq_ok_iff {r : FunctionReport} :
    r.checkAlone = .ok () ↔ r.Agrees ∧ r.AverageHolds := by
  rw [checkAlone_eq_steps, ite_error_eq_ok_iff, bind_eq_ok_iff, ite_error_eq_ok_iff,
    ite_error_eq_ok_iff, Bool.not_eq_false, isSorted_iff]
  simp only [not_exists, not_and, Int.not_le, Nat.not_lt, and_true]
  constructor
  · rintro ⟨hsorted, hstatistics, hlines, htraced⟩
    obtain ⟨hmin, hmax, hmem, hzero, haverage⟩ := (checkStatistics_eq_ok_iff hsorted).1 hstatistics
    exact ⟨⟨hsorted, hmin, hmax, hmem, hzero, hlines, htraced⟩, haverage⟩
  · rintro ⟨h, haverage⟩
    refine ⟨h.sorted, ?_, h.lines_pos, h.traced_le⟩
    exact (checkStatistics_eq_ok_iff h.sorted).2
      ⟨h.min_le, h.le_max, h.mem_costs, h.eq_zero, haverage⟩

/-- **The checks of a function** pass it, or give a fault, or stop at the number of invocations. -/
theorem check_cases (requested : Nat) (r : FunctionReport) :
    (r.Passes requested ∧ r.check requested = some (.ok ())) ∨
      (r.Overfull ∧ r.check requested = none) ∨
      ¬ r.Passes requested ∧ ¬ r.Overfull ∧
        ∃ reason, r.check requested = some (.error reason) := by
  unfold check
  cases halone : r.checkAlone with
  | error reason =>
    have hbad : ¬ (r.Agrees ∧ r.AverageHolds) := by
      rw [← checkAlone_eq_ok_iff, halone]
      exact fun h => by cases h
    exact .inr (.inr ⟨fun h => hbad ⟨h.agrees, h.average⟩, fun h => hbad ⟨h.agrees, h.average⟩,
      reason, rfl⟩)
  | ok _ =>
    obtain ⟨hagrees, haverage⟩ := checkAlone_eq_ok_iff.1 halone
    simp only [attempted, Option.bind_eq_bind]
    cases hsum : Checked.add r.samples.length r.skipped with
    | none => exact .inr (.inl ⟨⟨hagrees, haverage, Checked.word_eq_none_iff.1 hsum⟩, rfl⟩)
    | some attempted =>
      obtain ⟨hfits, rfl⟩ := Checked.add_eq_some_iff.1 hsum
      by_cases hmore : requested < r.samples.length + r.skipped
      · refine .inr (.inr ⟨fun h => Nat.not_le.2 hmore h.attempted_le,
          fun h => Nat.not_le.2 h.lt_attempted hfits,
          .tooManyIterations (r.samples.length + r.skipped) requested, ?_⟩)
        rw [Option.bind_some, if_pos hmore]
        rfl
      · refine .inl ⟨⟨hagrees, haverage, hfits, Nat.not_lt.1 hmore⟩, ?_⟩
        rw [Option.bind_some, if_neg hmore]
        rfl

theorem check_eq_ok_iff {requested : Nat} {r : FunctionReport} :
    r.check requested = some (.ok ()) ↔ r.Passes requested := by
  rcases check_cases requested r with ⟨h, hok⟩ | ⟨h, hnone⟩ | ⟨h, _, reason, herror⟩
  · exact iff_of_true hok h
  · rw [hnone]
    exact iff_of_false (fun h' => by cases h') fun h' =>
      Nat.not_le.2 h.lt_attempted h'.attempted_fits
  · rw [herror]
    exact iff_of_false (fun h' => by cases h') h

end FunctionReport

/-! ### The functions of a contract -/

namespace ContractReport

open FunctionReport

/-- What comes of functions of which not all pass: the first one that does not is behind others
that do, and it stops the check or is named in the fault. -/
def Refuses {α : Type} (requested : Nat) (rs : List FunctionReport)
    (verdict : Checked (Except Fault α)) : Prop :=
  ∃ before r after, rs = before ++ r :: after ∧ (∀ q ∈ before, q.Passes requested) ∧
    ¬ r.Passes requested ∧
    (r.Overfull ∧ verdict = none ∨
      ¬ r.Overfull ∧ ∃ reason : ReportFault, r.check requested = some (.error reason) ∧
        verdict = some (.error (.invalidReport (r.name ++ ": " ++ reason.message))))

theorem Refuses.map {α β : Type} {requested : Nat} {rs : List FunctionReport}
    {verdict : Checked (Except Fault α)} (h : Refuses requested rs verdict) (f : α → β) :
    Refuses requested rs (verdict.map fun v => v.map f) := by
  obtain ⟨before, r, after, hsplit, hbefore, hr, hverdict⟩ := h
  refine ⟨before, r, after, hsplit, hbefore, hr, ?_⟩
  rcases hverdict with ⟨hfull, rfl⟩ | ⟨hfull, reason, hcheck, rfl⟩
  · exact .inl ⟨hfull, rfl⟩
  · exact .inr ⟨hfull, reason, hcheck, rfl⟩

/-- The functions are checked in order, and the first one that does not pass has the last word. -/
theorem checkAll_cases (requested : Nat) (rs : List FunctionReport) :
    ((∀ r ∈ rs, r.Passes requested) ∧ checkAll requested rs = some (.ok ())) ∨
      Refuses requested rs (checkAll requested rs) := by
  induction rs with
  | nil => exact .inl ⟨fun _ h => absurd h List.not_mem_nil, rfl⟩
  | cons r rs ih =>
    have hnone : ∀ q ∈ ([] : List FunctionReport), q.Passes requested :=
      fun _ h => absurd h List.not_mem_nil
    rcases check_cases requested r with ⟨h, hcheck⟩ | ⟨h, hcheck⟩ | ⟨h, hfull, reason, hcheck⟩
    · have hrest : checkAll requested (r :: rs) = checkAll requested rs := by
        rw [checkAll, hcheck]
      rw [hrest]
      rcases ih with ⟨hall, hok⟩ | ⟨before, q, after, rfl, hbefore, hq, hverdict⟩
      · exact .inl ⟨List.forall_mem_cons.2 ⟨h, hall⟩, hok⟩
      · exact .inr ⟨r :: before, q, after, rfl, List.forall_mem_cons.2 ⟨h, hbefore⟩, hq, hverdict⟩
    · refine .inr ⟨[], r, rs, rfl, hnone, ?_, .inl ⟨h, ?_⟩⟩
      · exact fun h' => Nat.not_le.2 h.lt_attempted h'.attempted_fits
      · rw [checkAll, hcheck]
    · refine .inr ⟨[], r, rs, rfl, hnone, h, .inr ⟨hfull, reason, hcheck, ?_⟩⟩
      rw [checkAll, hcheck]

theorem validate_eq_ok_iff {c : ContractReport} :
    c.validate = some (.ok ()) ↔ ∀ r ∈ c.functions, r.Passes c.iterations := by
  rcases checkAll_cases c.iterations c.functions with
    ⟨hall, hok⟩ | ⟨before, r, after, hsplit, _, hr, hverdict⟩
  · exact ⟨fun _ => hall, fun _ => hok⟩
  · have hmem : r ∈ c.functions := hsplit ▸ List.mem_append_right before List.mem_cons_self
    refine iff_of_false ?_ fun hall => hr (hall r hmem)
    intro h
    rw [validate] at h
    rcases hverdict with ⟨_, hnone⟩ | ⟨_, _, _, herror⟩
    · rw [hnone] at h
      cases h
    · rw [herror] at h
      cases h

theorem read_eq_ok_iff {s : String} {c : ContractReport} :
    read s = some (.ok c) ↔ ofText? s = some c ∧ ∀ r ∈ c.functions, r.Passes c.iterations := by
  unfold read
  cases htext : ofText? s with
  | none => simp
  | some c' =>
    rw [Option.map_eq_some_iff, Option.some.injEq]
    constructor
    · rintro ⟨verdict, hverdict, hok⟩
      cases verdict with
      | error e => cases hok
      | ok _ =>
        cases hok
        exact ⟨rfl, validate_eq_ok_iff.1 hverdict⟩
    · rintro ⟨rfl, hall⟩
      exact ⟨_, validate_eq_ok_iff.2 hall, rfl⟩

/-- **Reading checks the whole numbers of a report.** In a report that is accepted the
statistics of every function agree with its samples, and no more invocations are recorded than
were asked for. A report of which that is not so is refused, and the fault names the first
function that does not pass; if nothing else is wrong with that function and it records more
invocations than a word holds, the program stops there instead. -/
theorem read_checks_report (s : String) :
    (∀ c, read s = some (.ok c) → ofText? s = some c ∧ ∀ r ∈ c.functions,
      r.Agrees ∧ (r.samples ≠ [] → r.min ≤ r.p95 ∧ r.p95 ≤ r.max) ∧
      r.samples.length + r.skipped ≤ c.iterations) ∧
    ∀ c, ofText? s = some c →
      (∃ r ∈ c.functions, ¬ r.Agrees ∨ c.iterations < r.samples.length + r.skipped) →
      Refuses c.iterations c.functions (read s) := by
  constructor
  · intro c hc
    obtain ⟨htext, hall⟩ := read_eq_ok_iff.1 hc
    exact ⟨htext, fun r hr =>
      ⟨(hall r hr).agrees, (hall r hr).agrees.p95_between, (hall r hr).attempted_le⟩⟩
  · rintro c hc ⟨r, hr, hbad⟩
    have hread : read s = c.validate.map fun v => v.map fun _ => c := by rw [read, hc]
    rcases checkAll_cases c.iterations c.functions with ⟨hall, _⟩ | hrefuses
    · rcases hbad with hagrees | hmore
      · exact absurd (hall r hr).agrees hagrees
      · exact absurd (hall r hr).attempted_le (Nat.not_le.2 hmore)
    · rw [hread]
      exact hrefuses.map fun _ => c

/-- Two samples and as many invocations without a receipt as a word can hold, where three
invocations were asked for. -/
def overfullText : String :=
  "\x7b\"name\":\"Vault\",\"iterationsPerFunction\":3,\"functions\":[\x7b\"name\":\"f\"," ++
  "\"samples\":[\x7b\"cost\":5,\"reverted\":false\x7d,\x7b\"cost\":6,\"reverted\":false\x7d]," ++
  "\"min\":5,\"max\":6,\"avg\":5.5,\"p95\":6,\"costByLine\":\x7b\x7d," ++
  "\"skippedIterations\":18446744073709551615\x7d]\x7d"

/-- The number of invocations is two more than a word can hold, and the report is neither accepted
nor refused. -/
theorem read_stops_at_overfull :
    ∃ c, ofText? overfullText = some c ∧
      (∃ r ∈ c.functions, r.samples.length + r.skipped = 2 ^ 64 + 1 ∧
        c.iterations < r.samples.length + r.skipped) ∧
      read overfullText = none := by
  have hcounts : (ofText? overfullText).map (fun c => (c.iterations, c.functions.map fun r =>
      (r.samples.length, r.skipped))) = some (3, [(2, 2 ^ 64 - 1)]) := by
    decide +kernel
  obtain ⟨c, htext, hc⟩ := Option.map_eq_some_iff.1 hcounts
  rw [Prod.mk.injEq, List.map_eq_singleton_iff] at hc
  obtain ⟨hiterations, r, hfunctions, hr⟩ := hc
  obtain ⟨hsamples, hskipped⟩ := Prod.mk.inj hr
  refine ⟨c, htext, ⟨r, hfunctions ▸ List.mem_cons_self, ?_, ?_⟩, ?_⟩
  · omega
  · omega
  · have hstops : (read overfullText).isNone = true := by decide +kernel
    exact Option.isNone_iff_eq_none.1 hstops

end ContractReport

end GasLens
