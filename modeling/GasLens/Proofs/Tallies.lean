/-
  GasLens/Proofs/Tallies.lean
  ===========================
  **What a report counts** — a report is filled by the rounds of its function, and says of them
  what `Tally` says.

  One round keeps a tally (`Tally.enter`), so the report of a function is a tally of all its
  rounds, whatever was answered in them (`exists_run_of_performPlan`). Nothing in the samples or
  in the number of rounds without a receipt comes from what was fetched. What was fetched can stop
  the report, and does exactly if its gas cannot be held in words.
-/
import GasLens.Proofs.CostKeys
import GasLens.Proofs.Rounds

namespace GasLens

open GasLens.Abi GasLens.Source

/-! ### Closing a report -/

namespace FunctionReport

theorem samples_finalize (r : FunctionReport) :
    r.finalize.samples = r.samples.mergeSort cheaper := by
  simp only [finalize]
  split <;> rfl

theorem name_finalize (r : FunctionReport) : r.finalize.name = r.name := by
  simp only [finalize]
  split <;> rfl

theorem skipped_finalize (r : FunctionReport) : r.finalize.skipped = r.skipped := by
  simp only [finalize]
  split <;> rfl

theorem traced_finalize (r : FunctionReport) : r.finalize.traced = r.traced := by
  simp only [finalize]
  split <;> rfl

theorem samples_finalize_perm (r : FunctionReport) : r.finalize.samples.Perm r.samples := by
  rw [samples_finalize]
  exact List.mergeSort_perm _ _

theorem cheaper_trans (a b c : Sample) (hab : cheaper a b = true) (hbc : cheaper b c = true) :
    cheaper a c = true := by
  simp only [cheaper, decide_eq_true_eq] at hab hbc ⊢
  exact Nat.le_trans hab hbc

theorem cheaper_total (a b : Sample) : (cheaper a b || cheaper b a) = true := by
  simp only [cheaper, Bool.or_eq_true, decide_eq_true_eq]
  exact Nat.le_total a.cost b.cost

theorem samples_finalize_sorted (r : FunctionReport) :
    r.finalize.samples.Pairwise fun a b => a.cost ≤ b.cost := by
  rw [samples_finalize]
  refine (List.pairwise_mergeSort cheaper_trans cheaper_total r.samples).imp ?_
  intro a b hab
  exact of_decide_eq_true hab

end FunctionReport

/-! ### Rounds in a report -/

namespace Round

/-- The trace that counts: that of a receipt which gives a sample. -/
def profiled? (r : Round) : Option Trace := r.answer.sample?.bind fun _ => r.trace?

end Round

theorem Answer.isLost_of_sample? {answer : Answer} {sample : Sample}
    (h : answer.sample? = some sample) : answer.isLost = false := by
  rcases answer with f | _ | receipt
  · cases h
  · cases h
  · rfl

/-- A receipt is free if it neither is missing nor gives a sample. -/
theorem Answer.isFree_eq (answer : Answer) :
    answer.isFree = (answer.sample?.isNone && !answer.isLost) := by
  rcases answer with f | _ | receipt
  · rfl
  · rfl
  · by_cases hcost : receipt.cost = 0 <;> simp [sample?, isLost, isFree, hcost]

/-- Every answer is of one of three kinds. -/
theorem Answer.length_samples_add (answers : List Answer) :
    (answers.filterMap sample?).length + answers.countP isLost + answers.countP isFree =
      answers.length := by
  induction answers with
  | nil => rfl
  | cons answer answers ih =>
    rw [List.length_cons, ← ih, List.countP_cons, List.countP_cons, isFree_eq answer]
    cases hsample : answer.sample? with
    | none =>
      rw [List.filterMap_cons_none hsample]
      cases hlost : answer.isLost <;> simp <;> omega
    | some sample =>
      rw [List.filterMap_cons_some hsample, isLost_of_sample? hsample]
      simp
      omega

/-- What a report says about the rounds it was filled with. -/
structure Tally (map : PcLineMap) (name : String) (rounds : List Round) (r : FunctionReport) :
    Prop where
  named : r.name = name
  samples : r.samples = (rounds.map Round.answer).filterMap Answer.sample?
  skipped : r.skipped = (rounds.map Round.answer).countP Answer.isLost
  traced : r.traced = (rounds.filterMap Round.profiled?).length
  collected : FunctionReport.Collected map r (rounds.filterMap Round.profiled?)

theorem Tally.start (map : PcLineMap) (name : String) : Tally map name [] (.ofName name) where
  named := rfl
  samples := rfl
  skipped := rfl
  traced := rfl
  collected := .start name

/-- A round of which no trace counts changes the counts of the report alone. -/
theorem Tally.enter_of_not_profiled {map : PcLineMap} {name : String} {rounds : List Round}
    {r : FunctionReport} (h : Tally map name rounds r) {round : Round}
    (hprofiled : round.profiled? = none) :
    ∃ r', r.enter map round.invocation = some r' ∧ Tally map name (rounds ++ [round]) r' := by
  cases hsample : round.answer.sample? with
  | none =>
    cases hlost : round.answer.isLost with
    | true =>
      refine ⟨r.skip, by rw [Round.invocation, hsample, hlost]; rfl, ?_⟩
      exact {
        named := h.named
        samples := by simp [FunctionReport.skip, h.samples, hsample]
        skipped := by simp [FunctionReport.skip, h.skipped, hlost]
        traced := by simp [FunctionReport.skip, h.traced, hprofiled]
        collected := by simpa [hprofiled] using h.collected.skip }
    | false =>
      refine ⟨r, by rw [Round.invocation, hsample, hlost]; rfl, ?_⟩
      exact {
        named := h.named
        samples := by simp [h.samples, hsample]
        skipped := by simp [h.skipped, hlost]
        traced := by simp [h.traced, hprofiled]
        collected := by simpa [hprofiled] using h.collected }
  | some sample =>
    have hlost := Answer.isLost_of_sample? hsample
    have htrace : round.trace? = none := by
      rwa [Round.profiled?, hsample, Option.bind_some] at hprofiled
    refine ⟨r.record sample, by rw [Round.invocation, hsample, htrace]; rfl, ?_⟩
    exact {
      named := h.named
      samples := by simp [FunctionReport.record, h.samples, hsample]
      skipped := by simp [FunctionReport.record, h.skipped, hlost]
      traced := by simp [FunctionReport.record, h.traced, hprofiled]
      collected := by simpa [hprofiled] using h.collected.record sample }

/-- **One round keeps a tally**, unless its trace is too much for the report. -/
theorem Tally.enter {map : PcLineMap} {name : String} {rounds : List Round} {r : FunctionReport}
    (h : Tally map name rounds r) (round : Round) :
    (∃ r', r.enter map round.invocation = some r' ∧ Tally map name (rounds ++ [round]) r') ∨
      r.enter map round.invocation = none ∧
        ¬ TracesFit map ((rounds ++ [round]).filterMap Round.profiled?) := by
  cases hprofiled : round.profiled? with
  | none => exact .inl (h.enter_of_not_profiled hprofiled)
  | some t =>
    obtain ⟨sample, hsample, htrace⟩ := Option.bind_eq_some_iff.1 hprofiled
    have hlost := Answer.isLost_of_sample? hsample
    have hinvocation : round.invocation = .sampled sample (some t) := by
      rw [Round.invocation, hsample, htrace]
    have htraces : (rounds ++ [round]).filterMap Round.profiled? =
        rounds.filterMap Round.profiled? ++ [t] := by simp [hprofiled]
    have hrecorded := h.collected.record sample
    rw [hinvocation, htraces, FunctionReport.enter]
    cases hcharged : (do (r.record sample).charge (← Profile.replay t map).costByLine :
        Checked FunctionReport) with
    | none =>
      refine .inr ⟨rfl, fun hfits => ?_⟩
      obtain ⟨p, r', hp, hcharge⟩ := hrecorded.exists_charge_iff.2 hfits
      rw [Option.bind_eq_bind, hp, Option.bind_some, hcharge] at hcharged
      cases hcharged
    | some r' =>
      rw [Option.bind_eq_bind, Option.bind_eq_some_iff] at hcharged
      obtain ⟨p, hp, hcharge⟩ := hcharged
      have hcollected := hrecorded.charge hp hcharge
      obtain rfl := hrecorded.eq_accumulate hp hcharge
      refine .inl ⟨_, rfl, ?_⟩
      exact {
        named := h.named
        samples := by simp [FunctionReport.record, FunctionReport.accumulate, h.samples, hsample]
        skipped := by simp [FunctionReport.record, FunctionReport.accumulate, h.skipped, hlost]
        traced := by
          simp [FunctionReport.record, FunctionReport.accumulate, h.traced, hprofiled]
        collected := htraces ▸ hcollected }

end GasLens
