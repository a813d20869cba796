/-
  GasLens/Proofs/FunctionRuns.lean
  ================================
  **Functions as lists of rounds** — what the calls of a plan do, as rounds and a report of them.

  One call is one round, so the calls of a function are as many rounds, in order, and its report
  is a closed tally of these. Functions follow one another without any other event between them.
  Where a report cannot hold the traces, the rounds of its function end with the one whose trace
  was too much, and no further call of the plan is made.
-/
import GasLens.Proofs.PlannedCalls
import GasLens.Proofs.Tallies
import Mathlib.Data.List.Forall2

namespace GasLens

open GasLens.Abi GasLens.Random GasLens.Source

def PlannedCall.sending? (settings : CampaignSettings) : PlannedCall → Option Sending
  | .call calldata payment => some ⟨calldata, settings.options payment⟩
  | .unencodable _ => none

/-- What is sent in a round is what was planned. -/
def Round.Makes (settings : CampaignSettings) (r : Round) (call : PlannedCall) : Prop :=
  call.sending? settings = some r.sending

/-- The rounds of a function and the report of them. -/
structure FunctionRun where
  rounds : List Round
  report : FunctionReport

variable {World : Type}

/-- The calls of a plan are made, one round for each, and all rounds are in the report. -/
structure FunctionRun.Follows (c : Campaign World) (map : PcLineMap) (run : FunctionRun)
    (plan : FunctionPlan) : Prop where
  makes : List.Forall₂ (Round.Makes c.settings) run.rounds plan.calls
  fetches : ∀ round ∈ run.rounds, round.Fetches c
  closes : ∃ r, Tally map plan.function.name run.rounds r ∧ run.report = r.finalize

/-- The first calls of a plan are made, one round for each, and then the traces of these rounds
are too much for a report. -/
structure Overruns (c : Campaign World) (map : PcLineMap) (rounds : List Round)
    (plan : FunctionPlan) : Prop where
  makes : ∃ made, made <+: plan.calls ∧ List.Forall₂ (Round.Makes c.settings) rounds made
  fetches : ∀ round ∈ rounds, round.Fetches c
  overflows : ¬ TracesFit map (rounds.filterMap Round.profiled?)

/-- Plans are followed one after another until one is overrun. -/
def StopsAt (c : Campaign World) (map : PcLineMap) (rounds : List Round)
    (plans : List FunctionPlan) : Prop :=
  ∃ followed plan left runs last, plans = followed ++ plan :: left ∧
    List.Forall₂ (FunctionRun.Follows c map) runs followed ∧ Overruns c map last plan ∧
    rounds = runs.flatMap FunctionRun.rounds ++ last

theorem StopsAt.behind {c : Campaign World} {map : PcLineMap} {rounds : List Round}
    {plans : List FunctionPlan} (h : StopsAt c map rounds plans) {run : FunctionRun}
    {plan : FunctionPlan} (hrun : run.Follows c map plan) :
    StopsAt c map (run.rounds ++ rounds) (plan :: plans) := by
  obtain ⟨followed, overrun, left, runs, last, rfl, hruns, hlast, rfl⟩ := h
  refine ⟨plan :: followed, overrun, left, run :: runs, last, rfl, .cons hrun hruns, hlast, ?_⟩
  rw [List.flatMap_cons, List.append_assoc]

namespace Campaign

variable (c : Campaign World) (target : Deployment) (map : PcLineMap)

theorem exists_rounds_of_performAll {f : Function} {calls : List PlannedCall}
    (hcalls : ∀ call ∈ calls, call.Fits f) {before : List Round} {r : FunctionReport}
    (htally : Tally map f.name before r) (iteration : Nat) (s : Session World) :
    ∃ rounds made result s', c.performAll target map f.name iteration calls r s = (result, s') ∧
      made <+: calls ∧ List.Forall₂ (Round.Makes c.settings) rounds made ∧
      (∀ round ∈ rounds, round.Fetches c) ∧
      s.Served c.environment target s' (rounds.flatMap Round.events) ∧
      ((∃ r', result = some r' ∧ made = calls ∧ Tally map f.name (before ++ rounds) r') ∨
        result = none ∧ ¬ TracesFit map ((before ++ rounds).filterMap Round.profiled?)) := by
  -- the report so far is a tally of the rounds so far, and each call adds a round to both
  induction calls generalizing before r iteration s with
  | nil =>
    refine ⟨[], [], some r, s, rfl, List.prefix_rfl, .nil, nofun, .of_same rfl rfl,
      .inl ⟨r, rfl, rfl, ?_⟩⟩
    rwa [List.append_nil]
  | cons call calls ih =>
    obtain ⟨⟨calldata, payment, rfl, -, -⟩, hrest⟩ := List.forall_mem_cons.mp hcalls
    obtain ⟨round, hsending, hfetches, hinvocation, hserved⟩ :=
      c.exists_round_of_perform target f.name iteration calldata payment s
    rcases hperform : c.perform target f.name iteration (.call calldata payment) s with
      ⟨invocation, s₁⟩
    rw [hperform] at hinvocation hserved
    have hmakes : round.Makes c.settings (.call calldata payment) := by
      rw [Round.Makes, PlannedCall.sending?, hsending]
    simp only [performAll, hperform, hinvocation]
    obtain ⟨r', henter, htally'⟩ | ⟨henter, hover⟩ := htally.enter round
    · obtain ⟨rounds, made, result, s', hresult, hmade, hrounds, hquiet, hlater, hends⟩ :=
        ih hrest htally' (iteration + 1) s₁
      rw [List.append_assoc, List.singleton_append] at hends
      simp only [henter, hresult]
      refine ⟨round :: rounds, .call calldata payment :: made, result, s', rfl,
        List.cons_prefix_cons.2 ⟨rfl, hmade⟩, .cons hmakes hrounds,
        List.forall_mem_cons.mpr ⟨hfetches, hquiet⟩, hserved.append hlater, ?_⟩
      refine hends.imp_left ?_
      rintro ⟨last, hlast, rfl, hfinal⟩
      exact ⟨last, hlast, rfl, hfinal⟩
    · simp only [henter]
      refine ⟨[round], [.call calldata payment], none, s₁, rfl, ?_, .cons hmakes .nil,
        List.forall_mem_singleton.mpr hfetches, ?_, .inr ⟨rfl, hover⟩⟩
      · exact List.cons_prefix_cons.2 ⟨rfl, List.nil_prefix⟩
      · rwa [List.flatMap_singleton]

/-- **A planned function** has all its calls made and a report of them, or its traces are too
much for one. -/
theorem exists_run_of_performPlan (plan : FunctionPlan)
    (hcalls : ∀ call ∈ plan.calls, call.Fits plan.function) (s : Session World) :
    (∃ run s', c.performPlan target map plan s = (some (FunctionRun.report run), s') ∧
      run.Follows c map plan ∧
      s.Served c.environment target s' (run.rounds.flatMap Round.events)) ∨
    ∃ rounds s', c.performPlan target map plan s = (none, s') ∧ Overruns c map rounds plan ∧
      s.Served c.environment target s' (rounds.flatMap Round.events) := by
  obtain ⟨rounds, made, result, s', hresult, hmade, hrounds, hfetches, hserved, hends⟩ :=
    c.exists_rounds_of_performAll target map hcalls (.start map plan.function.name) 0 s
  rw [List.nil_append] at hends
  simp only [performPlan, hresult]
  obtain ⟨r, rfl, rfl, htally⟩ | ⟨rfl, hover⟩ := hends
  · exact .inl ⟨⟨rounds, r.finalize⟩, _, rfl, ⟨hrounds, hfetches, r, htally, rfl⟩,
      hserved.noted rfl rfl⟩
  · exact .inr ⟨rounds, s', rfl, ⟨⟨made, hmade, hrounds⟩, hfetches, hover⟩, hserved⟩

/-- Functions follow one another until one of them overruns its report. -/
theorem exists_runs_of_performPlans {plans : List FunctionPlan}
    (hcalls : ∀ plan ∈ plans, ∀ call ∈ plan.calls, call.Fits plan.function) (s : Session World) :
    (∃ (runs : List FunctionRun) (s' : Session World),
      c.performPlans target map plans s = (some (runs.map FunctionRun.report), s') ∧
      List.Forall₂ (FunctionRun.Follows c map) runs plans ∧
      s.Served c.environment target s'
        ((runs.flatMap FunctionRun.rounds).flatMap Round.events)) ∨
    ∃ rounds s', c.performPlans target map plans s = (none, s') ∧ StopsAt c map rounds plans ∧
      s.Served c.environment target s' (rounds.flatMap Round.events) := by
  induction plans generalizing s with
  | nil => exact .inl ⟨[], s, rfl, .nil, .of_same rfl rfl⟩
  | cons plan plans ih =>
    obtain ⟨hplan, hplans⟩ := List.forall_mem_cons.mp hcalls
    obtain ⟨run, s₁, hperform, hfollows, hserved⟩ | ⟨rounds, s₁, hperform, hover, hserved⟩ :=
      c.exists_run_of_performPlan target map plan hplan s
    · simp only [performPlans, hperform]
      obtain ⟨runs, s', hothers, hruns, hlater⟩ | ⟨rounds, s', hothers, hstops, hlater⟩ :=
        ih hplans s₁
      · refine .inl ⟨run :: runs, s', by rw [hothers]; rfl, .cons hfollows hruns, ?_⟩
        rw [List.flatMap_cons, List.flatMap_append]
        exact hserved.append hlater
      · refine .inr ⟨run.rounds ++ rounds, s', by rw [hothers]; rfl, hstops.behind hfollows, ?_⟩
        rw [List.flatMap_append]
        exact hserved.append hlater
    · simp only [performPlans, hperform]
      exact .inr ⟨rounds, s₁, rfl, ⟨[], plan, plans, [], rounds, rfl, .nil, hover, rfl⟩, hserved⟩

end Campaign

end GasLens
