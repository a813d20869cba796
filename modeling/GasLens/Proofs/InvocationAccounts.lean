/-
  GasLens/Proofs/InvocationAccounts.lean
  ======================================
  **Every invocation is accounted for** — the report of a function against the record of what its
  environment answered.

  An invocation gives a sample, is skipped, or is free. Which of the three it is, is decided by
  its answer; whether its lines are known, by the fetch that follows a sample. So every number in
  the report is a count over the rounds in the record, and the record is what the environment was
  asked and answered.

  There is a report of all invocations as long as the traces fit words, and no more invocations
  are made behind a trace that does not fit (`runFunction_stops_at_heavy_trace`).
-/
import GasLens.Proofs.CampaignRuns
import GasLens.Proofs.FairWords

namespace GasLens

open GasLens.Abi GasLens.Random GasLens.Source

/-- What the report of a function says about the rounds in the record. -/
structure Accounts (map : PcLineMap) (rounds : List Round) (r : FunctionReport) : Prop where
  sorted : r.samples.Pairwise fun a b => a.cost ≤ b.cost
  samples : r.samples.Perm ((rounds.map Round.answer).filterMap Answer.sample?)
  skipped : r.skipped = (rounds.map Round.answer).countP Answer.isLost
  total : r.samples.length + r.skipped + (rounds.map Round.answer).countP Answer.isFree =
    rounds.length
  traced : r.traced = (rounds.filterMap Round.profiled?).length
  traced_le : r.traced ≤ r.samples.length
  costs : ∀ line cost, r.costByLine.get? line = some cost ↔
    IsCharged map ((rounds.filterMap Round.profiled?).flatMap Trace.steps) line ∧
      cost = gasWhere map (fun l => decide (l = line))
        ((rounds.filterMap Round.profiled?).flatMap Trace.steps)

/-- A trace is only fetched for a sample. -/
theorem length_profiled_le (rounds : List Round) :
    (rounds.filterMap Round.profiled?).length ≤
      ((rounds.map Round.answer).filterMap Answer.sample?).length := by
  induction rounds with
  | nil => exact Nat.le_refl _
  | cons round rounds ih =>
    rw [List.map_cons]
    cases hsample : round.answer.sample? with
    | none =>
      have hprofiled : round.profiled? = none := by
        rw [Round.profiled?, hsample, Option.bind_none]
      rw [List.filterMap_cons_none hprofiled, List.filterMap_cons_none hsample]
      exact ih
    | some sample =>
      rw [List.filterMap_cons_some hsample, List.length_cons]
      cases hprofiled : round.profiled? with
      | none =>
        rw [List.filterMap_cons_none hprofiled]
        exact Nat.le_succ_of_le ih
      | some t =>
        rw [List.filterMap_cons_some hprofiled, List.length_cons]
        exact Nat.succ_le_succ ih

theorem Tally.accounts {map : PcLineMap} {name : String} {rounds : List Round}
    {r : FunctionReport} (h : Tally map name rounds r) : Accounts map rounds r.finalize := by
  have hperm : r.finalize.samples.Perm ((rounds.map Round.answer).filterMap Answer.sample?) := by
    rw [← h.samples]
    exact r.samples_finalize_perm
  have hskipped : r.finalize.skipped = (rounds.map Round.answer).countP Answer.isLost :=
    r.skipped_finalize.trans h.skipped
  have htraced : r.finalize.traced = (rounds.filterMap Round.profiled?).length :=
    r.traced_finalize.trans h.traced
  exact {
    sorted := r.samples_finalize_sorted
    samples := hperm
    skipped := hskipped
    total := by
      rw [hperm.length_eq, hskipped, Answer.length_samples_add, List.length_map]
    traced := htraced
    traced_le := by
      rw [htraced, hperm.length_eq]
      exact length_profiled_le rounds
    costs := h.collected.finalize.get?_costByLine_eq_some_iff }

theorem Tally.tracesFit {map : PcLineMap} {name : String} {rounds : List Round}
    {r : FunctionReport} (h : Tally map name rounds r) :
    TracesFit map (rounds.filterMap Round.profiled?) :=
  h.collected.tracesFit

/-- **Every invocation is accounted for.** The words are fair, or at least the calls of the
function can be drawn from them. Then a function is invoked exactly as often as the settings say,
whatever the environment answers, and its report accounts for all these invocations, as long as
the traces that count fit words.

The record is what the environment was asked and answered, each time in the world that the request
before it had left. In each round what follows a sample is the fetching of the trace of its
receipt, and nothing follows any other answer. -/
theorem runFunction_accounts {World : Type} (c : Campaign World) (target : Deployment)
    (map : PcLineMap) (f : Function) (s : Session World) {word : Nat → UInt64} {position : Nat}
    (hdraws : Fair word ∨ ∃ drawn,
      (drawMany (drawPlannedCall f target.caller) c.settings.runs).Settles word position drawn) :
    ∃ (report : Checked FunctionReport) (s' : Session World) (next : Nat) (rounds : List Round),
      (c.runFunction target map f s).Settles word position ((report, s'), next) ∧
      s.Served c.environment target s' (rounds.flatMap Round.events) ∧
      s'.sendings = s.sendings ++ rounds.map Round.sending ∧
      (∀ round ∈ rounds, round.Fetches c) ∧ rounds.length ≤ c.settings.runs ∧
      (report.isSome ↔ TracesFit map (rounds.filterMap Round.profiled?)) ∧
      ∀ r, report = some r →
        rounds.length = c.settings.runs ∧ r.name = f.name ∧ Accounts map rounds r := by
  have hbuilt := built_drawMany (built_drawPlannedCall f target.caller) c.settings.runs
  obtain ⟨⟨calls, next⟩, enough, hdraw⟩ : ∃ drawn, (drawMany (drawPlannedCall f target.caller)
      c.settings.runs).Settles word position drawn :=
    hdraws.elim (fun hfair => hbuilt.ends hfair position) id
  have hdraw := hdraw enough (Nat.le_refl enough)
  obtain ⟨hlength, hcalls⟩ := drawMany_all (drawPlannedCall_fits f target.caller)
    c.settings.runs _ position calls next hdraw
  obtain ⟨last, hrun, -⟩ := c.runFunction_of_drawMany target map hdraw s
  have hsettles := (c.built_runFunction target map f s).steady.settles hrun
  have hsendings {s' : Session World} {rounds : List Round}
      (hserved : s.Served c.environment target s' (rounds.flatMap Round.events)) :
      s'.sendings = s.sendings ++ rounds.map Round.sending := by
    rw [Session.sendings, hserved.recorded, List.filterMap_append, Round.sendings_flatMap_events]
    rfl
  obtain ⟨run, s', hperform, hfollows, hserved⟩ | ⟨rounds, s', hperform, hover, hserved⟩ :=
    c.exists_run_of_performPlan target map ⟨f, calls⟩ hcalls s
  · obtain ⟨r, htally, hclosed⟩ := hfollows.closes
    have hrounds : run.rounds.length = c.settings.runs :=
      hfollows.makes.length_eq.trans hlength
    rw [hperform] at hsettles
    refine ⟨_, s', last, run.rounds, hsettles, hserved, hsendings hserved, hfollows.fetches,
      hrounds.le, iff_of_true rfl htally.tracesFit, ?_⟩
    intro _ hreport
    cases hreport
    rw [hclosed]
    exact ⟨hrounds, r.name_finalize.trans htally.named, htally.accounts⟩
  · obtain ⟨made, hmade, hmakes⟩ := hover.makes
    rw [hperform] at hsettles
    refine ⟨none, s', last, rounds, hsettles, hserved, hsendings hserved, hover.fetches, ?_,
      iff_of_false Bool.false_ne_true hover.overflows, ?_⟩
    · rw [hmakes.length_eq, ← hlength]
      exact hmade.length_le
    · intro _ hreport
      cases hreport

/-- Two invocations of a function of the vault, each with a sample and a trace. -/
theorem runFunction_accounts_vault :
    Fair Vault.words.word ∧
    ∃ (r : FunctionReport) (s' : Session Unit) (next : Nat) (rounds : List Round),
      ((Vault.campaign Vault.mined (.ok Vault.steps)).runFunction Vault.deployment ⟨[(0, 1)]⟩
        Vault.ping (.start () .empty)).Settles Vault.words.word 0 ((some r, s'), next) ∧
      rounds.length = 2 ∧ Accounts ⟨[(0, 1)]⟩ rounds r := by
  have hfair : Fair Vault.words.word := fair_ofList _
  obtain ⟨report, s', next, rounds, hsettles, -, -, -, -, -, haccounts⟩ := runFunction_accounts
    (Vault.campaign Vault.mined (.ok Vault.steps)) Vault.deployment ⟨[(0, 1)]⟩ Vault.ping
    (.start () .empty) (.inl hfair)
  have hended : ((Vault.campaign Vault.mined (.ok Vault.steps)).runFunction Vault.deployment
      ⟨[(0, 1)]⟩ Vault.ping (.start () .empty) Vault.words 0).map (fun r => r.1.1.isSome) =
        some true := by
    decide +kernel
  obtain ⟨⟨⟨ended, s₁⟩, next₁⟩, hrun, hsome⟩ := Option.map_eq_some_iff.1 hended
  obtain ⟨r, rfl⟩ := Option.isSome_iff_exists.1 hsome
  have hsettles' := (Campaign.built_runFunction _ _ _ _ _).steady.settles hrun
  cases hsettles.unique hsettles'
  exact ⟨hfair, r, _, _, rounds, hsettles', (haccounts r rfl).1, (haccounts r rfl).2.2⟩

/-- There is no report of a function whose first trace does not fit a word, and it is not invoked
again. -/
theorem runFunction_stops_at_heavy_trace :
    ((Vault.campaign Vault.mined (.ok Vault.heavySteps)).runFunction Vault.deployment ⟨[]⟩
      Vault.ping (.start () .empty) Vault.words 0).map
        (fun r => (r.1.1.isSome, r.1.2.sendings.length)) = some (false, 1) := by
  decide +kernel

end GasLens
