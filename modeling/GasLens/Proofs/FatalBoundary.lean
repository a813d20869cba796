/-
  GasLens/Proofs/FatalBoundary.lean
  =================================
  **What ends a campaign early** — three faults can, in this order: the code cannot be mapped, the
  interface cannot be read, the contract cannot be deployed.

  The first two are found before the environment is asked for anything. Behind the deployment
  there is no fault: whatever is answered, every function gets its rounds and its report. What is
  left is a trace with more gas than a word can hold, which stops a campaign without a report and
  without a fault (`run_stops_at_heavy_trace`).
-/
import GasLens.Proofs.CampaignRuns
import GasLens.Proofs.FairWords

namespace GasLens

open GasLens.Abi GasLens.Random GasLens.Source

/-- A campaign that ended with a fault, after these requests and no others, and left a world. -/
structure Aborted {World : Type} (s : Session World) (f : Fault) (requests : List Event)
    (w : World) (result : Checked (Except Fault ContractReport) × Session World) : Prop where
  fault : result.1 = some (.error f)
  events : result.2.events = s.events ++ requests
  world : result.2.world = w

/-- A function was invoked a number of times, and its report is closed over all these rounds. -/
structure FunctionRun.Covers (map : PcLineMap) (runs : Nat) (run : FunctionRun) (f : Function) :
    Prop where
  named : run.report.name = f.name
  length : run.rounds.length = runs
  closes : ∃ r, Tally map f.name run.rounds r ∧ run.report = r.finalize

section

variable {World : Type} (c : Campaign World) (contract : CompiledContract) (map : PcLineMap)
  (functions : List Function) (target : Deployment) (s : Session World)
  (result : Checked (Except Fault ContractReport) × Session World)

/-- A campaign that ended with a report: after the deployment at most one round pays in, and then
there are the rounds of the functions, in order. -/
def Completed : Prop :=
  ∃ (seeding : List Round) (runs : List FunctionRun),
    result.1 = some (.ok ⟨contract.name, c.settings.runs, runs.map FunctionRun.report⟩) ∧
    List.Forall₂ (FunctionRun.Covers map c.settings.runs) runs functions ∧
    seeding.length ≤ 1 ∧
    c.Deployed contract target s result.2
      ((seeding ++ runs.flatMap FunctionRun.rounds).flatMap Round.events)

/-- A campaign that was stopped in one of the functions: the rounds of the functions in front of it
are all there, and the traces in its own rounds are too much for a report. -/
def Stopped : Prop :=
  ∃ (seeding : List Round) (runs : List FunctionRun) (last : List Round)
    (covered : List Function) (f : Function) (left : List Function),
    result.1 = none ∧ functions = covered ++ f :: left ∧
    List.Forall₂ (FunctionRun.Covers map c.settings.runs) runs covered ∧
    seeding.length ≤ 1 ∧ last.length ≤ c.settings.runs ∧
    ¬ TracesFit map (last.filterMap Round.profiled?) ∧
    c.Deployed contract target s result.2
      ((seeding ++ (runs.flatMap FunctionRun.rounds ++ last)).flatMap Round.events)

end

variable {World : Type} {c : Campaign World} {map : PcLineMap}

theorem FunctionRun.Follows.covers {run : FunctionRun} {plan : FunctionPlan} {runs : Nat}
    (h : run.Follows c map plan) (hlength : plan.calls.length = runs) :
    run.Covers map runs plan.function where
  named := by
    obtain ⟨r, htally, hclosed⟩ := h.closes
    rw [hclosed, r.name_finalize, htally.named]
  length := h.makes.length_eq.trans hlength
  closes := h.closes

theorem covers_of_follows {runs : List FunctionRun} {plans : List FunctionPlan}
    (h : List.Forall₂ (FunctionRun.Follows c map) runs plans)
    (hlength : ∀ plan ∈ plans, plan.calls.length = c.settings.runs) :
    List.Forall₂ (FunctionRun.Covers map c.settings.runs) runs
      (plans.map FunctionPlan.function) := by
  induction h with
  | nil => exact .nil
  | cons hfollows _ ih =>
    obtain ⟨hfirst, hrest⟩ := List.forall_mem_cons.mp hlength
    exact .cons (hfollows.covers hfirst) (ih hrest)

theorem length_seedSendings_le (settings : CampaignSettings) (functions : List Function) :
    (seedSendings settings functions).length ≤ 1 := by
  rw [seedSendings]
  exact Option.length_toList_le

/-- The functions before the one that overruns its report are all covered. -/
theorem StopsAt.stopped {contract : CompiledContract} {target : Deployment}
    {s s' : Session World} {seeding rounds : List Round} {plans : List FunctionPlan}
    (h : StopsAt c map rounds plans)
    (hlength : ∀ plan ∈ plans, plan.calls.length = c.settings.runs)
    (hseeding : seeding.length ≤ 1)
    (hdeployed : c.Deployed contract target s s' ((seeding ++ rounds).flatMap Round.events)) :
    Stopped c contract map (plans.map FunctionPlan.function) target s (none, s') := by
  obtain ⟨followed, plan, left, runs, last, rfl, hruns, hlast, rfl⟩ := h
  obtain ⟨hfollowed, hrest⟩ := List.forall_mem_append.mp hlength
  obtain ⟨made, hmade, hmakes⟩ := hlast.makes
  refine ⟨seeding, runs, last, followed.map FunctionPlan.function, plan.function,
    left.map FunctionPlan.function, rfl, ?_, covers_of_follows hruns hfollowed, hseeding, ?_,
    hlast.overflows, hdeployed⟩
  · rw [List.map_append, List.map_cons]
  · rw [hmakes.length_eq, ← hrest plan List.mem_cons_self]
    exact hmade.length_le

/-- **What ends a campaign early.** The code that cannot be mapped comes first and the interface
that cannot be read second; nothing has been asked of the environment then, and its world is as it
was. A deployment that fails is the only request.

Behind the deployment a campaign ends without a fault, whatever is answered, on every fair stream
of words and on any other one that gives all the calls. It ends with one report for each function,
in the order of the interface and under its name, unless the traces of a function are too much for
its report. -/
theorem run_all_or_nothing (c : Campaign World) (contract : CompiledContract) (s : Session World)
    (word : Nat → UInt64) (position : Nat) :
    match contract.pcLineMap c.settings.policy, contract.functions,
      c.environment.deploy contract (c.settings.options 0) s.world with
    | .error f, _, _ => ∃ result,
      (c.run contract s).Settles word position (result, position) ∧ Aborted s f [] s.world result
    | .ok _, .error f, _ => ∃ result,
      (c.run contract s).Settles word position (result, position) ∧ Aborted s f [] s.world result
    | .ok _, .ok _, (.error f, w) => ∃ result,
      (c.run contract s).Settles word position (result, position) ∧
        Aborted s f [.deployed contract.name (c.settings.options 0) (.error f)] w result
    | .ok map, .ok functions, (.ok target, _) =>
      (Fair word ∨ ∃ drawn,
        (drawPlan target.caller c.settings.runs functions).Settles word position drawn) →
      ∃ result next, (c.run contract s).Settles word position (result, next) ∧
        (Completed c contract map functions target s result ∨
          Stopped c contract map functions target s result) := by
  have hsteady : (c.run contract s).Steady := (c.built_run contract s).steady
  cases hmap : contract.pcLineMap c.settings.policy with
  | error f =>
    -- no word is drawn before the deployment, so no patience is enough there
    have hrun := c.run_of_unmapped (s := s) ⟨word, 0⟩ position hmap
    exact ⟨_, hsteady.settles hrun, ⟨rfl, (List.append_nil _).symm, rfl⟩⟩
  | ok map =>
    cases hfunctions : contract.functions with
    | error f =>
      obtain ⟨s', hrun, hevents, hworld⟩ :=
        c.exists_run_of_unreadable (s := s) ⟨word, 0⟩ position hmap hfunctions
      have hnone := hevents.trans (List.append_nil _).symm
      exact ⟨_, hsteady.settles hrun, ⟨rfl, hnone, hworld⟩⟩
    | ok functions =>
      rcases hdeploy : c.environment.deploy contract (c.settings.options 0) s.world with
        ⟨f | target, w⟩
      · obtain ⟨s', hrun, hevents, hworld⟩ :=
          c.exists_run_of_undeployed ⟨word, 0⟩ position hmap hfunctions hdeploy
        exact ⟨_, hsteady.settles hrun, ⟨rfl, hevents, hworld⟩⟩
      · intro hdraws
        have hbuilt := built_drawPlan target.caller c.settings.runs functions
        obtain ⟨⟨plans, next⟩, enough, hdraw⟩ : ∃ drawn,
            (drawPlan target.caller c.settings.runs functions).Settles word position drawn :=
          hdraws.elim (fun hfair => hbuilt.ends hfair position) id
        have hdraw := hdraw enough (Nat.le_refl enough)
        obtain ⟨hplans, hcalls⟩ :=
          drawPlan_fits target.caller c.settings.runs functions _ position plans next hdraw
        have hlength : ∀ plan ∈ plans, plan.calls.length = c.settings.runs :=
          fun plan hplan => (hcalls plan hplan).1
        obtain ⟨seeding, hseeding, hends⟩ := c.exists_run_of_deployed hmap hfunctions hdeploy hdraw
        have hseeded : seeding.length ≤ 1 := by
          rw [← List.length_map Round.sending, hseeding]
          exact length_seedSendings_le c.settings functions
        obtain ⟨runs, s', hrun, hfollows, hdeployed⟩ |
            ⟨rounds, s', last, hrun, hstops, hdeployed⟩ := hends
        · refine ⟨_, next, hsteady.settles hrun, .inl ⟨seeding, runs, rfl, ?_, hseeded, hdeployed⟩⟩
          rw [← hplans]
          exact covers_of_follows hfollows hlength
        · refine ⟨_, last, hsteady.settles hrun, .inr ?_⟩
          rw [← hplans]
          exact hstops.stopped hlength hseeded hdeployed

/-- The campaign against the vault ends with a report of its two functions on a fair stream. -/
theorem run_all_or_nothing_vault :
    Fair Vault.words.word ∧ ∃ map result next,
      Vault.contract.pcLineMap Vault.settings.policy = .ok map ∧
      ((Vault.campaign Vault.mined (.ok Vault.steps)).run Vault.contract
        (.start () .empty)).Settles Vault.words.word 0 (result, next) ∧
      Completed (Vault.campaign Vault.mined (.ok Vault.steps)) Vault.contract map
        [Vault.deposit, Vault.ping] Vault.deployment (.start () .empty) result := by
  have hfair : Fair Vault.words.word := fair_ofList _
  obtain ⟨map, hmap⟩ := Vault.exists_pcLineMap_contract
  have hends := run_all_or_nothing (Vault.campaign Vault.mined (.ok Vault.steps)) Vault.contract
    (.start () .empty) Vault.words.word 0
  have hsettings : (Vault.campaign Vault.mined (.ok Vault.steps)).settings = Vault.settings := rfl
  have hdeploy : (Vault.campaign Vault.mined (.ok Vault.steps)).environment.deploy Vault.contract
      (Vault.settings.options 0) () = (.ok Vault.deployment, ()) := rfl
  simp only [hsettings, hmap, Vault.functions_contract, Session.start, hdeploy] at hends
  obtain ⟨result, next, hsettles, hcompleted | hstopped⟩ := hends (.inl hfair)
  · exact ⟨hfair, map, result, next, hmap, hsettles, hcompleted⟩
  · obtain ⟨_, _, _, _, _, _, hnone, -⟩ := hstopped
    have hended : ((Vault.campaign Vault.mined (.ok Vault.steps)).run Vault.contract
        (.start () .empty) Vault.words 0).map (fun r => r.1.1.isSome) = some true := by
      decide +kernel
    obtain ⟨⟨ended, next'⟩, hrun, hsome⟩ := Option.map_eq_some_iff.1 hended
    have hsame := hsettles.unique ((Campaign.built_run _ _ _).steady.settles hrun)
    cases hsame
    rw [hnone] at hsome
    cases hsome

/-- The vault is deployed, and its campaign ends without a report because the first trace does not
fit a word. -/
theorem run_stops_at_heavy_trace :
    ((Vault.campaign Vault.mined (.ok Vault.heavySteps)).run Vault.contract (.start () .empty)
      Vault.words 0).map (fun r => (r.1.1.isSome, r.1.2.answers)) =
        some (false, [Vault.mined, Vault.mined]) := by
  decide +kernel

end GasLens
