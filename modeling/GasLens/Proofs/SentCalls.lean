/-
  GasLens/Proofs/SentCalls.lean
  =============================
  **What is sent does not depend on the answers** — two environments that deploy a contract for the
  same account are sent the same calls with the same options, however they answer.

  What is sent for a function is its plan (`FunctionRun.Follows.sendings_eq`), and a plan is drawn
  from the random words alone. So a lost receipt, a fault, a reverted or free invocation and a
  missing trace all leave the rest of the campaign as it was. A trace that stops the campaign cuts
  off the end of what is sent (`sendings_stop_at_heavy_trace`), and changes nothing in front of it
  (`StopsAt.sendings_prefix`).
-/
import GasLens.Proofs.CampaignRuns

namespace GasLens

open GasLens.Abi GasLens.Random GasLens.Source

def FunctionPlan.sendings (settings : CampaignSettings) (plan : FunctionPlan) : List Sending :=
  plan.calls.filterMap (PlannedCall.sending? settings)

theorem map_sending_of_makes {settings : CampaignSettings} {rounds : List Round}
    {calls : List PlannedCall} (h : List.Forall₂ (Round.Makes settings) rounds calls) :
    rounds.map Round.sending = calls.filterMap (PlannedCall.sending? settings) := by
  induction h with
  | nil => rfl
  | cons hmakes _ ih => rw [List.map_cons, List.filterMap_cons_some hmakes, ih]

variable {W : Type}

theorem FunctionRun.Follows.sendings_eq {c : Campaign W} {map : PcLineMap} {run : FunctionRun}
    {plan : FunctionPlan} (h : run.Follows c map plan) :
    run.rounds.map Round.sending = plan.sendings c.settings :=
  map_sending_of_makes h.makes

theorem sendings_of_follows {c : Campaign W} {map : PcLineMap} {runs : List FunctionRun}
    {plans : List FunctionPlan} (h : List.Forall₂ (FunctionRun.Follows c map) runs plans) :
    (runs.flatMap FunctionRun.rounds).map Round.sending =
      plans.flatMap (FunctionPlan.sendings c.settings) := by
  induction h with
  | nil => rfl
  | cons hfollows _ ih =>
    rw [List.flatMap_cons, List.map_append, hfollows.sendings_eq, ih, List.flatMap_cons]

theorem StopsAt.sendings_prefix {c : Campaign W} {map : PcLineMap} {rounds : List Round}
    {plans : List FunctionPlan} (h : StopsAt c map rounds plans) :
    rounds.map Round.sending <+: plans.flatMap (FunctionPlan.sendings c.settings) := by
  obtain ⟨followed, plan, left, runs, last, rfl, hruns, hlast, rfl⟩ := h
  obtain ⟨made, hmade, hmakes⟩ := hlast.makes
  have hbegun : last.map Round.sending <+: plan.sendings c.settings := by
    rw [map_sending_of_makes hmakes]
    exact hmade.filterMap _
  rw [List.map_append, sendings_of_follows hruns, List.flatMap_append, List.flatMap_cons,
    List.prefix_append_right_inj]
  exact hbegun.trans (List.prefix_append _ _)

/-- What is sent for a function: as many calls as the settings say, each of which selects the
function and pays no more than it accepts. -/
structure SentFor (settings : CampaignSettings) (sent : List Sending) (f : Function) : Prop where
  length : sent.length = settings.runs
  fits : ∀ sending ∈ sent, f.selector <+: sending.calldata ∧
    ∃ payment, sending.options = settings.options payment ∧ FitsPayment f payment

theorem FunctionPlan.sentFor {settings : CampaignSettings} {plan : FunctionPlan}
    (hlength : plan.calls.length = settings.runs)
    (hfits : ∀ call ∈ plan.calls, call.Fits plan.function) :
    SentFor settings (plan.sendings settings) plan.function where
  length := by
    rw [← hlength]
    refine List.filterMap_length_eq_length.mpr fun call hcall => ?_
    obtain ⟨calldata, payment, rfl, -⟩ := hfits call hcall
    rfl
  fits := by
    intro sending hsending
    obtain ⟨call, hcall, hsent⟩ := List.mem_filterMap.mp hsending
    obtain ⟨calldata, payment, rfl, hselector, hpayment⟩ := hfits call hcall
    cases hsent
    exact ⟨hselector, payment, rfl, hpayment⟩

theorem sentFor_of_drawPlan {caller : List UInt8} {settings : CampaignSettings}
    {functions : List Function} {source : WordSource} {position : Nat} {plans : List FunctionPlan}
    {next : Nat} (h : drawPlan caller settings.runs functions source position =
      some (plans, next)) :
    List.Forall₂ (SentFor settings) (plans.map (FunctionPlan.sendings settings)) functions := by
  obtain ⟨hfunctions, hcalls⟩ :=
    drawPlan_fits caller settings.runs functions source position plans next h
  rw [← hfunctions, List.forall₂_map_left_iff, List.forall₂_map_right_iff, List.forall₂_same]
  intro plan hplan
  exact plan.sentFor (hcalls plan hplan).1 (hcalls plan hplan).2

/-- What an environment was asked behind the deployment of a contract: a payment in advance and
the calls of the plans, each of them in the world that the one before it had left. They are all the
calls of the plans, or the first of them if a trace stopped the campaign. -/
def Campaign.Sends (c : Campaign W) (contract : CompiledContract) (map : PcLineMap)
    (functions : List Function) (target : Deployment) (plans : List FunctionPlan) (s : Session W)
    (ended : Checked (Except Fault ContractReport) × Session W) : Prop :=
  ∃ seeding rounds : List Round,
    seeding.map Round.sending = seedSendings c.settings functions ∧
    c.Deployed contract target s ended.2 ((seeding ++ rounds).flatMap Round.events) ∧
    rounds.map Round.sending <+: plans.flatMap (FunctionPlan.sendings c.settings) ∧
    (rounds.map Round.sending = plans.flatMap (FunctionPlan.sendings c.settings) ∨
      ended.1 = none ∧ StopsAt c map rounds plans)

/-- The sendings of a campaign that ended with a report are known from its plans. -/
theorem Campaign.Sends.sendings_eq {c : Campaign W} {contract : CompiledContract}
    {map : PcLineMap} {functions : List Function} {target : Deployment}
    {plans : List FunctionPlan} {w : W} {journal : Journal}
    {ended : Checked (Except Fault ContractReport) × Session W}
    (h : c.Sends contract map functions target plans (.start w journal) ended)
    (hended : ended.1.isSome = true) :
    ended.2.sendings = seedSendings c.settings functions ++
      plans.flatMap (FunctionPlan.sendings c.settings) := by
  obtain ⟨seeding, rounds, hseeding, hdeployed, -, hall | ⟨hstopped, -⟩⟩ := h
  · rw [(Session.record_of_deployed hdeployed.recorded).1, List.map_append, hseeding, hall]
  · rw [hstopped] at hended
    cases hended

/-- A campaign against a deployed contract sends what was planned, or the beginning of it. -/
theorem Campaign.exists_sends_of_deployed (c : Campaign W) {contract : CompiledContract}
    {map : PcLineMap} {functions : List Function} {target : Deployment} {s : Session W} {w : W}
    {source : WordSource} {position : Nat} {plans : List FunctionPlan} {next : Nat}
    (hmap : contract.pcLineMap c.settings.policy = .ok map)
    (hfunctions : contract.functions = .ok functions)
    (hdeploy : c.environment.deploy contract (c.settings.options 0) s.world = (.ok target, w))
    (hdraw : drawPlan target.caller c.settings.runs functions source position =
      some (plans, next)) :
    ∃ ended last, c.run contract s source position = some (ended, last) ∧
      (ended.1.isSome → last = next) ∧ c.Sends contract map functions target plans s ended := by
  obtain ⟨seeding, hseeding, ⟨runs, s', hrun, hfollows, hdeployed⟩ |
      ⟨rounds, s', last, hrun, hstops, hdeployed⟩⟩ :=
    c.exists_run_of_deployed hmap hfunctions hdeploy hdraw
  · have hall := sendings_of_follows hfollows
    exact ⟨_, next, hrun, fun _ => rfl, seeding, _, hseeding, hdeployed,
      hall ▸ List.prefix_rfl, .inl hall⟩
  · exact ⟨_, last, hrun, nofun, seeding, rounds, hseeding, hdeployed, hstops.sendings_prefix,
      .inr ⟨rfl, hstops⟩⟩

/-- **What is sent does not depend on the answers.** The environments of two campaigns with the
same settings deploy the contract for the same account, and answer as they like from then on. The
draws from the stream of random words have an end. Then both environments are sent the same calls
with the same options: one that pays in if there is a function for it, and then for each function
in order as many as the settings say. Both campaigns end at the same position in the stream.

A campaign that is stopped by the gas of a trace has sent the first of these calls, and no others.
Each of them could be made: no draw gives arguments that do not fit the function. -/
theorem sendings_regardless_of_answers {V W : Type} (c : Campaign V) (d : Campaign W)
    (hsettings : d.settings = c.settings) (contract : CompiledContract) (v : V) (w : W)
    {target target' : Deployment}
    (hdeploy : (c.environment.deploy contract (c.settings.options 0) v).1 = .ok target)
    (hdeploy' : (d.environment.deploy contract (d.settings.options 0) w).1 = .ok target')
    (hcaller : target'.caller = target.caller) (source : WordSource) (position : Nat)
    (hdraws : ∀ functions, contract.functions = .ok functions →
      (drawPlan target.caller c.settings.runs functions source position).isSome)
    (i j : Journal) :
    ∃ ended next ended' next',
      c.run contract (.start v i) source position = some (ended, next) ∧
      d.run contract (.start w j) source position = some (ended', next') ∧
      (ended.1.isSome → ended'.1.isSome →
        ended'.2.sendings = ended.2.sendings ∧ next' = next) ∧
      ∀ map functions, contract.pcLineMap c.settings.policy = .ok map →
        contract.functions = .ok functions →
        (∃ plans, List.Forall₂ (SentFor c.settings)
            (plans.map (FunctionPlan.sendings c.settings)) functions ∧
          c.Sends contract map functions target plans (.start v i) ended ∧
          d.Sends contract map functions target' plans (.start w j) ended') ∧
        ∀ f ∈ functions, (drawPlannedCall f target.caller).Gives (PlannedCall.Fits f) := by
  cases hmap : contract.pcLineMap c.settings.policy with
  | error f =>
    have hmap' : contract.pcLineMap d.settings.policy = .error f := by rw [hsettings, hmap]
    refine ⟨_, position, _, position, c.run_of_unmapped source position hmap,
      d.run_of_unmapped source position hmap', fun _ _ => ⟨rfl, rfl⟩, ?_⟩
    intro map functions h
    cases h
  | ok map =>
    have hmap' : contract.pcLineMap d.settings.policy = .ok map := by rw [hsettings, hmap]
    cases hfunctions : contract.functions with
    | error f =>
      obtain ⟨s, hrun, hevents, -⟩ :=
        c.exists_run_of_unreadable (s := .start v i) source position hmap hfunctions
      obtain ⟨s', hrun', hevents', -⟩ :=
        d.exists_run_of_unreadable (s := .start w j) source position hmap' hfunctions
      have hsame : s'.sendings = s.sendings := by
        rw [Session.sendings, Session.sendings, hevents, hevents']
        rfl
      refine ⟨_, position, _, position, hrun, hrun', fun _ _ => ⟨hsame, rfl⟩, ?_⟩
      intro map' functions _ h
      cases h
    | ok functions =>
      obtain ⟨⟨plans, next⟩, hdraw⟩ := Option.isSome_iff_exists.mp (hdraws functions hfunctions)
      have hdraw' : drawPlan target'.caller d.settings.runs functions source position =
          some (plans, next) := by
        rw [hcaller, hsettings, hdraw]
      obtain ⟨ended, last, hrun, hlast, hsends⟩ := c.exists_sends_of_deployed (s := .start v i)
        hmap hfunctions (Prod.ext hdeploy rfl) hdraw
      obtain ⟨ended', last', hrun', hlast', hsends'⟩ :=
        d.exists_sends_of_deployed (s := .start w j) hmap' hfunctions
          (Prod.ext hdeploy' rfl) hdraw'
      refine ⟨ended, last, ended', last', hrun, hrun', fun hsome hsome' => ⟨?_, ?_⟩, ?_⟩
      · rw [hsends'.sendings_eq hsome', hsends.sendings_eq hsome, hsettings]
      · rw [hlast' hsome', hlast hsome]
      · intro map' functions' hmap'' hfunctions'
        cases hmap''
        cases hfunctions'
        exact ⟨⟨plans, sentFor_of_drawPlan hdraw, hsends, hsends'⟩,
          fun f _ => drawPlannedCall_fits f target.caller⟩

/-- One environment loses every receipt. The other one reverts every invocation and has no trace
of it. Five calls are sent to both, the first one to pay in. -/
theorem sendings_regardless_of_answers_vault :
    ∃ ended next ended' next',
      (Vault.campaign (.ok none) (.ok .empty)).run Vault.contract (.start () .empty) Vault.words 0 =
        some (ended, next) ∧
      (Vault.campaign (.ok (some ⟨true, 21000, "0x01"⟩)) (.error (.traceNotMined "0x01"))).run
        Vault.contract (.start () .empty) Vault.words 0 = some (ended', next') ∧
      next' = next ∧ ended'.2.sendings = ended.2.sendings ∧ ended.2.sendings.length = 5 := by
  have hdraws : ∀ functions, Vault.contract.functions = .ok functions →
      (drawPlan Vault.deployment.caller Vault.settings.runs functions Vault.words 0).isSome := by
    intro functions hfunctions
    rw [← Except.ok.inj (Vault.functions_contract.symm.trans hfunctions)]
    exact Vault.isSome_drawPlan
  obtain ⟨ended, next, ended', next', hrun, hrun', hsame, -⟩ :=
    sendings_regardless_of_answers (Vault.campaign (.ok none) (.ok .empty))
      (Vault.campaign (.ok (some ⟨true, 21000, "0x01"⟩)) (.error (.traceNotMined "0x01"))) rfl
      Vault.contract () () rfl rfl rfl Vault.words 0 hdraws .empty .empty
  have hended : ((Vault.campaign (.ok none) (.ok .empty)).run Vault.contract (.start () .empty)
      Vault.words 0).map (fun r => (r.1.1.isSome, r.1.2.sendings.length)) = some (true, 5) := by
    decide +kernel
  have hended' : ((Vault.campaign (.ok (some ⟨true, 21000, "0x01"⟩))
      (.error (.traceNotMined "0x01"))).run Vault.contract (.start () .empty) Vault.words 0).map
        (fun r => r.1.1.isSome) = some true := by
    decide +kernel
  rw [hrun] at hended
  rw [hrun'] at hended'
  obtain ⟨hsome, hlength⟩ := Prod.mk.inj (Option.some.inj hended)
  obtain ⟨hsendings, hnext⟩ := hsame hsome (Option.some.inj hended')
  exact ⟨ended, next, ended', next', hrun, hrun', hnext, hsendings, hlength⟩

/-- Behind a trace that does not fit a word nothing more is sent: of the five calls to the vault
only the one that pays in and the first of the plan. -/
theorem sendings_stop_at_heavy_trace :
    ((Vault.campaign Vault.mined (.ok Vault.steps)).run Vault.contract (.start () .empty)
      Vault.words 0).map (fun r => r.1.2.sendings.length) = some 5 ∧
    ((Vault.campaign Vault.mined (.ok Vault.heavySteps)).run Vault.contract (.start () .empty)
      Vault.words 0).map (fun r => r.1.2.sendings.length) = some 2 := by
  decide +kernel

end GasLens
