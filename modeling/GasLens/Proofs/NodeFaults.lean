/-
  GasLens/Proofs/NodeFaults.lean
  ==============================
  **Faults over a node** — which faults an operation can end with, whatever the node answers.

  Every step of an operation words its failures on its own, so each operation is gone through step
  by step, by the rules of `Ends`. What a campaign or a fetched trace can end with follows from the
  faults of its environment, whichever that is.
-/
import GasLens.Proofs.CampaignRuns
import GasLens.Proofs.Exchanges

namespace GasLens

open GasLens.Text

/-! ### Faults of a campaign -/

section Campaigns

open GasLens.Random GasLens.Source

variable {World : Type} {f : Fault}

/-- Whatever is wrong with a code or its source map ends a run. -/
theorem isFatal_of_buildPcLineMap {sourceMap code : Option String} {source : String}
    {policy : EmptyFieldPolicy} (h : buildPcLineMap sourceMap code source policy = .error f) :
    f.isFatal = true := by
  unfold buildPcLineMap at h
  split at h
  · rename_i sourceMap code _ _
    cases hdecode : Bytecode.decodeText code with
    | error cause =>
      rw [hdecode] at h
      cases h
      rfl
    | ok instructions =>
      cases hpositions : readPositions policy sourceMap with
      | error cause =>
        rw [hdecode, hpositions] at h
        cases h
        rfl
      | ok positions =>
        rw [hdecode, hpositions] at h
        cases h
  · cases h

theorem isFatal_of_functionsOfEntries {entries : List Json}
    (h : Abi.functionsOfEntries entries = .error f) : f.isFatal = true := by
  fun_induction Abi.functionsOfEntries entries with
  | case1 => cases h
  | case2 j r _ function _ ih =>
    cases hrest : Abi.functionsOfEntries r with
    | ok functions =>
      rw [hrest] at h
      cases h
    | error f₁ =>
      rw [hrest] at h
      cases h
      exact ih hrest
  | case3 =>
    cases h
    rfl
  | case4 _ _ _ ih => exact ih h

theorem isFatal_of_functionsOf {abi : Json} (h : Abi.functionsOf abi = .error f) :
    f.isFatal = true := by
  unfold Abi.functionsOf at h
  split at h
  · exact isFatal_of_functionsOfEntries h
  · cases h
    rfl

/-- A campaign ends with a fault of its contract, or with that of the deployment. -/
theorem Campaign.fault_of_run {c : Campaign World} {contract : CompiledContract}
    {s s' : Session World} {source : WordSource} {position next : Nat}
    (h : c.run contract s source position = some ((some (.error f), s'), next)) :
    contract.pcLineMap c.settings.policy = .error f ∨ contract.functions = .error f ∨
      (c.environment.deploy contract (c.settings.options 0) s.world).1 = .error f := by
  cases hmap : contract.pcLineMap c.settings.policy with
  | error f₁ =>
    rw [c.run_of_unmapped source position hmap] at h
    cases h
    exact Or.inl rfl
  | ok map =>
    cases hfunctions : contract.functions with
    | error f₁ =>
      obtain ⟨s₁, hrun, -⟩ :=
        c.exists_run_of_unreadable (s := s) source position hmap hfunctions
      rw [hrun] at h
      cases h
      exact Or.inr (Or.inl rfl)
    | ok functions =>
      rcases hdeploy : c.environment.deploy contract (c.settings.options 0) s.world with
        ⟨f₁ | target, w⟩
      · obtain ⟨s₁, hrun, -⟩ :=
          c.exists_run_of_undeployed source position hmap hfunctions hdeploy
        rw [hrun] at h
        cases h
        exact Or.inr (Or.inr rfl)
      · obtain ⟨s₁, _, -, -, hrun⟩ := c.exists_run_eq_of_deployed hmap hfunctions hdeploy
        rw [hrun, map_apply, Option.map_eq_some_iff] at h
        obtain ⟨⟨⟨_ | reports, s₂⟩, last⟩, -, heq⟩ := h
        · cases heq
        · cases heq

/-- A fault that another attempt could mend is never the last word: a trace that cannot be had is
unavailable in the end. -/
theorem Session.fault_of_attemptTrace {e : Environment World} {policy : RetryPolicy} {l : Logger}
    {transaction : String} {left : Nat} {s : Session World}
    (h : (attemptTrace e policy l transaction left s).1 = .error f) :
    (∃ reason, f = .traceUnavailable transaction reason) ∨
      f.isRetryable = false ∧ ∃ world, (e.trace transaction world).1 = .error f := by
  fun_induction attemptTrace e policy l transaction left s with
  | case1 => cases h
  | case2 _ s f₁ _ htrace hlast =>
    cases h
    refine Or.inr ⟨Bool.eq_false_of_not_eq_true' hlast, s.world, ?_⟩
    exact congrArg Prod.fst htrace
  | case3 =>
    cases h
    exact Or.inl ⟨_, rfl⟩
  | case4 _ _ _ _ _ _ _ _ ih => exact ih h

end Campaigns

namespace Node

variable {State : Type}

namespace Client

variable (c : Client State)

/-! ### Deploying -/

inductive IsDeployFault : Fault → Prop
  | deploy (reason : String) : IsDeployFault (.deploy reason)
  | decode (cause : DecodeFault) : IsDeployFault (.decode cause)

theorem IsDeployFault.isFatal {f : Fault} (h : IsDeployFault f) : f.isFatal = true := by
  cases h with
  | deploy => rfl
  | decode => rfl

theorem isDeployFault_deployFault (f : RequestFault) : IsDeployFault (deployFault f) := .deploy _

theorem ends_firstAccount : Ends c.firstAccount (fun _ => True) IsDeployFault := by
  unfold firstAccount
  refine (c.ends_request fun f => .deploy _).bind fun accounts _ => ?_
  split
  · exact .pure trivial
  · exact .throw (.deploy _)

theorem isDeployFault_of_deployedAddress {name : String} {receipt : Option NodeReceipt} {f : Fault}
    (h : deployedAddress name receipt = .error f) : IsDeployFault f := by
  unfold deployedAddress at h
  split at h
  · cases h
    exact .deploy _
  · split at h
    · cases h
      exact .deploy _
    · split at h
      · cases h
      · cases h
        exact .deploy _

theorem ends_deploy (contract : CompiledContract) (options : CallOptions) :
    Ends (c.deploy contract options) (fun _ => True) IsDeployFault := by
  unfold deploy
  refine c.ends_firstAccount.bind fun caller _ => ?_
  refine (Ends.liftMapped _ .decode).bind fun code _ => ?_
  refine (c.ends_send isDeployFault_deployFault _).bind fun transaction _ => ?_
  refine (c.ends_awaitReceipt isDeployFault_deployFault transaction _).bind fun receipt _ => ?_
  refine (Ends.lift (fun _ _ => trivial) fun f => isDeployFault_of_deployedAddress).bind
    fun address _ => ?_
  refine (c.ends_log _ _).bind fun _ _ => ?_
  exact .pure trivial

/-- The accounts that a node says it has. -/
def accounts (s : Connection State) : List (List UInt8) :=
  match (c.ask ⟨"eth_accounts", .null⟩ s.state).1 with
  | .result answer => (Json.listOf? (readBytes accountSize) answer).getD []
  | _ => []

/-- Accounts are asked for once, and the first of them is taken if there is any. -/
theorem run_firstAccount (s : Connection State) :
    match c.accounts s with
    | account :: _ => c.firstAccount.run s = (.ok account, c.asked ⟨"eth_accounts", .null⟩ s)
    | [] => ∃ f, c.firstAccount.run s = (.error f, c.asked ⟨"eth_accounts", .null⟩ s) := by
  unfold firstAccount accounts
  rw [run_bind, run_request]
  cases (c.ask ⟨"eth_accounts", .null⟩ s.state).1 with
  | error => exact ⟨_, rfl⟩
  | undelivered => exact ⟨_, rfl⟩
  | result answer =>
    simp only [verdict]
    rcases Json.listOf? (readBytes accountSize) answer with _ | _ | ⟨account, rest⟩
    · exact ⟨_, rfl⟩
    · exact ⟨_, rfl⟩
    · rfl

/-- Without an account or without code, accounts are all that is asked for. -/
theorem run_deploy_of_undeployable {contract : CompiledContract} {s : Connection State}
    (options : CallOptions)
    (h : c.accounts s = [] ∨ ¬ Bytecode.IsCodeText contract.creationCode) :
    ∃ f, (c.deploy contract options).run s = (.error f, c.asked ⟨"eth_accounts", .null⟩ s) := by
  have haccount := c.run_firstAccount s
  unfold deploy
  rw [run_bind]
  cases haccounts : c.accounts s with
  | nil =>
    rw [haccounts] at haccount
    obtain ⟨f, hrun⟩ := haccount
    rw [hrun]
    exact ⟨f, rfl⟩
  | cons account rest =>
    rw [haccounts] at h haccount
    have hrun : c.firstAccount.run s = _ := haccount
    have hcode := h.resolve_left (List.cons_ne_nil account rest)
    obtain ⟨cause, hcause⟩ := Bytecode.exists_bytesOfText_error hcode
    rw [hrun]
    dsimp only
    rw [run_bind, run_lift, CompiledContract.creationBytes, hcause]
    exact ⟨.decode cause, rfl⟩

/-! ### Invoking and tracing -/

theorem ends_invoke (target : Deployment) (calldata : List UInt8) (options : CallOptions) :
    Ends (c.invoke target calldata options)
      (fun receipt => ∀ r, receipt = some r → IsTransactionText r.transaction)
      (fun f => ∃ reason, f = .rpc reason) := by
  unfold invoke
  refine (c.ends_send (fun f => ⟨f.text, rfl⟩) _).bind fun transaction hsize => ?_
  refine (c.ends_awaitReceipt (fun f => ⟨f.text, rfl⟩) transaction _).bind fun receipt _ => ?_
  refine .pure ?_
  rintro r hr
  obtain ⟨_, _, rfl⟩ := Option.map_eq_some_iff.1 hr
  exact isTransactionText_markedHex hsize

inductive IsTraceFault (transaction : String) : Fault → Prop
  | unavailable (reason : String) : IsTraceFault transaction (.traceUnavailable transaction reason)
  | notMined : IsTraceFault transaction (.traceNotMined transaction)
  | invalid (cause : TraceFault) : IsTraceFault transaction (.invalidTrace cause)
  | internal (reason : String) (h : ¬ IsTransactionText transaction) :
    IsTraceFault transaction (.internal reason)

theorem isTraceFault_of_transactionOf {transaction : String} {f : Fault}
    (h : transactionOf transaction = .error f) : IsTraceFault transaction f := by
  have hbad : ¬ IsTransactionText transaction := by
    rw [← exists_transactionOf_iff, h]
    rintro ⟨_, hok⟩
    cases hok
  obtain ⟨reason, hreason⟩ := transactionOf_of_not_isTransactionText hbad
  rw [h] at hreason
  cases hreason
  exact .internal reason hbad

theorem ends_trace (transaction : String) :
    Ends (c.trace transaction) (fun _ => True) (IsTraceFault transaction) := by
  unfold trace
  dsimp only
  refine (Ends.lift (fun _ _ => trivial) fun f => isTraceFault_of_transactionOf).bind
    fun hash _ => ?_
  refine (c.ends_request fun f => .unavailable f.text).bind fun receipt _ => ?_
  refine .guard .notMined ?_
  refine (c.ends_request fun f => .unavailable f.text).bind fun answer _ => ?_
  refine .guard (.unavailable _) ?_
  refine (Ends.liftMapped _ .invalid).bind fun t _ => ?_
  refine (c.ends_log _ _).bind fun _ _ => ?_
  exact .pure trivial

theorem exists_internal_iff {transaction : String} {s : Connection State} :
    (∃ reason, ((c.trace transaction).run s).1 = .error (.internal reason)) ↔
      ¬ IsTransactionText transaction := by
  constructor
  · rintro ⟨reason, hfault⟩
    have hends := (c.ends_trace transaction).fault hfault
    cases hends with
    | internal _ hbad => exact hbad
  · intro hbad
    obtain ⟨reason, hreason⟩ := transactionOf_of_not_isTransactionText hbad
    refine ⟨reason, ?_⟩
    unfold trace
    rw [run_bind, run_lift, hreason]

end Client

/-! ### Faults of a run over a node -/

theorem isFatal_of_run {c : Client State} {settings : CampaignSettings} {logger : Logger}
    {contract : CompiledContract} {s s' : Session (Connection State)}
    {source : Random.WordSource} {position next : Nat} {f : Fault}
    (h : (Campaign.mk c.environment settings logger).run contract s source position =
      some ((some (.error f), s'), next)) : f.isFatal = true := by
  rcases Campaign.fault_of_run h with hmap | hfunctions | hdeploy
  · exact isFatal_of_buildPcLineMap hmap
  · exact isFatal_of_functionsOf hfunctions
  · exact ((c.ends_deploy contract _).fault hdeploy).isFatal

theorem fault_of_fetchTrace {c : Client State} {policy : RetryPolicy} {logger : Logger}
    {transaction : String} {s : Session (Connection State)} {f : Fault}
    (h : (s.fetchTrace c.environment policy logger transaction).1 = .error f) :
    Client.IsTraceFault transaction f ∧ f ≠ .traceNotMined transaction := by
  rcases Session.fault_of_attemptTrace h with ⟨reason, rfl⟩ | ⟨hlast, world, htrace⟩
  · exact ⟨.unavailable reason, nofun⟩
  · refine ⟨(c.ends_trace transaction).fault htrace, ?_⟩
    rintro rfl
    cases hlast

/-- **No fault over a node is out of place**, whatever the node answers. A deployment fails with
one of its own or with that of its code, and nothing is sent if there is no account or no code. A
trace that fails is unavailable, not mined or invalid; its fault is internal if and only if the
text names no transaction, and a receipt always names one. So a campaign fails with fatal faults
only, and the fetching of a trace never ends with a fault that says it was not mined yet. -/
theorem faults_of_node (c : Client State) :
    (∀ (contract : CompiledContract) (options : CallOptions) (s : Connection State),
      (∀ f, ((c.deploy contract options).run s).1 = .error f → Client.IsDeployFault f) ∧
      (c.accounts s = [] ∨ ¬ Bytecode.IsCodeText contract.creationCode →
        ∃ f s', (c.deploy contract options).run s = (.error f, s') ∧
          s'.requests = s.requests ++ [⟨"eth_accounts", .null⟩])) ∧
    (∀ (transaction : String) (s : Connection State),
      (∀ f, ((c.trace transaction).run s).1 = .error f → Client.IsTraceFault transaction f) ∧
      ((∃ reason, ((c.trace transaction).run s).1 = .error (.internal reason)) ↔
        ¬ IsTransactionText transaction)) ∧
    (∀ (target : Deployment) (calldata : List UInt8) (options : CallOptions)
      (s : Connection State) (r : Receipt),
      ((c.invoke target calldata options).run s).1 = .ok (some r) →
        IsTransactionText r.transaction) ∧
    (∀ (settings : CampaignSettings) (logger : Logger) (contract : CompiledContract)
      (s s' : Session (Connection State)) (source : Random.WordSource) (position next : Nat)
      (f : Fault),
      (Campaign.mk c.environment settings logger).run contract s source position =
        some ((some (.error f), s'), next) → f.isFatal = true) ∧
    ∀ (policy : RetryPolicy) (logger : Logger) (transaction : String)
      (s : Session (Connection State)) (f : Fault),
      (s.fetchTrace c.environment policy logger transaction).1 = .error f →
        Client.IsTraceFault transaction f ∧ f ≠ .traceNotMined transaction := by
  refine ⟨fun contract options s => ⟨?_, ?_⟩, fun transaction s => ⟨?_, c.exists_internal_iff⟩,
    ?_, ?_, ?_⟩
  · intro f hfault
    exact (c.ends_deploy contract options).fault hfault
  · intro hundeployable
    obtain ⟨f, hrun⟩ := c.run_deploy_of_undeployable options hundeployable
    exact ⟨f, _, hrun, c.requests_asked _ s⟩
  · intro f hfault
    exact (c.ends_trace transaction).fault hfault
  · intro target calldata options s r hreceipt
    exact (c.ends_invoke target calldata options).value hreceipt r rfl
  · intro settings logger contract s s' source position next f hrun
    exact isFatal_of_run hrun
  · intro policy logger transaction s f hfault
    exact fault_of_fetchTrace hfault

end Node

end GasLens
