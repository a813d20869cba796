/-
  GasLens/Proofs/SettingsOrder.lean
  =================================
  **The order of a table of settings** — when it matters and when it does not.

  A setting (`Setting`) is a place in a configuration, under the one name that is left of its
  spellings: hyphens count as underscores, and `runs` is short for `runs_per_function`. An entry
  is read on its own and goes to the place of its setting, so whether a table can be read does
  not depend on its order, and each place holds what the last entry of its setting says
  (`ofSettings_eq_ok_iff`). Two entries of one setting may say different things under different
  keys. Then the order decides (`ofTable_depends_on_order`).
-/
import Mathlib.Data.List.Nodup
import GasLens.Config.Table

namespace GasLens.Config

open GasLens.Text GasLens.Toml

/-! ### Settings and their places -/

inductive Setting where
  | source | contract | rpcUrl | gasLimit | receiptTimeout | runs | seed
  | traceAttempts | settleDelay | pendingDelay | retryDelay
  | compiler | optimize | optimizerRuns | inheritFields
  | jsonOutput | reportOutput | printSteps | verbosity | logJson | noStatus
  deriving DecidableEq, Repr

namespace Setting

def Held : Setting → Type
  | source | contract | jsonOutput | reportOutput => Option String
  | seed => Option Nat
  | rpcUrl | receiptTimeout | settleDelay | pendingDelay | retryDelay | compiler => String
  | gasLimit | runs | traceAttempts | optimizerRuns | verbosity => Nat
  | optimize | inheritFields | printSteps | logJson | noStatus => Bool

/-- How the value of an entry is read for a setting. -/
def read (v : Value) : (o : Setting) → Except ConfigFault o.Held
  | source | contract | jsonOutput | reportOutput => some <$> textSetting v
  | seed => some <$> numberSetting v
  | rpcUrl | compiler => textSetting v
  | receiptTimeout | settleDelay | pendingDelay | retryDelay => delaySetting v
  | gasLimit | runs => numberSetting v
  | traceAttempts => boundedSetting "trace-attempts" maxU32 v
  | optimizerRuns => boundedSetting "optimizer-runs" maxU32 v
  | verbosity => boundedSetting "verbose" maxVerbosity v
  | optimize | inheritFields | printSteps | logJson | noStatus => flagSetting v

/-- The setting under a name with underscores only. -/
def ofName? : String → Option Setting
  | "source" => some source
  | "contract" => some contract
  | "rpc_url" => some rpcUrl
  | "gas_limit" => some gasLimit
  | "receipt_timeout" => some receiptTimeout
  | "runs_per_function" | "runs" => some runs
  | "seed" => some seed
  | "trace_attempts" => some traceAttempts
  | "trace_settle_delay" => some settleDelay
  | "trace_pending_delay" => some pendingDelay
  | "trace_retry_delay" => some retryDelay
  | "solc" => some compiler
  | "optimize" => some optimize
  | "optimizer_runs" => some optimizerRuns
  | "source_map_inherit" => some inheritFields
  | "json_output" => some jsonOutput
  | "report_output" => some reportOutput
  | "print_steps" => some printSteps
  | "verbose" => some verbosity
  | "log_json" => some logJson
  | "no_status" => some noStatus
  | _ => none

end Setting

/-- What is in the place of a setting. -/
def get (c : Config) : (o : Setting) → o.Held
  | .source => c.source
  | .contract => c.contract
  | .rpcUrl => c.rpcUrl
  | .gasLimit => c.gasLimit
  | .receiptTimeout => c.receiptTimeout
  | .runs => c.runs
  | .seed => c.seed
  | .traceAttempts => c.traceAttempts
  | .settleDelay => c.settleDelay
  | .pendingDelay => c.pendingDelay
  | .retryDelay => c.retryDelay
  | .compiler => c.compiler
  | .optimize => c.optimize
  | .optimizerRuns => c.optimizerRuns
  | .inheritFields => c.inheritFields
  | .jsonOutput => c.jsonOutput
  | .reportOutput => c.reportOutput
  | .printSteps => c.printSteps
  | .verbosity => c.verbosity
  | .logJson => c.logJson
  | .noStatus => c.noStatus

def set (c : Config) : (o : Setting) → o.Held → Config
  | .source, x => { c with source := x }
  | .contract, x => { c with contract := x }
  | .rpcUrl, x => { c with rpcUrl := x }
  | .gasLimit, x => { c with gasLimit := x }
  | .receiptTimeout, x => { c with receiptTimeout := x }
  | .runs, x => { c with runs := x }
  | .seed, x => { c with seed := x }
  | .traceAttempts, x => { c with traceAttempts := x }
  | .settleDelay, x => { c with settleDelay := x }
  | .pendingDelay, x => { c with pendingDelay := x }
  | .retryDelay, x => { c with retryDelay := x }
  | .compiler, x => { c with compiler := x }
  | .optimize, x => { c with optimize := x }
  | .optimizerRuns, x => { c with optimizerRuns := x }
  | .inheritFields, x => { c with inheritFields := x }
  | .jsonOutput, x => { c with jsonOutput := x }
  | .reportOutput, x => { c with reportOutput := x }
  | .printSteps, x => { c with printSteps := x }
  | .verbosity, x => { c with verbosity := x }
  | .logJson, x => { c with logJson := x }
  | .noStatus, x => { c with noStatus := x }

section Places

variable {c d : Config} {o o' : Setting}

theorem get_set_self (c : Config) (o : Setting) (x : o.Held) : (c.set o x).get o = x := by
  cases o <;> rfl

theorem get_set_of_ne (c : Config) (x : o.Held) (h : o ≠ o') : (c.set o x).get o' = c.get o' := by
  cases o <;> cases o' <;> first | rfl | exact absurd rfl h

/-- What no table of settings sets. -/
def elsewhere (c : Config) : Option String × Bool × Option String × Option String :=
  (c.file, c.compileOnly, c.profileTransaction, c.fromReport)

theorem elsewhere_set (c : Config) (o : Setting) (x : o.Held) :
    (c.set o x).elsewhere = c.elsewhere := by
  cases o <;> rfl

theorem eq_of_get_eq (h : ∀ o, c.get o = d.get o) (helse : c.elsewhere = d.elsewhere) : c = d := by
  cases c
  cases d
  obtain ⟨hfile, hcompile, htransaction, hreport⟩ := by
    simpa only [elsewhere, Prod.mk.injEq] using helse
  rw [mk.injEq]
  exact ⟨h .source, hfile, h .contract, h .rpcUrl, h .gasLimit, h .receiptTimeout, h .runs,
    h .seed, h .traceAttempts, h .settleDelay, h .pendingDelay, h .retryDelay, h .compiler,
    h .optimize, h .optimizerRuns, h .inheritFields, hcompile, htransaction, hreport,
    h .jsonOutput, h .reportOutput, h .printSteps, h .verbosity, h .logJson, h .noStatus⟩

end Places

/-! ### Entries -/

def setting? (key : String) : Option Setting := Setting.ofName? (settingName key)

theorem applySetting_of_some {key : String} {o : Setting} (h : setting? key = some o) (c : Config)
    (v : Value) : applySetting c key v = c.set o <$> o.read v := by
  unfold setting? at h
  unfold applySetting
  generalize settingName key = name at h
  unfold Setting.ofName? at h
  split at h <;> cases h <;> simp only [Setting.read, map_eq_pure_bind]
  -- a place that may be empty takes what is read as `some`
  all_goals first | rfl | cases textSetting v <;> rfl | cases numberSetting v <;> rfl

theorem applySetting_of_none {key : String} (h : setting? key = none) (c : Config) (v : Value) :
    applySetting c key v = .ok c := by
  unfold setting? at h
  unfold applySetting
  generalize settingName key = name at h
  split <;> first | cases h | rfl

/-- An entry with the name of a setting has a value for it. -/
def IsReadable (e : String × Value) : Prop :=
  ∀ o, setting? e.1 = some o → ∃ x, o.read e.2 = .ok x

def said? (o : Setting) (e : String × Value) : Option o.Held :=
  if setting? e.1 = some o then (o.read e.2).toOption else none

section Entries

variable {c d : Config} {e : String × Value}

/-- An entry that can be read changes the place of its setting and nothing else. -/
theorem applySetting_eq_ok_iff :
    applySetting c e.1 e.2 = .ok d ↔
      IsReadable e ∧ (∀ o, d.get o = (said? o e).getD (c.get o)) ∧ d.elsewhere = c.elsewhere := by
  cases hkey : setting? e.1 with
  | none =>
    have hreadable : IsReadable e := by
      intro o ho
      rw [hkey] at ho
      cases ho
    have hsaid : ∀ o, said? o e = none := by
      intro o
      rw [said?, hkey]
      rfl
    simp only [applySetting_of_none hkey, hsaid, Option.getD_none]
    constructor
    · intro h
      cases h
      exact ⟨hreadable, fun _ => rfl, rfl⟩
    · rintro ⟨_, hget, helse⟩
      rw [eq_of_get_eq hget helse]
  | some o =>
    have hsaid : ∀ x, o.read e.2 = .ok x →
        ∀ o', (said? o' e).getD (c.get o') = (c.set o x).get o' := by
      intro x hx o'
      by_cases ho : o = o'
      · subst ho
        rw [said?, if_pos hkey, hx, get_set_self]
        rfl
      · rw [said?, hkey, if_neg (by simpa using ho), get_set_of_ne c x ho]
        rfl
    rw [applySetting_of_some hkey]
    constructor
    · intro h
      cases hx : o.read e.2 with
      | error fault =>
        rw [hx] at h
        cases h
      | ok x =>
        rw [hx] at h
        cases h
        refine ⟨?_, fun o' => (hsaid x hx o').symm, elsewhere_set c o x⟩
        intro o' ho'
        rw [hkey] at ho'
        cases ho'
        exact ⟨x, hx⟩
    · rintro ⟨hreadable, hget, helse⟩
      obtain ⟨x, hx⟩ := hreadable o hkey
      rw [hx, eq_of_get_eq (c := d) (d := c.set o x)]
      · rfl
      · intro o'
        rw [hget, hsaid x hx]
      · rw [helse, elsewhere_set]

theorem exists_applySetting (h : IsReadable e) (c : Config) :
    ∃ d, applySetting c e.1 e.2 = .ok d := by
  cases hkey : setting? e.1 with
  | none => exact ⟨c, applySetting_of_none hkey c e.2⟩
  | some o =>
    obtain ⟨x, hx⟩ := h o hkey
    refine ⟨c.set o x, ?_⟩
    rw [applySetting_of_some hkey, hx]
    rfl

end Entries

/-! ### Tables -/

/-- What the last entry for a setting says. -/
def lastSaid? (o : Setting) (settings : List (String × Value)) : Option o.Held :=
  (settings.filterMap (said? o)).getLast?

theorem lastSaid?_cons (o : Setting) (e : String × Value) (settings : List (String × Value)) :
    lastSaid? o (e :: settings) = (lastSaid? o settings).or (said? o e) := by
  unfold lastSaid?
  rw [List.filterMap_cons]
  cases said? o e with
  | none => simp
  | some x =>
    rw [List.getLast?_cons]
    cases (settings.filterMap (said? o)).getLast? <;> rfl

section Tables

variable {s s' : List (String × Value)} {c d : Config}

/-- Entries in a row leave in each place what the last one for it says. -/
theorem foldlM_applySetting_eq_ok_iff :
    s.foldlM (fun c e => applySetting c e.1 e.2) c = .ok d ↔
      (∀ e ∈ s, IsReadable e) ∧ (∀ o, d.get o = (lastSaid? o s).getD (c.get o)) ∧
        d.elsewhere = c.elsewhere := by
  induction s generalizing c with
  | nil =>
    constructor
    · intro h
      cases h
      exact ⟨List.forall_mem_nil _, fun _ => rfl, rfl⟩
    · rintro ⟨_, hget, helse⟩
      rw [eq_of_get_eq hget helse]
      rfl
  | cons e s ih =>
    have hcons : ∀ {c' : Config}, applySetting c e.1 e.2 = .ok c' →
        ((e :: s).foldlM (fun c e => applySetting c e.1 e.2) c = .ok d ↔
          s.foldlM (fun c e => applySetting c e.1 e.2) c' = .ok d) := by
      intro c' hstep
      rw [List.foldlM_cons, hstep]
      rfl
    have hlast : ∀ {c' : Config}, applySetting c e.1 e.2 = .ok c' →
        ∀ o, (lastSaid? o s).getD (c'.get o) = (lastSaid? o (e :: s)).getD (c.get o) := by
      intro c' hstep o
      rw [lastSaid?_cons, (applySetting_eq_ok_iff.1 hstep).2.1 o]
      cases lastSaid? o s <;> rfl
    rw [List.forall_mem_cons]
    constructor
    · intro h
      cases hstep : applySetting c e.1 e.2 with
      | error fault =>
        rw [List.foldlM_cons, hstep] at h
        cases h
      | ok c' =>
        obtain ⟨hreadable, hget, helse⟩ := ih.1 ((hcons hstep).1 h)
        obtain ⟨hfirst, _, hstepElse⟩ := applySetting_eq_ok_iff.1 hstep
        refine ⟨⟨hfirst, hreadable⟩, ?_, helse.trans hstepElse⟩
        intro o
        rw [hget, hlast hstep]
    · rintro ⟨⟨hfirst, hreadable⟩, hget, helse⟩
      obtain ⟨c', hstep⟩ := exists_applySetting hfirst c
      rw [hcons hstep, ih]
      refine ⟨hreadable, ?_, helse.trans (applySetting_eq_ok_iff.1 hstep).2.2.symm⟩
      intro o
      rw [hget, hlast hstep]

theorem ofSettings_eq_ok_iff :
    ofSettings s = .ok c ↔
      (∀ e ∈ s, IsReadable e) ∧ (∀ o, c.get o = (lastSaid? o s).getD (builtIn.get o)) ∧
        c.elsewhere = builtIn.elsewhere :=
  foldlM_applySetting_eq_ok_iff

theorem exists_foldlM_applySetting (h : ∀ e ∈ s, IsReadable e) (c : Config) :
    ∃ d, s.foldlM (fun c e => applySetting c e.1 e.2) c = .ok d := by
  induction s generalizing c with
  | nil => exact ⟨c, rfl⟩
  | cons e s ih =>
    rw [List.forall_mem_cons] at h
    obtain ⟨c', hstep⟩ := exists_applySetting h.1 c
    obtain ⟨d, hrest⟩ := ih h.2 c'
    refine ⟨d, ?_⟩
    rw [List.foldlM_cons, hstep]
    exact hrest

theorem exists_ofSettings_iff : (∃ c, ofSettings s = .ok c) ↔ ∀ e ∈ s, IsReadable e := by
  constructor
  · rintro ⟨c, hc⟩
    exact (ofSettings_eq_ok_iff.1 hc).1
  · intro h
    exact exists_foldlM_applySetting h builtIn

/-- No setting has two entries, under whatever keys. -/
def SpelledOnce (settings : List (String × Value)) : Prop :=
  (settings.filterMap fun e => setting? e.1).Nodup

theorem length_filterMap_said?_le (o : Setting) (s : List (String × Value)) :
    (s.filterMap (said? o)).length ≤ (s.filterMap fun e => setting? e.1).count o := by
  induction s with
  | nil => exact Nat.le_refl 0
  | cons e s ih =>
    by_cases hkey : setting? e.1 = some o
    · simp only [List.filterMap_cons, hkey, List.count_cons_self]
      split
      · exact Nat.le_succ_of_le ih
      · exact Nat.succ_le_succ ih
    · have hsaid : said? o e = none := if_neg hkey
      rw [List.filterMap_cons_none hsaid, List.filterMap_cons]
      split
      · exact ih
      · exact Nat.le_trans ih List.count_le_count_cons

theorem SpelledOnce.lastSaid?_eq (hs : SpelledOnce s) (h : s.Perm s') (o : Setting) :
    lastSaid? o s = lastSaid? o s' := by
  have hperm : (s.filterMap (said? o)).Perm (s'.filterMap (said? o)) := h.filterMap _
  have hle : (s.filterMap (said? o)).length ≤ 1 :=
    Nat.le_trans (length_filterMap_said?_le o s) (List.nodup_iff_count_le_one.1 hs o)
  unfold lastSaid?
  cases hsaid : s.filterMap (said? o) with
  | nil =>
    rw [hsaid] at hperm
    rw [hperm.nil_eq]
  | cons x rest =>
    rw [hsaid, List.length_cons] at hle
    obtain rfl : rest = [] := List.length_eq_zero_iff.1 (by omega)
    rw [hsaid] at hperm
    rw [List.singleton_perm.1 hperm]

theorem lastSaid?_eq_none_iff (o : Setting) :
    lastSaid? o s = none ↔ s.filterMap (said? o) = [] := List.getLast?_eq_none_iff

theorem eq_iff_lastSaid?_eq (h : s.Perm s') (hc : ofSettings s = .ok c)
    (hd : ofSettings s' = .ok d) : c = d ↔ ∀ o, lastSaid? o s = lastSaid? o s' := by
  obtain ⟨_, hget, helse⟩ := ofSettings_eq_ok_iff.1 hc
  obtain ⟨_, hget', helse'⟩ := ofSettings_eq_ok_iff.1 hd
  constructor
  · intro hcd o
    have hnone : lastSaid? o s = none ↔ lastSaid? o s' = none := by
      rw [lastSaid?_eq_none_iff, lastSaid?_eq_none_iff]
      constructor
      · intro hnil
        exact List.perm_nil.1 (hnil ▸ (h.filterMap (said? o)).symm)
      · intro hnil
        exact List.perm_nil.1 (hnil ▸ h.filterMap (said? o))
    have hvalue : (lastSaid? o s).getD (builtIn.get o) = (lastSaid? o s').getD (builtIn.get o) := by
      rw [← hget, ← hget', hcd]
    cases hlast : lastSaid? o s with
    | none => exact (hnone.1 hlast).symm
    | some x =>
      cases hlast' : lastSaid? o s' with
      | none =>
        rw [hnone.2 hlast'] at hlast
        cases hlast
      | some y =>
        rw [hlast, hlast'] at hvalue
        exact congrArg some hvalue
  · intro hlast
    apply eq_of_get_eq
    · intro o
      rw [hget, hget', hlast]
    · rw [helse, helse']

end Tables

/-- **The order of a table.** Whether a table can be read depends on its entries one by one. Two
orders give one configuration exactly if the last entries for each setting say the same in both,
and so always if no setting is spelled twice. -/
theorem exists_ofTable_iff (order : VisitingOrder) (settings : List (String × Value)) :
    (∃ c, ofTable order settings = .ok c) ↔ ∀ e ∈ settings, IsReadable e := by
  simp only [ofTable, exists_ofSettings_iff, (order.perm settings).mem_iff]

/-- **The order of a table.** Whether a table can be read depends on its entries one by one, so
it can be read in any order or in none. Two orders give one configuration exactly if the last
entries for each setting say the same in both, and so always if no setting is spelled twice. -/
theorem ofTable_regardless_of_order (settings : List (String × Value))
    (first second : VisitingOrder) :
    ((∃ c, ofTable first settings = .ok c) ↔ ∀ e ∈ settings, IsReadable e) ∧
      ((∃ c, ofTable second settings = .ok c) ↔ ∀ e ∈ settings, IsReadable e) ∧
      (∀ c d, ofTable first settings = .ok c → ofTable second settings = .ok d →
        (c = d ↔ ∀ o,
          lastSaid? o (first.visited settings) = lastSaid? o (second.visited settings))) ∧
      (SpelledOnce settings →
        ∀ c, ofTable first settings = .ok c → ofTable second settings = .ok c) := by
  have hperm : (first.visited settings).Perm (second.visited settings) :=
    (first.perm settings).trans (second.perm settings).symm
  have hagree : ∀ c d, ofTable first settings = .ok c → ofTable second settings = .ok d →
      (c = d ↔ ∀ o,
        lastSaid? o (first.visited settings) = lastSaid? o (second.visited settings)) :=
    fun c d hc hd => eq_iff_lastSaid?_eq hperm hc hd
  refine ⟨exists_ofTable_iff first settings, exists_ofTable_iff second settings, hagree, ?_⟩
  intro honce c hc
  obtain ⟨d, hd⟩ :=
    (exists_ofTable_iff second settings).2 ((exists_ofTable_iff first settings).1 ⟨c, hc⟩)
  have hlast : ∀ o,
      lastSaid? o (first.visited settings) = lastSaid? o (second.visited settings) := fun o =>
    (honce.lastSaid?_eq (first.perm settings).symm o).symm.trans
      (honce.lastSaid?_eq (second.perm settings).symm o)
  rw [(hagree c d hc hd).2 hlast]
  exact hd

/-- The order in which the settings are written, backwards. -/
def VisitingOrder.backwards : VisitingOrder := ⟨List.reverse, List.reverse_perm⟩

/-- Two keys spell one setting, and the later entry decides: the two orders give different numbers
of runs. -/
theorem ofTable_depends_on_order :
    let s : List (String × Value) := [("runs", .integer 7), ("runs_per_function", .integer 3)]
    (s.map Prod.fst).Nodup ∧
      ∃ c d, ofTable .written s = .ok c ∧ ofTable .backwards s = .ok d ∧
        c.runs = 3 ∧ d.runs = 7 := by
  intro s
  exact ⟨by decide, { builtIn with runs := 3 }, { builtIn with runs := 7 }, rfl, rfl, rfl, rfl⟩

end GasLens.Config
