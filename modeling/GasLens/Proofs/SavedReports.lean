/-
  GasLens/Proofs/SavedReports.lean
  ================================
  **Saved reports** — a report that was written is read back as it was, and is shown as the run
  that wrote it showed it.

  Of the doubles of a report it is assumed that they are read back from their texts
  (`MeansReadBack`); that is not so of all doubles, and it is all that is assumed. Strings and
  whole numbers are read back as they are. Whatever was read fits the words it is written from,
  so a report that was read can be saved and read any number of times.
-/
import GasLens.Proofs.CompiledSources
import GasLens.Proofs.ReportChecks
import GasLens.Proofs.ReportDocuments

namespace GasLens

open GasLens.Text

namespace ContractReport

/-! ### Texts of reports -/

section Texts

variable {c : ContractReport} {s : String}

/-- The numbers of a report that a text holds fit their words. -/
theorem fitsWords_of_ofText? (h : ofText? s = some c) : c.FitsWords := by
  obtain ⟨j, hj, hc⟩ := Option.bind_eq_some_iff.1 h
  exact fitsWords_of_ofJson? (Json.fits_of_readOutline? hj) hc

theorem ofText?_write (hfits : c.FitsWords) (hvalid : c.validate = some (.ok ()))
    (hmeans : c.MeansReadBack) : ofText? c.write = some c := by
  have hlines : ∀ r ∈ c.functions, ∀ line ∈ r.costByLine.keys, 0 < line := fun r hr =>
    (validate_eq_ok_iff.1 hvalid r hr).agrees.lines_pos
  have htext : Json.readOutline? outline c.write = some c.toJson :=
    Json.readOutline?_pretty (kept_toJson hfits hmeans) c.depth_toJson_le
  rw [ofText?, htext]
  exact ofJson?_toJson hfits hlines

/-- A report that passes its checks is read back from its text. -/
theorem read_write (hfits : c.FitsWords) (hvalid : c.validate = some (.ok ()))
    (hmeans : c.MeansReadBack) : read c.write = some (.ok c) :=
  read_eq_ok_iff.2 ⟨ofText?_write hfits hvalid hmeans, validate_eq_ok_iff.1 hvalid⟩

end Texts

end ContractReport

/-! ### Runs -/

namespace Command

variable {State : Type} {p q : Progress State}

/-- What was written to a file is what is read there. -/
theorem read_of_run_writeText {path content : String} (hout : path ≠ outputPath)
    (herr : path ≠ errorPath) (h : (writeText path content).run p = (.ok (), q)) :
    q.files.read path = .ok content := by
  rw [writeText, if_neg hout, if_neg herr] at h
  obtain ⟨_, _, _, hrest⟩ := exists_of_run_bind_ok h
  obtain ⟨files, _, hfiles, hlast⟩ := exists_of_run_bind_ok hrest
  have hwrite := (eq_of_run_require_ok hfiles).1
  cases hlast
  exact Files.read_of_write hwrite

end Command

namespace Job

open Command

variable {State : Type}

/-- A campaign went well and its report was written to a file: the contract, its report, and the
progress behind the writing. -/
structure Saves (j : Job State) (p : Progress State) (contract : CompiledContract)
    (c : ContractReport) (path : String) (q : Progress State) : Prop where
  output : j.config.reportOutput = some path
  isFile : path ≠ outputPath ∧ path ≠ errorPath
  written : ∃ p₁ p₂, j.compile.run p = (.ok contract, p₁) ∧
    (j.campaignReport contract).run p₁ = (.ok c, p₂) ∧ (writeText path c.write).run p₂ = (.ok (), q)

section Runs

variable {j : Job State} {p q : Progress State} {contract : CompiledContract}
  {c : ContractReport} {path : String}

/-- A file that holds a report is shown as the report itself is. -/
theorem run_fromReport (hread : ContractReport.read c.write = some (.ok c))
    (hfile : p.files.read path = .ok c.write) {source : String}
    (hsource : j.loadSource.run p = (.ok source, p)) :
    (j.fromReport path).run p = (j.showReport c source).run p := by
  have htext : (readText (.unreadableReport path) path : Command State String).run p =
      (.ok c.write, p) := by
    change (require _ (p.files.read path) : Command State String).run p = _
    rw [hfile, run_require_ok]
  have hverdict : (fitting (ContractReport.read c.write) :
      Command State (Except Fault ContractReport)).run p = (.ok (.ok c), p) := by
    rw [hread]
    rfl
  have hreport : (require (.rejectedReport path) (.ok c) : Command State ContractReport).run p =
      (.ok c, p) := run_require_ok _ c p
  rw [fromReport, run_bind_of_ok htext, run_bind_of_ok hverdict, run_bind_of_ok hreport,
    run_bind_of_ok hsource]

/-- A campaign that saved its report goes on by showing it. -/
theorem Saves.run_fuzz (h : j.Saves p contract c path q) :
    j.fuzz.run p = (j.showReport c contract.source).run q := by
  obtain ⟨p₁, p₂, hcompile, hcampaign, hwrite⟩ := h.written
  rw [fuzz, run_bind_of_ok hcompile, run_bind_of_ok hcampaign, h.output, writeTextTo,
    run_bind_of_ok hwrite]

theorem Saves.read_eq (h : j.Saves p contract c path q) : q.files.read path = .ok c.write := by
  obtain ⟨p₁, p₂, _, _, hwrite⟩ := h.written
  exact read_of_run_writeText h.isFile.1 h.isFile.2 hwrite

theorem Saves.run_loadSource (h : j.Saves p contract c path q) :
    j.loadSource.run p = (.ok contract.source, p) := by
  obtain ⟨p₁, p₂, hcompile, _, _⟩ := h.written
  exact run_loadSource_of_compile hcompile

end Runs

end Job

namespace ContractReport

/-- **Saving a report loses nothing.** A report that passes its checks, or that was read from any
text, is read back from the text it is written as, so that it has the same heatmap over every
source. A run that is given the file shows what the campaign that wrote it showed. -/
theorem saved_reports_are_kept {c : ContractReport}
    (hc : c.FitsWords ∧ c.validate = some (.ok ()) ∨ ∃ s, read s = some (.ok c))
    (hmeans : c.MeansReadBack) :
    read c.write = some (.ok c) ∧
    (∀ source, (read c.write).map (fun verdict => verdict.map (Heatmap.ofReport · source)) =
      some (.ok (Heatmap.ofReport c source))) ∧
    (∀ {State : Type} (k : Job State) (path source : String) (r : Progress State),
      r.files.read path = .ok c.write → k.loadSource.run r = (.ok source, r) →
        (k.fromReport path).run r = (k.showReport c source).run r) ∧
    ∀ {State : Type} (j k : Job State) (contract : CompiledContract) (path : String)
      (p q r : Progress State),
      j.Saves p contract c path q → r.files.read path = q.files.read path →
        (k.loadSource.run r).1 = (j.loadSource.run p).1 →
          j.fuzz.run p = (j.showReport c contract.source).run q ∧
          (k.fromReport path).run r = (k.showReport c contract.source).run r := by
  have hchecked : c.FitsWords ∧ c.validate = some (.ok ()) := by
    rcases hc with hc | ⟨s, hs⟩
    · exact hc
    · obtain ⟨htext, hall⟩ := read_eq_ok_iff.1 hs
      exact ⟨fitsWords_of_ofText? htext, validate_eq_ok_iff.2 hall⟩
  have hread : read c.write = some (.ok c) := read_write hchecked.1 hchecked.2 hmeans
  refine ⟨hread, ?_, ?_, ?_⟩
  · intro source
    rw [hread]
    rfl
  · intro State k path source r hfile hsource
    exact Job.run_fromReport hread hfile hsource
  · intro State j k contract path p q r hsaves hfile hsource
    refine ⟨hsaves.run_fuzz, Job.run_fromReport hread (hfile.trans hsaves.read_eq) ?_⟩
    rw [hsaves.run_loadSource] at hsource
    rcases hload : k.loadSource.run r with ⟨answer, after⟩
    rw [hload] at hsource
    cases hsource
    rw [(Job.run_loadSource_of_ok hload).1]

/-- A function with a name that needs escapes, two samples, gas on two lines and an invocation
without a receipt, and a function that was never invoked. -/
def vaultReport : ContractReport :=
  ⟨"Vault", 3,
    [⟨"set \"x\"\n", [⟨5, false⟩, ⟨6, true⟩], 5, 6, 5.5, 6, .ofList [(12, 7), (3, 4)], 1, 2⟩,
     .ofName "get"]⟩

/-- A run that finds a source and nothing else around it. -/
def vaultJob : Job Unit where
  site :=
    { files := .ofTexts [("Vault.sol", "contract Vault")], above := [], environment := []
      visiting := .written, compiler := fun _ => .missing ""
      node := fun _ _ s => (.undelivered "", s), entropy := .ofList [] }
  config := { Config.builtIn with source := some "Vault.sol" }
  color := false
  logger := ⟨defaultComponent, 0⟩

/-- The progress of that run where the report stands beside the source. -/
def vaultProgress : Progress Unit :=
  .start (vaultJob.site.files.withText "report.json" vaultReport.write) .empty ()

theorem saved_reports_are_kept_vault :
    read vaultReport.write = some (.ok vaultReport) ∧
    (vaultJob.fromReport "report.json").run vaultProgress =
      (vaultJob.showReport vaultReport "contract Vault").run vaultProgress := by
  have hfits : vaultReport.FitsWords := by
    refine ⟨by decide, ?_⟩
    simp only [vaultReport, List.forall_mem_cons]
    refine ⟨⟨by decide, by decide, by decide⟩, ⟨by decide, by decide, by decide⟩, ?_⟩
    exact fun _ h => absurd h List.not_mem_nil
  have hvalid : vaultReport.validate = some (.ok ()) := rfl
  have hmeans : vaultReport.MeansReadBack := by
    simp only [MeansReadBack, vaultReport, List.forall_mem_cons]
    exact ⟨rfl, rfl, fun _ h => absurd h List.not_mem_nil⟩
  obtain ⟨hread, -, hshow, -⟩ := saved_reports_are_kept (Or.inl ⟨hfits, hvalid⟩) hmeans
  have hfile : vaultProgress.files.read "report.json" = .ok vaultReport.write :=
    Files.read_withText _ _ _
  have hsource : vaultJob.loadSource.run vaultProgress =
      (.ok "contract Vault", vaultProgress) := rfl
  exact ⟨hread, hshow vaultJob "report.json" "contract Vault" vaultProgress hfile hsource⟩

end ContractReport

end GasLens
