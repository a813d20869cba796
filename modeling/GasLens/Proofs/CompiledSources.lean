/-
  GasLens/Proofs/CompiledSources.lean
  ===================================
  **The source of a compiled contract** is the source that was loaded.

  Fences are taken out of a source when it is loaded and once more when it is compiled. The
  second time there are none: what is left of a run of backticks is shorter than a fence, and
  taking fences out never brings two runs together (`stripFences_stripFences`). So a contract
  refers to the lines of the very text that the rest of a run works with.
-/
import GasLens.Command.Modes
import GasLens.Proofs.Readings
import GasLens.Proofs.ReplacedTexts

namespace GasLens

open GasLens.Text

namespace Compiler

theorem not_infix_withoutFences (cs : List Char) : ¬ fence <:+: withoutFences cs := by
  have hfence : fence = List.replicate 3 (Char.ofNat 96) := by decide
  rw [withoutFences, hfence]
  exact not_infix_replace (by decide) _

theorem stripFences_of_not_infix {source : String} (h : ¬ fence <:+: source.toList) :
    stripFences source = source := by
  have hopening : ¬ openingFence <:+: source.toList := by
    intro hinf
    have hpre : fence <+: openingFence := by decide
    exact h (hpre.isInfix.trans hinf)
  rw [stripFences, withoutFences, replace_of_not_infix [] hopening, replace_of_not_infix [] h,
    String.ofList_toList]

theorem not_infix_stripFences (source : String) : ¬ fence <:+: (stripFences source).toList := by
  rw [stripFences, String.toList_ofList]
  exact not_infix_withoutFences source.toList

/-- **Fences are taken out once and for all.** -/
theorem stripFences_stripFences (source : String) :
    stripFences (stripFences source) = stripFences source :=
  stripFences_of_not_infix (not_infix_stripFences source)

theorem split_withoutFences (cs : List Char) :
    split '\n' (withoutFences cs) = (split '\n' cs).map withoutFences := by
  have hfence : '\n' ∉ fence := by decide
  have hopening : '\n' ∉ openingFence := by decide
  rw [withoutFences, split_replace (by decide) hfence List.not_mem_nil,
    split_replace (by decide) hopening List.not_mem_nil, List.map_map]
  rfl

/-- A fence never reaches over the end of a line. -/
theorem splitString_stripFences (source : String) :
    splitString '\n' (stripFences source) = (splitString '\n' source).map stripFences := by
  rw [stripFences, splitString, splitString, String.toList_ofList, split_withoutFences,
    List.map_map, List.map_map]
  apply List.map_congr_left
  intro line _
  simp only [Function.comp_apply, stripFences, String.toList_ofList]

theorem source_of_contract {o : Output} {source : String} {wanted : Option String}
    {c : CompiledContract} (h : o.contract source wanted = .ok c) : c.source = source := by
  unfold Output.contract at h
  simp only at h
  split at h
  · cases h
  · split at h
    · cases h
    · obtain ⟨chosen, -, h⟩ := bind_eq_ok_iff.1 h
      split at h
      · cases h
      · cases h
        rfl

theorem source_of_contractOf {output source : String} {wanted : Option String}
    {c : CompiledContract} (h : contractOf output source wanted = .ok c) : c.source = source := by
  unfold contractOf at h
  split at h
  · exact source_of_contract h
  · cases h

theorem source_of_compile {settings : Settings} {tool : Executable} {logger : Logger}
    {source : String} {wanted : Option String} {before after : Journal} {c : CompiledContract}
    (h : compile settings tool logger source wanted before = (.ok c, after)) :
    c.source = stripFences source := by
  unfold compile at h
  simp only at h
  split at h
  · cases h
  · split at h
    · cases h
    · rename_i hcontract
      cases h
      exact source_of_contractOf hcontract

end Compiler

/-! ### Runs -/

namespace Command

variable {State α β ε : Type} {p q : Progress State}

theorem run_bind_of_ok {x : Command State α} {f : α → Command State β} {a : α}
    (h : x.run p = (.ok a, q)) : (x >>= f).run p = (f a).run q := by
  change (do let (a, s) ← x.run p; ExceptT.bindCont f a s : Id _) = _
  rw [h]
  rfl

theorem run_bind_of_error {x : Command State α} {e : CommandFault} (f : α → Command State β)
    (h : x.run p = (.error e, q)) : (x >>= f).run p = (.error e, q) := by
  change (do let (a, s) ← x.run p; ExceptT.bindCont f a s : Id _) = _
  rw [h]
  rfl

/-- A run that ends well went well up to each of its steps. -/
theorem exists_of_run_bind_ok {x : Command State α} {f : α → Command State β} {b : β}
    (h : (x >>= f).run p = (.ok b, q)) :
    ∃ a r, x.run p = (.ok a, r) ∧ (f a).run r = (.ok b, q) := by
  rcases hx : x.run p with ⟨e | a, r⟩
  · rw [run_bind_of_error f hx] at h
    cases h
  · rw [run_bind_of_ok hx] at h
    exact ⟨a, r, rfl, h⟩

theorem eq_of_run_require_ok {fault : ε → CommandFault} {x : Except ε α} {a : α}
    (h : (require fault x : Command State α).run p = (.ok a, q)) : x = .ok a ∧ q = p := by
  cases x with
  | error e =>
    rw [run_require_error] at h
    cases h
  | ok b =>
    rw [run_require_ok] at h
    cases h
    exact ⟨rfl, rfl⟩

end Command

namespace Job

open Command

variable {State : Type} {j : Job State} {p q : Progress State}

/-- Loading a source leaves the progress as it is, and no fences are left in what it gives. -/
theorem run_loadSource_of_ok {source : String} (h : j.loadSource.run p = (.ok source, q)) :
    q = p ∧ Compiler.stripFences source = source := by
  obtain ⟨path, r, hpath, hrest⟩ := exists_of_run_bind_ok h
  obtain ⟨raw, r', hraw, hlast⟩ := exists_of_run_bind_ok hrest
  have hread : (require (.unreadableSource path) (r.files.read path) : Command State String).run r =
      (.ok raw, r') := hraw
  have hr : r = p := (eq_of_run_require_ok hpath).2
  have hr' : r' = r := (eq_of_run_require_ok hread).2
  cases hlast
  exact ⟨hr'.trans hr, Compiler.stripFences_stripFences raw⟩

/-- **A contract is compiled from the source that is loaded**, and refers to that text. -/
theorem run_loadSource_of_compile {c : CompiledContract} (h : j.compile.run p = (.ok c, q)) :
    j.loadSource.run p = (.ok c.source, p) := by
  obtain ⟨source, r, hsource, hrest⟩ := exists_of_run_bind_ok h
  obtain ⟨hr, hplain⟩ := run_loadSource_of_ok hsource
  obtain ⟨_, r₁, _, hrest⟩ := exists_of_run_bind_ok hrest
  obtain ⟨progress, r₂, _, hrest⟩ := exists_of_run_bind_ok hrest
  rcases hcompile : Compiler.compile j.compilerSettings (j.site.compiler j.config.compiler)
    (j.logger.child "build") source j.config.contract progress.journal with ⟨result, journal⟩
  rw [hcompile] at hrest
  obtain ⟨_, r₃, _, hlast⟩ := exists_of_run_bind_ok hrest
  obtain ⟨rfl, -⟩ := eq_of_run_require_ok hlast
  rw [Compiler.source_of_compile hcompile, hplain, hsource, hr]

end Job

open Compiler in
/-- **Fences are taken out line by line, and once is enough.** None is left, a text without any
stays as it is, and each line is what is left of the line with the same number. The source that is
stripped again for the compiler is therefore the one that is shown with a saved report. -/
theorem fences_are_stripped (source : String) :
    ¬ fence <:+: (stripFences source).toList ∧
    stripFences (stripFences source) = stripFences source ∧
    (¬ fence <:+: source.toList → stripFences source = source) ∧
    splitString '\n' (stripFences source) = (splitString '\n' source).map stripFences ∧
    (splitString '\n' (stripFences source)).length = (splitString '\n' source).length ∧
    (∀ settings : Settings, requestFor settings (stripFences source) =
      request (stripFences source) settings.optimize settings.runs) ∧
    ∀ {State : Type} (j : Job State) (p q : Progress State) (c : CompiledContract),
      j.compile.run p = (.ok c, q) → j.loadSource.run p = (.ok c.source, p) := by
  refine ⟨not_infix_stripFences source, stripFences_stripFences source, stripFences_of_not_infix,
    splitString_stripFences source, ?_, ?_, ?_⟩
  · rw [splitString_stripFences, List.length_map]
  · intro settings
    rw [requestFor, stripFences_stripFences]
  · intro State j p q c h
    exact j.run_loadSource_of_compile h

open Compiler in
/-- Taking the opening fence out brings three backticks together, which are taken out as well. -/
theorem fences_are_stripped_twice :
    stripFences "`````solidity`\ncontract A" = "\ncontract A" ∧
    ¬ fence <:+: "\ncontract A".toList ∧ stripFences "\ncontract A" = "\ncontract A" ∧
    splitString '\n' "\ncontract A" =
      ["`````solidity`", "contract A"].map stripFences := by
  obtain ⟨_, _, _, hlines, _⟩ := fences_are_stripped "`````solidity`\ncontract A"
  have hstripped : stripFences "`````solidity`\ncontract A" = "\ncontract A" := by decide +kernel
  have hplain : ¬ fence <:+: "\ncontract A".toList := by decide +kernel
  have hsplit : splitString '\n' "`````solidity`\ncontract A" =
      ["`````solidity`", "contract A"] := by
    decide +kernel
  rw [hstripped, hsplit] at hlines
  exact ⟨hstripped, hplain, (fences_are_stripped _).2.2.1 hplain, hlines⟩

end GasLens
