/-
  GasLens/Proofs/ReportDocuments.lean
  ===================================
  **Reports as documents** — the writer and the reader of each record, one against the other.

  Both go through the fields one by one and neither knows the other: the names of the fields,
  their order and their defaults are said twice. Here a record that is written is read back
  field by field (`ofJson?_toJson`), the outline of a report leaves nothing of it out
  (`kept_toJson`), and what is read fits the words it is written from
  (`fitsWords_of_ofJson?`). The lines are the names of members, and a map of lines is rebuilt
  entry by entry.
-/
import GasLens.Proofs.JsonRoundTrip
import GasLens.Proofs.JsonWords
import GasLens.Proofs.Maps
import GasLens.Proofs.Readings
import GasLens.Report.Document

namespace GasLens

open GasLens.Source GasLens.Text

/-! ### Words -/

namespace FunctionReport

/-- The numbers of a report fit the words of 64 bits that hold them. -/
structure FitsWords (r : FunctionReport) : Prop where
  counters : ∀ n ∈ [r.min, r.max, r.p95, r.skipped, r.traced], n ≤ maxU64
  costs : ∀ s ∈ r.samples, s.cost ≤ maxU64
  lines : ∀ e ∈ r.costByLine.entries, IsInt64 e.1 ∧ e.2 ≤ maxU64

end FunctionReport

/-- The numbers of a report fit the words of 64 bits that hold them. -/
structure ContractReport.FitsWords (c : ContractReport) : Prop where
  iterations_le : c.iterations ≤ maxU64
  functions : ∀ r ∈ c.functions, r.FitsWords

/-- The means of a report are doubles that are read back from their texts. -/
def ContractReport.MeansReadBack (c : ContractReport) : Prop :=
  ∀ r ∈ c.functions, Json.ReadsBack (.double r.avg)

/-! ### Lines -/

theorem readNumber_intText {line : Line} (hpos : 0 < line) (hfits : IsInt64 line) :
    Json.readNumber (intText line).toList = some (.integer line, []) := by
  obtain ⟨n, rfl⟩ := Int.eq_ofNat_of_zero_le (Int.le_of_lt hpos)
  have hn : n ≤ maxU64 := by
    have := hfits.2
    unfold maxU64
    omega
  exact Json.readsBack_ofNat hn

theorem readLineKey_intText {line : Line} (hpos : 0 < line) (hfits : IsInt64 line) :
    readLineKey (intText line) = some line := by
  have hle : line ≤ (maxI64 : Int) := Int.le_of_lt_add_one hfits.2
  rw [readLineKey, readNumber_intText hpos hfits]
  exact if_pos hle

theorem isInt64_of_readLineKey {name : String} {line : Line} (h : readLineKey name = some line) :
    IsInt64 line := by
  unfold readLineKey at h
  split at h
  · rename_i n hread
    have hword : Json.FitsWord (.integer n) := Json.fits_of_readNumber hread
    split at h
    · rename_i hle
      cases h
      refine ⟨hword.1, ?_⟩
      unfold maxI64 at hle
      omega
    · cases h
  · cases h

theorem escapedChar_of_isDigit {c : Char} (h : c.isDigit = true) : Json.escapedChar c = [c] := by
  have hmarks : (['"', '\\', '\x08', '\x0c', '\n', '\r', '\t'].all fun d => !d.isDigit) = true := by
    decide
  have hne : ∀ d ∈ ['"', '\\', '\x08', '\x0c', '\n', '\r', '\t'], c ≠ d := by
    rintro d hd rfl
    have hdigit := List.all_eq_true.1 hmarks c hd
    rw [h] at hdigit
    cases hdigit
  have hlow : ¬ c.toNat < 0x20 := by
    simp only [Char.isDigit, Bool.and_eq_true, decide_eq_true_eq] at h
    have hzero : '0'.toNat ≤ c.toNat := UInt32.le_iff_toNat_le.1 h.1
    have h48 : '0'.toNat = 48 := rfl
    omega
  simp only [List.forall_mem_cons] at hne
  simp only [Json.escapedChar, hne, hlow, if_false]

/-- The name of a line is written without escapes. -/
theorem isPlain_intText (line : Line) :
    '\\' ∉ (intText line).toList.flatMap Json.escapedChar := by
  intro h
  obtain ⟨c, hc, hmem⟩ := List.mem_flatMap.1 h
  rcases isDigit_or_minus_of_mem_intText hc with hdigit | rfl
  · rw [escapedChar_of_isDigit hdigit, List.mem_singleton] at hmem
    subst hmem
    exact absurd hdigit (by decide)
  · exact absurd hmem (by decide)

/-! ### Records read back -/

theorem nat?_ofNat (n : Nat) : (Json.ofNat n).nat? = some n := by
  rw [Json.ofNat, Json.nat?, if_pos (Int.natCast_nonneg n), Int.toNat_natCast]

theorem readSample_toJson (s : Sample) : readSample s.toJson = some s := by
  have hfields : s.toJson.fields? sampleShape true =
      some [some (.ofNat s.cost), some (.bool s.reverted)] := rfl
  rw [readSample, hfields]
  simp only [Json.given?, nat?_ofNat]
  rfl

theorem listOf?_map {α : Type} {read : Json → Option α} {write : α → Json} {as : List α}
    (h : ∀ a ∈ as, read (write a) = some a) : Json.listOf? read (.array (as.map write)) = some as :=
  mapM_map_of_forall h

/-- The gas of lines is read back if all of its lines are. -/
theorem readLineCosts_lineCostsToJson {m : SortedMap Line Nat}
    (h : ∀ e ∈ m.entries, 0 < e.1 ∧ IsInt64 e.1) : readLineCosts (lineCostsToJson m) = some m := by
  have hentries : (m.entries.map fun e => (intText e.1, Json.ofNat e.2)).mapM readLineEntry =
      some m.entries := by
    apply mapM_map_of_forall
    intro e he
    rw [readLineEntry, readLineKey_intText (h e he).1 (h e he).2, nat?_ofNat]
    rfl
  rw [lineCostsToJson, readLineCosts, hentries, Option.map_some, SortedMap.ofList_entries]

/-- The report of a function is read back from its document. -/
theorem readFunctionReport_toJson {r : FunctionReport} (hfits : r.FitsWords)
    (hlines : ∀ line ∈ r.costByLine.keys, 0 < line) : readFunctionReport r.toJson = some r := by
  have hfields : r.toJson.fields? functionReportShape true =
      some [some (.string r.name), some (.array (r.samples.map Sample.toJson)),
        some (.ofNat r.min), some (.ofNat r.max), some (.ofFloat r.avg), some (.ofNat r.p95),
        some (lineCostsToJson r.costByLine), some (.ofNat r.skipped), some (.ofNat r.traced)] := rfl
  have hsamples : Json.listOf? readSample (.array (r.samples.map Sample.toJson)) =
      some r.samples := listOf?_map fun s _ => readSample_toJson s
  have hcosts : readLineCosts (lineCostsToJson r.costByLine) = some r.costByLine := by
    apply readLineCosts_lineCostsToJson
    intro e he
    exact ⟨hlines e.1 (List.mem_map_of_mem he), (hfits.lines e he).1⟩
  rw [readFunctionReport, hfields]
  simp only [Json.given?, Json.givenOr?, nat?_ofNat, hsamples, hcosts]
  rfl

/-- **A report is read back from its document**, field by field. -/
theorem ContractReport.ofJson?_toJson {c : ContractReport} (hfits : c.FitsWords)
    (hlines : ∀ r ∈ c.functions, ∀ line ∈ r.costByLine.keys, 0 < line) :
    ContractReport.ofJson? c.toJson = some c := by
  have hfields : c.toJson.fields? ContractReport.shape true =
      some [some (.string c.name), some (.ofNat c.iterations),
        some (.array (c.functions.map FunctionReport.toJson))] := rfl
  have hfunctions : Json.listOf? readFunctionReport
      (.array (c.functions.map FunctionReport.toJson)) = some c.functions := by
    apply listOf?_map
    intro r hr
    exact readFunctionReport_toJson (hfits.functions r hr) (hlines r hr)
  rw [ContractReport.ofJson?, hfields]
  simp only [Json.given?, nat?_ofNat, hfunctions]
  rfl

/-! ### Nothing is left out -/

namespace Json

variable {o : Outline}

/-- Items that an outline treats alike are kept if each of them is. -/
theorem keptItems_map {α : Type} {write : α → Json} {as : List α} (htail : o.tail = o)
    (h : ∀ a ∈ as, Kept o.head (write a)) : KeptItems o (as.map write) := by
  induction as with
  | nil => trivial
  | cons a as ih =>
    refine ⟨h a List.mem_cons_self, ?_⟩
    rw [htail]
    exact ih fun b hb => h b (List.mem_cons_of_mem a hb)

/-- A member whose name may have escapes is kept with the part of its name. -/
theorem keptMembers_cons {name : String} {part : Outline} {j : Json} {ms : List (String × Json)}
    (hplain : o.hasPlainNames = false) (hpart : o.member? name = some part) (hj : Kept part j)
    (hms : KeptMembers o ms) : KeptMembers o ((name, j) :: ms) := by
  refine ⟨⟨part, hpart, hj⟩, ?_, hms⟩
  intro hnames
  rw [hplain] at hnames
  cases hnames

theorem kept_string (s : String) : Kept o (.string s) := trivial

theorem kept_ofNat {n : Nat} (h : n ≤ maxU64) : Kept o (.ofNat n) := by
  rw [Json.ofNat, Kept]
  exact readsBack_ofNat h

end Json

section Kept

open Json

theorem kept_sample {s : Sample} (h : s.cost ≤ maxU64) : Kept .whole s.toJson := by
  rw [Sample.toJson, Kept]
  apply keptMembers_cons rfl rfl (kept_ofNat h)
  exact keptMembers_cons rfl rfl trivial trivial

theorem kept_lineCosts {m : SortedMap Line Nat} (h : ∀ e ∈ m.entries, e.2 ≤ maxU64) :
    Kept (.numbered .whole) (lineCostsToJson m) := by
  rw [lineCostsToJson, Kept]
  generalize m.entries = es at h
  induction es with
  | nil => trivial
  | cons e es ih =>
    refine ⟨⟨.whole, rfl, kept_ofNat (h e List.mem_cons_self)⟩, fun _ => isPlain_intText e.1, ?_⟩
    exact ih fun d hd => h d (List.mem_cons_of_mem e hd)

theorem kept_functionReport {r : FunctionReport} (hfits : r.FitsWords)
    (hmean : ReadsBack (.double r.avg)) :
    Kept (.record (functionReportShape.map fun field =>
      (field.1, if field.1 = "costByLine" then .numbered .whole else .whole))) r.toJson := by
  have hcounters := hfits.counters
  simp only [List.forall_mem_cons] at hcounters
  obtain ⟨hmin, hmax, hp95, hskipped, htraced, _⟩ := hcounters
  have hsamples : Kept .whole (.array (r.samples.map Sample.toJson)) := by
    rw [Kept]
    exact keptItems_map rfl fun s hs => kept_sample (hfits.costs s hs)
  have havg : Kept .whole (.ofFloat r.avg) := by
    rw [Json.ofFloat, Kept]
    exact hmean
  rw [FunctionReport.toJson, Kept]
  apply keptMembers_cons rfl rfl (kept_string _)
  apply keptMembers_cons rfl rfl hsamples
  apply keptMembers_cons rfl rfl (kept_ofNat hmin)
  apply keptMembers_cons rfl rfl (kept_ofNat hmax)
  apply keptMembers_cons rfl rfl havg
  apply keptMembers_cons rfl rfl (kept_ofNat hp95)
  apply keptMembers_cons rfl rfl (kept_lineCosts fun e he => (hfits.lines e he).2)
  apply keptMembers_cons rfl rfl (kept_ofNat hskipped)
  exact keptMembers_cons rfl rfl (kept_ofNat htraced) trivial

/-- **The outline of a report keeps all of its document.** -/
theorem ContractReport.kept_toJson {c : ContractReport} (hfits : c.FitsWords)
    (hmeans : c.MeansReadBack) : Kept ContractReport.outline c.toJson := by
  rw [ContractReport.toJson, Kept]
  apply keptMembers_cons rfl rfl (kept_string _)
  apply keptMembers_cons rfl rfl (kept_ofNat hfits.iterations_le)
  refine keptMembers_cons rfl rfl ?_ trivial
  rw [Kept]
  apply keptItems_map rfl
  intro r hr
  exact kept_functionReport (hfits.functions r hr) (hmeans r hr)

end Kept

/-! ### Depth -/

namespace Json

theorem depthItems_map_le {α : Type} {write : α → Json} {as : List α} {d : Nat}
    (h : ∀ a ∈ as, (write a).depth ≤ d) : depthItems (as.map write) ≤ d := by
  induction as with
  | nil => exact Nat.zero_le d
  | cons a as ih =>
    rw [List.map_cons, depthItems]
    exact Nat.max_le.2
      ⟨h a List.mem_cons_self, ih fun b hb => h b (List.mem_cons_of_mem a hb)⟩

theorem depthMembers_lines (es : List (Line × Nat)) :
    depthMembers (es.map fun e => (intText e.1, .ofNat e.2)) = 0 := by
  induction es with
  | nil => rfl
  | cons e es ih =>
    rw [List.map_cons, depthMembers, ih]
    rfl

end Json

theorem FunctionReport.depth_toJson_le (r : FunctionReport) : r.toJson.depth ≤ 3 := by
  have hsamples : Json.depthItems (r.samples.map Sample.toJson) ≤ 1 :=
    Json.depthItems_map_le fun _ _ => Nat.le_refl 1
  have hlines := Json.depthMembers_lines r.costByLine.entries
  rw [FunctionReport.toJson]
  simp only [Json.depth, Json.depthMembers, Json.ofNat, Json.ofFloat, lineCostsToJson] at hlines ⊢
  rw [hlines]
  omega

/-- A report is never nested deeper than documents may be. -/
theorem ContractReport.depth_toJson_le (c : ContractReport) : c.toJson.depth ≤ Json.maxDepth := by
  have hfunctions : Json.depthItems (c.functions.map FunctionReport.toJson) ≤ 3 :=
    Json.depthItems_map_le fun r _ => r.depth_toJson_le
  rw [ContractReport.toJson, Json.maxDepth]
  simp only [Json.depth, Json.depthMembers, Json.ofNat]
  omega

/-! ### What is read fits -/

namespace Json

/-- A field by position is one of the items. -/
theorem mem_of_mem_positionalFields {shape : RecordShape} {js : List Json}
    {fs : List (Option Json)} (h : positionalFields shape js = some fs) {j : Json}
    (hj : some j ∈ fs) : j ∈ js := by
  induction shape generalizing js fs with
  | nil =>
    cases js with
    | nil =>
      cases h
      cases hj
    | cons k js => cases h
  | cons f shape ih =>
    cases js with
    | nil =>
      rw [positionalFields] at h
      split at h
      · obtain ⟨rest, hrest, rfl⟩ := Option.map_eq_some_iff.1 h
        rcases List.mem_cons.1 hj with heq | hmem
        · cases heq
        · exact ih hrest hmem
      · cases h
    | cons k js =>
      rw [positionalFields] at h
      obtain ⟨rest, hrest, rfl⟩ := Option.map_eq_some_iff.1 h
      rcases List.mem_cons.1 hj with heq | hmem
      · cases heq
        exact List.mem_cons_self
      · exact List.mem_cons_of_mem k (ih hrest hmem)

/-- A field by name is the value of a member. -/
theorem exists_of_namedField {ms : List (String × Json)} {field : String × Presence} {j : Json}
    (h : namedField ms field = some (some j)) : ∃ m ∈ ms, m.2 = j := by
  unfold namedField at h
  split at h
  · split at h <;> cases h
  · rename_i m hfilter
    cases h
    have hm : m ∈ ms.filter fun m => m.1 == field.1 := hfilter ▸ List.mem_singleton_self m
    exact ⟨m, (List.mem_filter.1 hm).1, rfl⟩
  · cases h

/-- The fields of a record fit if the record does. -/
theorem fits_of_fields? {shape : RecordShape} {closed : Bool} {j : Json} {fs : List (Option Json)}
    (h : j.fields? shape closed = some fs) (hj : Fits j) : ∀ f ∈ fs, ∀ k ∈ f, Fits k := by
  rintro f hf k rfl
  unfold fields? at h
  split at h
  · rw [Fits] at hj
    split at h
    · cases h
    · obtain ⟨field, _, hfield⟩ := exists_of_mem_mapM h hf
      obtain ⟨m, hm, rfl⟩ := exists_of_namedField hfield
      exact hj.of_mem hm
  · rw [Fits] at hj
    exact hj.of_mem (mem_of_mem_positionalFields h hf)
  · cases h

theorem le_of_nat? {j : Json} {n : Nat} (hj : Fits j) (h : j.nat? = some n) : n ≤ maxU64 := by
  unfold nat? at h
  split at h
  · rw [Fits] at hj
    have hle := hj.2
    split at h
    · cases h
      omega
    · cases h
  · cases h

section Given

variable {α : Type} {read : Json → Option α} {f : Option Json} {a : α}

theorem exists_of_given? (h : given? read f = some a) : ∃ j ∈ f, read j = some a := by
  cases f with
  | none => cases h
  | some j => exact ⟨j, rfl, h⟩

theorem exists_or_default_of_givenOr? {default : α} (h : givenOr? default read f = some a) :
    a = default ∨ ∃ j ∈ f, read j = some a := by
  cases f with
  | none =>
    cases h
    exact Or.inl rfl
  | some j => exact Or.inr ⟨j, rfl, h⟩

theorem forall_of_given?_listOf? {as : List α} (hf : ∀ j ∈ f, Fits j)
    (h : given? (listOf? read) f = some as) : ∀ a ∈ as, ∃ j, Fits j ∧ read j = some a := by
  intro a ha
  obtain ⟨j, hj, hread⟩ := exists_of_given? h
  have hfits := hf j hj
  unfold listOf? at hread
  split at hread
  · rw [Fits] at hfits
    obtain ⟨k, hk, hk'⟩ := exists_of_mem_mapM hread ha
    exact ⟨k, hfits.of_mem hk, hk'⟩
  · cases hread

theorem le_of_given?_nat? {n : Nat} (hf : ∀ j ∈ f, Fits j) (h : given? nat? f = some n) :
    n ≤ maxU64 := by
  obtain ⟨j, hj, hread⟩ := exists_of_given? h
  exact le_of_nat? (hf j hj) hread

theorem le_of_givenOr?_nat? {n : Nat} (hf : ∀ j ∈ f, Fits j) (h : givenOr? 0 nat? f = some n) :
    n ≤ maxU64 := by
  rcases exists_or_default_of_givenOr? h with rfl | ⟨j, hj, hread⟩
  · exact Nat.zero_le _
  · exact le_of_nat? (hf j hj) hread

end Given

end Json

section Fits

open Json

theorem cost_le_of_readSample {j : Json} {s : Sample} (hj : Fits j) (h : readSample j = some s) :
    s.cost ≤ maxU64 := by
  unfold readSample at h
  split at h
  · rename_i cost reverted hfields
    have hgiven := fits_of_fields? hfields hj
    obtain ⟨n, hn, h⟩ := Option.bind_eq_some_iff.1 h
    obtain ⟨b, _, h⟩ := Option.bind_eq_some_iff.1 h
    cases h
    exact le_of_given?_nat? (hgiven cost (by simp)) hn
  · cases h

theorem fits_of_readLineCosts {j : Json} {m : SortedMap Line Nat} (hj : Fits j)
    (h : readLineCosts j = some m) : ∀ e ∈ m.entries, IsInt64 e.1 ∧ e.2 ≤ maxU64 := by
  intro e he
  unfold readLineCosts at h
  split at h
  · rw [Fits] at hj
    obtain ⟨es, hes, rfl⟩ := Option.map_eq_some_iff.1 h
    obtain ⟨member, hmember, hread⟩ := exists_of_mem_mapM hes (SortedMap.mem_of_mem_ofList he)
    obtain ⟨line, hline, hread⟩ := Option.bind_eq_some_iff.1 hread
    obtain ⟨cost, hcost, hread⟩ := Option.bind_eq_some_iff.1 hread
    cases hread
    exact ⟨isInt64_of_readLineKey hline, le_of_nat? (hj.of_mem hmember) hcost⟩
  · cases h

/-- A report that was read holds nothing that could not be written. -/
theorem fitsWords_of_readFunctionReport {j : Json} {r : FunctionReport} (hj : Fits j)
    (h : readFunctionReport j = some r) : r.FitsWords := by
  unfold readFunctionReport at h
  split at h
  · rename_i name samples min max avg p95 costByLine skipped traced hfields
    have hgiven := fits_of_fields? hfields hj
    simp only [List.forall_mem_cons] at hgiven
    obtain ⟨-, hsamples, hmin, hmax, -, hp95, hcosts, hskipped, htraced, -⟩ := hgiven
    obtain ⟨name', _, h⟩ := Option.bind_eq_some_iff.1 h
    obtain ⟨samples', hsamples', h⟩ := Option.bind_eq_some_iff.1 h
    obtain ⟨min', hmin', h⟩ := Option.bind_eq_some_iff.1 h
    obtain ⟨max', hmax', h⟩ := Option.bind_eq_some_iff.1 h
    obtain ⟨avg', _, h⟩ := Option.bind_eq_some_iff.1 h
    obtain ⟨p95', hp95', h⟩ := Option.bind_eq_some_iff.1 h
    obtain ⟨costs', hcosts', h⟩ := Option.bind_eq_some_iff.1 h
    obtain ⟨skipped', hskipped', h⟩ := Option.bind_eq_some_iff.1 h
    obtain ⟨traced', htraced', h⟩ := Option.bind_eq_some_iff.1 h
    cases h
    refine ⟨?_, ?_, ?_⟩
    · simp only [List.forall_mem_cons]
      exact ⟨le_of_given?_nat? hmin hmin', le_of_given?_nat? hmax hmax',
        le_of_given?_nat? hp95 hp95', le_of_givenOr?_nat? hskipped hskipped',
        le_of_givenOr?_nat? htraced htraced', fun _ hn => absurd hn List.not_mem_nil⟩
    · intro s hs
      obtain ⟨k, hk, hread⟩ := forall_of_given?_listOf? hsamples hsamples' s hs
      exact cost_le_of_readSample hk hread
    · obtain ⟨k, hk, hread⟩ := exists_of_given? hcosts'
      exact fits_of_readLineCosts (hcosts k hk) hread
  · cases h

/-- **The numbers of a report that was read fit their words.** -/
theorem ContractReport.fitsWords_of_ofJson? {j : Json} {c : ContractReport} (hj : Fits j)
    (h : ContractReport.ofJson? j = some c) : c.FitsWords := by
  unfold ContractReport.ofJson? at h
  split at h
  · rename_i name iterations functions hfields
    have hgiven := fits_of_fields? hfields hj
    obtain ⟨name', _, h⟩ := Option.bind_eq_some_iff.1 h
    obtain ⟨iterations', hiterations, h⟩ := Option.bind_eq_some_iff.1 h
    obtain ⟨functions', hfunctions, h⟩ := Option.bind_eq_some_iff.1 h
    cases h
    refine ⟨le_of_given?_nat? (hgiven iterations (by simp)) hiterations, ?_⟩
    intro r hr
    obtain ⟨k, hk, hread⟩ :=
      forall_of_given?_listOf? (hgiven functions (by simp)) hfunctions r hr
    exact fitsWords_of_readFunctionReport hk hread
  · cases h

end Fits

end GasLens
