/-
  GasLens/Proofs/WarningHistories.lean
  ====================================
  **Warnings that are given once** — over everything that is done with loggers, in any order.

  A history (`LogHistory`) makes loggers, copies them, derives children from them and logs with
  them. Each logger goes back to the one `create` it comes from, whatever lies between, and that is
  its family. What a family remembers are the texts of the warnings that were given to it and may
  not be repeated (`mem_seen_run`). A text stands for one code and one message
  (`warningText_eq_iff`), so only the same warning, to the same family, can silence a warning.
-/
import GasLens.Log

namespace GasLens

/-! ### Texts of warnings -/

/-- The last occurrence of a character cuts a text in two. -/
theorem eq_of_append_cons_eq {α : Type} {x : α} {a b r s : List α} (hr : x ∉ r) (hs : x ∉ s)
    (h : a ++ x :: r = b ++ x :: s) : a = b ∧ r = s := by
  rcases List.append_eq_append_iff.1 h with ⟨t, rfl, ht⟩ | ⟨t, rfl, ht⟩
  · cases t with
    | nil => exact ⟨(List.append_nil a).symm, (List.cons.inj ht).2⟩
    | cons y t =>
      rw [(List.cons.inj ht).2] at hr
      exact absurd (List.mem_append_right t List.mem_cons_self) hr
  · cases t with
    | nil => exact ⟨List.append_nil b, (List.cons.inj ht).2.symm⟩
    | cons y t =>
      rw [(List.cons.inj ht).2] at hs
      exact absurd (List.mem_append_right t List.mem_cons_self) hs

theorem WarningCode.name_injective {c d : WarningCode} (h : c.name = d.name) : c = d := by
  cases c <;> cases d <;> first | rfl | exact absurd h (by decide)

theorem WarningCode.hash_not_mem_name (c : WarningCode) : '#' ∉ c.name.toList := by
  cases c <;> decide

namespace Journal

theorem toList_warningText (code : WarningCode) (message : String) :
    (warningText code message).toList =
      (message.toList ++ "\n(see ".toList ++ warningsPage.toList) ++
        '#' :: (code.name.toList ++ [')']) := by
  simp only [warningText, WarningCode.url, String.toList_append, List.append_assoc]
  rfl

/-- The text of a warning tells its code and its message, whatever the message is. -/
theorem warningText_eq_iff {c d : WarningCode} {m m' : String} :
    warningText c m = warningText d m' ↔ c = d ∧ m = m' := by
  constructor
  · intro h
    have hnot : ∀ e : WarningCode, '#' ∉ e.name.toList ++ [')'] := by
      intro e hmem
      rcases List.mem_append.1 hmem with hname | hclosing
      · exact e.hash_not_mem_name hname
      · exact absurd hclosing (by decide)
    have hlists := congrArg String.toList h
    rw [toList_warningText, toList_warningText] at hlists
    obtain ⟨hfront, hback⟩ := eq_of_append_cons_eq (hnot c) (hnot d) hlists
    have hname := String.toList_inj.1 (List.append_cancel_right hback)
    have hmessage := List.append_cancel_right (List.append_cancel_right hfront)
    exact ⟨WarningCode.name_injective hname, String.toList_inj.1 hmessage⟩
  · rintro ⟨rfl, rfl⟩
    rfl

/-! ### One warning -/

section Warn

variable (j : Journal) (l : Logger) (code : WarningCode) (message : String) (repeatable : Bool)

theorem hasSeen_iff (family : Nat) (text : String) :
    j.hasSeen family text = true ↔ (family, text) ∈ j.seen := List.contains_iff_mem

theorem warn_fst_iff :
    (j.warn l code message repeatable).1 = true ↔
      repeatable = true ∨ (l.family, warningText code message) ∉ j.seen := by
  rw [← hasSeen_iff]
  cases repeatable with
  | true => exact iff_of_true rfl (Or.inl rfl)
  | false =>
    unfold warn
    cases hseen : j.hasSeen l.family (warningText code message) <;> simp [hseen]

/-- A warning is remembered for its family, unless it may be repeated. -/
theorem mem_seen_warn (x : Nat × String) :
    x ∈ (j.warn l code message repeatable).2.seen ↔
      x ∈ j.seen ∨ repeatable = false ∧ x = (l.family, warningText code message) := by
  cases repeatable with
  | true => simp [warn, writeWarning]
  | false =>
    cases hseen : j.hasSeen l.family (warningText code message) with
    | true =>
      -- the text is remembered already
      have hmem := (j.hasSeen_iff _ _).1 hseen
      simp only [warn, hseen, Bool.false_eq_true, if_false, if_true, true_and]
      constructor
      · exact Or.inl
      · rintro (hx | rfl)
        · exact hx
        · exact hmem
    | false =>
      simp only [warn, hseen, writeWarning, Bool.false_eq_true, if_false, true_and,
        List.mem_cons]
      exact or_comm

theorem families_warn : (j.warn l code message repeatable).2.families = j.families := by
  unfold warn
  dsimp only
  split
  · rfl
  · split <;> rfl

/-- A warning is in the log if it is given, and the log is as it was otherwise. -/
theorem entries_warn :
    (j.warn l code message repeatable).2.entries = j.entries ++
      if (j.warn l code message repeatable).1 then
        [⟨.warn, l.component, warningText code message, some code⟩] else [] := by
  unfold warn
  dsimp only
  split
  · exact List.reverse_cons
  · split
    · exact (List.append_nil _).symm
    · exact List.reverse_cons

end Warn

end Journal

/-! ### Histories -/

structure Warning where
  code : WarningCode
  message : String
  repeatable : Bool
  deriving DecidableEq, Repr

/-- Everything that was done with loggers, by the number of loggers there are. They are numbered
in the order they were made. -/
inductive LogHistory : Nat → Type where
  | start : LogHistory 0
  | create {n : Nat} (h : LogHistory n) (component : String) : LogHistory (n + 1)
  | copy {n : Nat} (h : LogHistory n) (l : Fin n) : LogHistory (n + 1)
  | child {n : Nat} (h : LogHistory n) (l : Fin n) (component : String) : LogHistory (n + 1)
  | write {n : Nat} (h : LogHistory n) (l : Fin n) (level : LogLevel) (message : String) :
    LogHistory n
  | warn {n : Nat} (h : LogHistory n) (l : Fin n) (w : Warning) : LogHistory n

/-- The loggers that were made and the journal they share. -/
structure LogState (n : Nat) where
  loggers : Vector Logger n
  journal : Journal

/-- A warning that was asked for, with the number of the `create` its logger goes back to. -/
structure WarningCall where
  origin : Nat
  warning : Warning
  deriving DecidableEq, Repr

/-- Whether a call silences a later one for good. -/
def WarningCall.Silences (c : WarningCall) (origin : Nat) (w : Warning) : Prop :=
  c.origin = origin ∧ c.warning.repeatable = false ∧ c.warning.code = w.code ∧
    c.warning.message = w.message

namespace LogHistory

def run : {n : Nat} → LogHistory n → LogState n
  | _, start => ⟨#v[], .empty⟩
  | _, create h component =>
    let (l, journal) := h.run.journal.newLogger component
    ⟨h.run.loggers.push l, journal⟩
  | _, copy h l => { h.run with loggers := h.run.loggers.push h.run.loggers[l] }
  | _, child h l component =>
    { h.run with loggers := h.run.loggers.push (h.run.loggers[l].child component) }
  | _, write h l level message =>
    { h.run with journal := h.run.journal.write h.run.loggers[l] level message }
  | _, warn h l w =>
    { h.run with
      journal := (h.run.journal.warn h.run.loggers[l] w.code w.message w.repeatable).2 }

/-- Whether a warning is given that is asked for at the end of a history. -/
def gives {n : Nat} (h : LogHistory n) (l : Fin n) (w : Warning) : Bool :=
  (h.run.journal.warn h.run.loggers[l] w.code w.message w.repeatable).1

/-- How often `create` made a logger. -/
def creations : {n : Nat} → LogHistory n → Nat
  | _, start => 0
  | _, create h _ => h.creations + 1
  | _, copy h _ | _, child h _ _ | _, write h _ _ _ | _, warn h _ _ => h.creations

/-- For each logger, the number of the `create` that it goes back to by copies and children. -/
def origins : {n : Nat} → LogHistory n → Vector Nat n
  | _, start => #v[]
  | _, create h _ => h.origins.push h.creations
  | _, copy h l | _, child h l _ => h.origins.push h.origins[l]
  | _, write h _ _ _ | _, warn h _ _ => h.origins

/-- The warnings that were asked for, the newest first. -/
def calls : {n : Nat} → LogHistory n → List WarningCall
  | _, start => []
  | _, warn h l w => ⟨h.origins[l], w⟩ :: h.calls
  | _, create h _ | _, copy h _ | _, child h _ _ | _, write h _ _ _ => h.calls

/-- A history with some of its warnings only. -/
def keeping (keep : WarningCall → Bool) : {n : Nat} → LogHistory n → LogHistory n
  | _, start => start
  | _, create h component => create (h.keeping keep) component
  | _, copy h l => copy (h.keeping keep) l
  | _, child h l component => child (h.keeping keep) l component
  | _, write h l level message => write (h.keeping keep) l level message
  | _, warn h l w =>
    if keep ⟨h.origins[l], w⟩ then warn (h.keeping keep) l w else h.keeping keep

/-! ### What is remembered -/

variable {n : Nat}

theorem families_run (h : LogHistory n) : h.run.journal.families = h.creations := by
  induction h with
  | start => rfl
  | create h component ih => exact congrArg (· + 1) ih
  | copy h l ih => exact ih
  | child h l component ih => exact ih
  | write h l level message ih => exact ih
  | warn h l w ih => exact (Journal.families_warn _ _ _ _ _).trans ih

theorem family_of_map_eq {ls : Vector Logger n} {os : Vector Nat n}
    (h : ls.map Logger.family = os) (l : Fin n) : ls[l].family = os[l] := by
  simp [← h]

theorem map_family_push {ls : Vector Logger n} {os : Vector Nat n} {l : Logger} {o : Nat}
    (h : ls.map Logger.family = os) (hl : l.family = o) :
    (ls.push l).map Logger.family = os.push o := by
  rw [Vector.map_push, h, hl]

theorem map_family_run (h : LogHistory n) : h.run.loggers.map Logger.family = h.origins := by
  induction h with
  | start => exact Vector.map_empty
  | create h component ih => exact map_family_push ih h.families_run
  | copy h l ih => exact map_family_push ih (family_of_map_eq ih l)
  | child h l component ih => exact map_family_push ih (family_of_map_eq ih l)
  | write h l level message ih => exact ih
  | warn h l w ih => exact ih

/-- The family of a logger is the `create` it goes back to. -/
theorem family_run (h : LogHistory n) (l : Fin n) : h.run.loggers[l].family = h.origins[l] :=
  family_of_map_eq h.map_family_run l

/-- A family remembers the texts of the warnings that were given to it and may not be repeated. -/
theorem mem_seen_run (h : LogHistory n) (family : Nat) (text : String) :
    (family, text) ∈ h.run.journal.seen ↔
      ∃ c ∈ h.calls, c.origin = family ∧ c.warning.repeatable = false ∧
        Journal.warningText c.warning.code c.warning.message = text := by
  induction h with
  | start => simp [run, Journal.empty, calls]
  | create h component ih => exact ih
  | copy h l ih => exact ih
  | child h l component ih => exact ih
  | write h l level message ih => exact ih
  | warn h l w ih =>
    simp only [run, calls, Journal.mem_seen_warn, ih, family_run, List.mem_cons, exists_eq_or_imp]
    rw [or_comm]
    apply or_congr_left
    constructor
    · rintro ⟨hrepeatable, heq⟩
      cases heq
      exact ⟨rfl, hrepeatable, rfl⟩
    · rintro ⟨rfl, hrepeatable, rfl⟩
      exact ⟨hrepeatable, rfl⟩

theorem gives_iff (h : LogHistory n) (l : Fin n) (w : Warning) :
    h.gives l w = true ↔
      w.repeatable = true ∨ ¬ ∃ c ∈ h.calls, c.Silences h.origins[l] w := by
  rw [gives, Journal.warn_fst_iff, mem_seen_run, family_run]
  simp only [Journal.warningText_eq_iff, WarningCall.Silences]

/-! ### What has no influence -/

section Keeping

variable (keep : WarningCall → Bool)

theorem creations_keeping (h : LogHistory n) : (h.keeping keep).creations = h.creations := by
  induction h with
  | start => rfl
  | create h component ih => exact congrArg (· + 1) ih
  | copy h l ih => exact ih
  | child h l component ih => exact ih
  | write h l level message ih => exact ih
  | warn h l w ih =>
    rw [keeping]
    split <;> exact ih

theorem origins_keeping (h : LogHistory n) : (h.keeping keep).origins = h.origins := by
  induction h with
  | start => rfl
  | create h component ih => rw [keeping, origins, origins, ih, creations_keeping]
  | copy h l ih => rw [keeping, origins, origins, ih]
  | child h l component ih => rw [keeping, origins, origins, ih]
  | write h l level message ih => exact ih
  | warn h l w ih =>
    rw [keeping]
    split <;> exact ih

theorem calls_keeping (h : LogHistory n) : (h.keeping keep).calls = h.calls.filter keep := by
  induction h with
  | start => rfl
  | create h component ih => exact ih
  | copy h l ih => exact ih
  | child h l component ih => exact ih
  | write h l level message ih => exact ih
  | warn h l w ih =>
    rw [keeping, calls]
    split
    · next hkeep => rw [List.filter_cons_of_pos hkeep, calls, ih, origins_keeping]
    · next hkeep => rw [List.filter_cons_of_neg hkeep, ih]

/-- Only the calls that silence a warning decide whether it is given. -/
theorem gives_keeping {h : LogHistory n} {l : Fin n} {w : Warning}
    (hkeep : ∀ c, c.Silences h.origins[l] w → keep c = true) :
    (h.keeping keep).gives l w = h.gives l w := by
  rw [Bool.eq_iff_iff, gives_iff, gives_iff, origins_keeping, calls_keeping]
  apply or_congr_right
  apply not_congr
  constructor
  · rintro ⟨c, hc, hsilences⟩
    exact ⟨c, (List.mem_filter.1 hc).1, hsilences⟩
  · rintro ⟨c, hc, hsilences⟩
    exact ⟨c, List.mem_filter.2 ⟨hc, hkeep c hsilences⟩, hsilences⟩

end Keeping

/-- **A warning is given once.** It is given if it may be repeated, or if no earlier call to the
same family asked for the same code and message without leave to repeat it; and it is in the log
exactly if it is given. Nothing changes if the history is rid of the calls that may be repeated, of
those to other families, or of those with another code or message: such calls have no influence.
The texts that are remembered are equal only if code and message are. -/
theorem warns_once (h : LogHistory n) (l : Fin n) (w : Warning) :
    (h.gives l w = true ↔
      w.repeatable = true ∨ ¬ ∃ c ∈ h.calls, c.origin = h.origins[l] ∧
        c.warning.repeatable = false ∧ c.warning.code = w.code ∧ c.warning.message = w.message) ∧
      (h.warn l w).run.journal.entries = h.run.journal.entries ++
        (if h.gives l w then [⟨.warn, h.run.loggers[l].component,
          Journal.warningText w.code w.message, some w.code⟩] else []) ∧
      (h.keeping fun c => !c.warning.repeatable).gives l w = h.gives l w ∧
      (h.keeping fun c => c.origin == h.origins[l]).gives l w = h.gives l w ∧
      (h.keeping fun c => c.warning.code == w.code && c.warning.message == w.message).gives l w =
        h.gives l w ∧
      ∀ code message, Journal.warningText code message = Journal.warningText w.code w.message ↔
        code = w.code ∧ message = w.message := by
  refine ⟨h.gives_iff l w, Journal.entries_warn _ _ _ _ _, ?_, ?_, ?_,
    fun _ _ => Journal.warningText_eq_iff⟩
  · apply gives_keeping
    rintro c ⟨_, hrepeatable, _⟩
    rw [hrepeatable]
    rfl
  · apply gives_keeping
    rintro c ⟨horigin, _⟩
    exact beq_iff_eq.2 horigin
  · apply gives_keeping
    rintro c ⟨_, _, hcode, hmessage⟩
    rw [hcode, hmessage, beq_self_eq_true, beq_self_eq_true, Bool.and_self]

/-- A child shares what its parent remembers; a logger of the same name made anew does not. -/
example :
    let shared : Warning := ⟨.invalidTrace, "shared", false⟩
    let h := (((start.create "fuzzer").child 0 "trace").create "fuzzer").warn 1 shared
    h.gives 0 shared = false ∧ h.gives 2 shared = true := by
  decide

end LogHistory

end GasLens
