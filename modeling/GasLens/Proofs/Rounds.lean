/-
  GasLens/Proofs/Rounds.lean
  ==========================
  **Rounds** — the record of a campaign cut at its invocations.

  An environment may answer anything, so what is true of a campaign is said about its record: what
  was sent, what was answered, and what happened until the next invocation, which is the fetching
  of a trace or nothing. The events of rounds in a row can be cut into rounds in one way only,
  because nothing that happens between two invocations is an invocation.

  `exists_round_of_perform` says all that one call can do, to the record and to the world of the
  environment. What a whole campaign does follows by induction on its calls.
-/
import GasLens.Campaign.Run
import GasLens.Proofs.ServedRequests

namespace GasLens

open GasLens.Abi GasLens.Source GasLens.Text

/-! ### Events -/

structure Sending where
  calldata : List UInt8
  options : CallOptions
  deriving DecidableEq, Repr

abbrev Answer : Type := Except Fault (Option Receipt)

namespace Event

def sending? : Event → Option Sending
  | .invoked calldata options _ => some ⟨calldata, options⟩
  | _ => none

def answer? : Event → Option Answer
  | .invoked _ _ answer => some answer
  | _ => none

def trace? : Event → Option Trace
  | .traced _ (.ok t) => some t
  | _ => none

/-- Nothing is sent. -/
def isQuiet (e : Event) : Bool := e.sending?.isNone

theorem sending?_of_isQuiet {e : Event} (h : e.isQuiet = true) : e.sending? = none :=
  Option.isNone_iff_eq_none.mp h

theorem answer?_of_isQuiet {e : Event} (h : e.isQuiet = true) : e.answer? = none := by
  cases e with
  | invoked => exact absurd h Bool.false_ne_true
  | deployed => rfl
  | traced => rfl
  | waited => rfl

end Event

namespace Session

variable {World : Type}

def sendings (s : Session World) : List Sending := s.events.filterMap Event.sending?

def answers (s : Session World) : List Answer := s.events.filterMap Event.answer?

variable {e : Environment World} {s s' : Session World}

/-! ### Fetching -/

/-- What happens while a trace is fetched: nothing is sent, and the first trace that is given is
the result. -/
structure Fetched (e : Environment World) (s : Session World)
    (result : Except Fault Trace × Session World) (events : List Event) : Prop where
  served : ∀ target, s.Served e target result.2 events
  quiet : ∀ event ∈ events, event.isQuiet = true
  trace : events.findSome? Event.trace? = result.1.toOption

theorem Fetched.last {transaction : String} {given answer : Except Fault Trace}
    (hserved : ∀ target, s.Served e target s' [.traced transaction given])
    (hanswer : given.toOption = answer.toOption) :
    s.Fetched e (answer, s') [.traced transaction given] where
  served := hserved
  quiet := List.forall_mem_singleton.mpr rfl
  trace := by
    rw [← hanswer]
    cases given <;> rfl

theorem Fetched.after {s₁ : Session World} {result : Except Fault Trace × Session World}
    {event : Event} {events : List Event} (hserved : ∀ target, s.Served e target s₁ [event])
    (hquiet : event.isQuiet = true) (htrace : event.trace? = none)
    (h : s₁.Fetched e result events) : s.Fetched e result (event :: events) where
  served target := (hserved target).append (h.served target)
  quiet := List.forall_mem_cons.mpr ⟨hquiet, h.quiet⟩
  trace := by rw [List.findSome?_cons, htrace, h.trace]

theorem exists_fetched_of_attemptTrace (e : Environment World) (policy : RetryPolicy) (l : Logger)
    (transaction : String) (left : Nat) (s : Session World) :
    ∃ events, s.Fetched e (attemptTrace e policy l transaction left s) events := by
  fun_induction attemptTrace e policy l transaction left s with
  | case1 _ _ _ _ htrace => exact ⟨_, .last (fun _ => served_of_trace htrace) rfl⟩
  | case2 _ _ _ _ htrace => exact ⟨_, .last (fun _ => served_of_trace htrace) rfl⟩
  | case3 _ _ _ htrace =>
    -- the journal knows of the last fault, the record does not change
    exact ⟨_, .last (fun _ => (served_of_trace htrace).noted rfl rfl) rfl⟩
  | case4 _ f _ htrace _ _ _ s ih =>
    obtain ⟨events, hevents⟩ := ih
    have hfailed (target : Deployment) : Served e target _ s [.traced transaction (.error f)] :=
      (served_of_trace htrace).noted rfl rfl
    exact ⟨_, .after hfailed rfl rfl (.after (fun _ => served_wait _ s) rfl rfl hevents)⟩

theorem exists_fetched_of_fetchTrace (e : Environment World) (policy : RetryPolicy) (l : Logger)
    (transaction : String) (s : Session World) :
    ∃ events, s.Fetched e (s.fetchTrace e policy l transaction) events := by
  obtain ⟨events, hevents⟩ := exists_fetched_of_attemptTrace e policy l transaction
    (policy.attempts - 1) (s.wait policy.settleDelay)
  exact ⟨_, .after (fun _ => served_wait _ s) rfl rfl hevents⟩

end Session

/-! ### Rounds -/

/-- An invocation, and what happened before the next one. -/
structure Round where
  sending : Sending
  answer : Answer
  fetch : List Event
  quiet : ∀ event ∈ fetch, event.isQuiet = true

namespace Round

def events (r : Round) : List Event :=
  .invoked r.sending.calldata r.sending.options r.answer :: r.fetch

/-- A round in which nothing was fetched. -/
def plain (sending : Sending) (answer : Answer) : Round := ⟨sending, answer, [], nofun⟩

theorem filterMap_events {α : Type} {pick : Event → Option α} {a : α} {r : Round}
    (hinvoked : pick (.invoked r.sending.calldata r.sending.options r.answer) = some a)
    (hquiet : ∀ event, event.isQuiet = true → pick event = none) :
    r.events.filterMap pick = [a] := by
  have hfetch : r.fetch.filterMap pick = [] :=
    List.filterMap_eq_nil_iff.mpr fun event hevent => hquiet event (r.quiet event hevent)
  rw [events, List.filterMap_cons, hinvoked, hfetch]

theorem filterMap_flatMap_events {α : Type} {pick : Event → Option α} {f : Round → α}
    (h : ∀ r : Round, r.events.filterMap pick = [f r]) (rs : List Round) :
    (rs.flatMap events).filterMap pick = rs.map f := by
  rw [List.filterMap_flatMap, List.map_eq_flatMap]
  simp only [h]

/-- What is sent in rounds is sent once in each of them. -/
theorem sendings_flatMap_events (rs : List Round) :
    (rs.flatMap events).filterMap Event.sending? = rs.map sending := by
  apply filterMap_flatMap_events
  intro r
  exact filterMap_events rfl fun _ => Event.sending?_of_isQuiet

theorem answers_flatMap_events (rs : List Round) :
    (rs.flatMap events).filterMap Event.answer? = rs.map answer := by
  apply filterMap_flatMap_events
  intro r
  exact filterMap_events rfl fun _ => Event.answer?_of_isQuiet

end Round

/-! ### Answers -/

namespace Answer

def sample? : Answer → Option Sample
  | .ok (some receipt) =>
    if receipt.cost = 0 then none else some ⟨receipt.cost, receipt.reverted⟩
  | _ => none

/-- There is no receipt. -/
def isLost : Answer → Bool
  | .ok (some _) => false
  | _ => true

/-- There is a receipt and it shows no gas. -/
def isFree : Answer → Bool
  | .ok (some receipt) => decide (receipt.cost = 0)
  | _ => false

end Answer

namespace Round

/-- The trace that was fetched in a round. -/
def trace? (r : Round) : Option Trace := r.fetch.findSome? Event.trace?

/-- What becomes of the invocation of a round. -/
def invocation (r : Round) : Campaign.Invocation :=
  match r.answer.sample? with
  | some sample => .sampled sample r.trace?
  | none => if r.answer.isLost then .skipped else .free

variable {World : Type}

/-- What is fetched in a round is the trace of its receipt, if there is a sample. -/
structure Fetches (c : Campaign World) (r : Round) : Prop where
  idle : r.answer.sample? = none → r.fetch = []
  fetched : ∀ receipt, r.answer = .ok (some receipt) → receipt.cost ≠ 0 →
    ∃ s : Session World, s.Fetched c.environment (s.fetchTrace c.environment c.settings.retry
      c.invocationLogger receipt.transaction) r.fetch

theorem fetches_plain (c : Campaign World) (sending : Sending) {answer : Answer}
    (h : answer.sample? = none) : (plain sending answer).Fetches c where
  idle _ := rfl
  fetched receipt hanswer hcost := by
    have hanswer : answer = .ok (some receipt) := hanswer
    rw [hanswer, Answer.sample?, if_neg hcost] at h
    exact absurd h (Option.some_ne_none _)

end Round

/-! ### One call -/

namespace Campaign

variable {World : Type} (c : Campaign World) (target : Deployment)

/-- The trace that counts is the first one that was given while it was fetched. -/
theorem exists_fetched_of_traceOf (function transaction : String) (s : Session World) :
    ∃ events,
      s.Fetched c.environment
        (s.fetchTrace c.environment c.settings.retry c.invocationLogger transaction) events ∧
      (c.traceOf function transaction s).1 = events.findSome? Event.trace? ∧
      s.Served c.environment target (c.traceOf function transaction s).2 events := by
  obtain ⟨events, h⟩ := Session.exists_fetched_of_fetchTrace c.environment c.settings.retry
    c.invocationLogger transaction s
  have htrace := h.trace
  have hserved := h.served target
  refine ⟨events, h, ?_⟩
  rw [traceOf]
  rcases hfetch : s.fetchTrace c.environment c.settings.retry c.invocationLogger transaction with
    ⟨_ | _, s₁⟩
  · rw [hfetch] at htrace hserved
    exact ⟨htrace.symm, hserved.noted rfl rfl⟩
  · rw [hfetch] at htrace hserved
    exact ⟨htrace.symm, hserved⟩

theorem sampleOf_of_cost_eq_zero {receipt : Receipt} (hcost : receipt.cost = 0)
    (function : String) (iteration : Nat) (s : Session World) :
    (c.sampleOf function iteration receipt s).1 = .free ∧
      s.Served c.environment target (c.sampleOf function iteration receipt s).2 [] := by
  simp only [sampleOf, if_pos hcost, true_and]
  exact .of_same rfl rfl

theorem sampleOf_of_cost_ne_zero {receipt : Receipt} (hcost : receipt.cost ≠ 0)
    (function : String) (iteration : Nat) (s : Session World) :
    ∃ (s₁ : Session World) (events : List Event),
      s₁.Fetched c.environment (s₁.fetchTrace c.environment c.settings.retry c.invocationLogger
        receipt.transaction) events ∧
      (c.sampleOf function iteration receipt s).1 =
        .sampled ⟨receipt.cost, receipt.reverted⟩ (events.findSome? Event.trace?) ∧
      s.Served c.environment target (c.sampleOf function iteration receipt s).2 events := by
  simp only [sampleOf, if_neg hcost]
  -- the trace is fetched after an entry in the journal
  have hentry (message : String) : s.Served c.environment target
      (s.log c.invocationLogger .debug message) [] := .of_same rfl rfl
  obtain ⟨events, hfetched, htrace, hserved⟩ :=
    c.exists_fetched_of_traceOf target function receipt.transaction (s.log _ .debug _)
  refine ⟨_, events, hfetched, ?_, (hentry _).append hserved⟩
  rw [htrace]

/-- **One call is one round.** Whatever the environment answers, one invocation is made, nothing
but the trace of its receipt is fetched, and what becomes of it is said by the answers alone. -/
theorem exists_round_of_perform (function : String) (iteration : Nat) (calldata : List UInt8)
    (payment : Nat) (s : Session World) :
    ∃ r : Round, r.sending = ⟨calldata, c.settings.options payment⟩ ∧ r.Fetches c ∧
      (c.perform target function iteration (.call calldata payment) s).1 = r.invocation ∧
      s.Served c.environment target
        (c.perform target function iteration (.call calldata payment) s).2 r.events := by
  rcases hinvoke : s.invoke c.environment target calldata (c.settings.options payment) with
    ⟨answer, s₁⟩
  have hsent := Session.served_of_invoke hinvoke
  simp only [perform, hinvoke]
  rcases answer with f | _ | receipt
  · have hsample : Answer.sample? (.error f) = none := rfl
    exact ⟨.plain _ (.error f), rfl, Round.fetches_plain c _ hsample, rfl, hsent.noted rfl rfl⟩
  · have hsample : Answer.sample? (.ok none) = none := rfl
    exact ⟨.plain _ (.ok none), rfl, Round.fetches_plain c _ hsample, rfl, hsent.noted rfl rfl⟩
  by_cases hcost : receipt.cost = 0
  · have hsample : Answer.sample? (.ok (some receipt)) = none := if_pos hcost
    obtain ⟨hinvocation, hserved⟩ :=
      c.sampleOf_of_cost_eq_zero target hcost function iteration s₁
    refine ⟨.plain _ (.ok (some receipt)), rfl, Round.fetches_plain c _ hsample, ?_,
      hsent.append hserved⟩
    rw [hinvocation, Round.invocation, Round.plain, hsample]
    rfl
  · have hsample : Answer.sample? (.ok (some receipt)) =
        some ⟨receipt.cost, receipt.reverted⟩ := if_neg hcost
    obtain ⟨s₂, events, hfetched, hinvocation, hserved⟩ :=
      c.sampleOf_of_cost_ne_zero target hcost function iteration s₁
    refine ⟨⟨_, .ok (some receipt), events, hfetched.quiet⟩, rfl, ⟨?_, ?_⟩, ?_,
      hsent.append hserved⟩
    · intro hnone
      exact absurd (hsample.symm.trans hnone) (Option.some_ne_none _)
    · intro _ hanswer _
      cases hanswer
      exact ⟨s₂, hfetched⟩
    · rw [hinvocation, Round.invocation, hsample]
      rfl

end Campaign

end GasLens
