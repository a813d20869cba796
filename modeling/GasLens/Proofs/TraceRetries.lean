/-
  GasLens/Proofs/TraceRetries.lean
  ================================
  **Bounded retries** — which of the answers of an environment ends the fetching of a trace, and
  what is asked and waited for until then.

  An environment answers requests in a row with a sequence of answers (`Environment.answers`), and
  every sequence is that of some environment (`answers_ofAnswers`). After an answer that another
  request may mend there is a pause and another request, as long as attempts are left. So a fetch
  is described by the number of requests before its last one, in both ways it can end: with an
  answer that decides, or with its attempts used up. One induction on the attempts left is about
  both (`attemptTrace_spec`).
-/
import GasLens.Proofs.Rounds
import Mathlib.Logic.Function.Iterate
import Mathlib.Tactic.IntervalCases

namespace GasLens

open GasLens.Text

variable {World : Type}

/-! ### Answers in a row -/

namespace Environment

/-- The world that a request for a trace leaves. -/
def afterTrace (e : Environment World) (transaction : String) (w : World) : World :=
  (e.trace transaction w).2

/-- The answer to the request for a trace that follows `k` others. -/
def answers (e : Environment World) (transaction : String) (w : World) (k : Nat) :
    Except Fault Trace :=
  (e.trace transaction ((e.afterTrace transaction)^[k] w)).1

/-- An environment whose world is the sequence of answers that it will give. -/
def ofAnswers : Environment (Nat → Except Fault Trace) where
  deploy _ _ w := (.error (.deploy ""), w)
  invoke _ _ _ w := (.ok none, w)
  trace _ w := (w 0, fun k => w (k + 1))

theorem answers_ofAnswers (transaction : String) (a : Nat → Except Fault Trace) :
    ofAnswers.answers transaction a = a := by
  have hworld : ∀ k w, (ofAnswers.afterTrace transaction)^[k] w = fun j => w (j + k) := by
    intro k
    induction k with
    | zero => exact fun w => rfl
    | succ k ih =>
      intro w
      rw [Function.iterate_succ_apply, ih]
      funext j
      exact congrArg w (Nat.add_assoc j k 1)
  funext k
  rw [answers, hworld]
  exact congrArg a (Nat.zero_add k)

end Environment

/-- An answer that asking again may mend: the transaction is not mined yet, or there is no trace,
or the request failed. -/
inductive IsTransient : Except Fault Trace → Prop
  | notMined (transaction : String) : IsTransient (.error (.traceNotMined transaction))
  | unavailable (transaction reason : String) :
      IsTransient (.error (.traceUnavailable transaction reason))
  | request (reason : String) : IsTransient (.error (.rpc reason))

theorem isTransient_error_iff {f : Fault} :
    IsTransient (.error f) ↔ f.isRetryable = true := by
  constructor
  · intro h
    cases h <;> rfl
  · intro h
    cases f with
    | traceNotMined transaction => exact .notMined transaction
    | traceUnavailable transaction reason => exact .unavailable transaction reason
    | rpc reason => exact .request reason
    | _ => exact absurd h Bool.false_ne_true

theorem not_isTransient_ok (t : Trace) : ¬ IsTransient (.ok t) := nofun

/-- The pause between an answer and the request behind it. -/
def RetryPolicy.pauseAfter (policy : RetryPolicy) : Except Fault Trace → Nat
  | .error (.traceNotMined _) => policy.pendingDelay
  | _ => policy.retryDelay

theorem RetryPolicy.pauseAfter_error (policy : RetryPolicy) (f : Fault) :
    policy.pauseAfter (.error f) = policy.delayAfter f := by
  cases f <;> rfl

/-! ### Requests in a row -/

/-- What is recorded of requests up to the one that follows `k` others. -/
def requestEvents (policy : RetryPolicy) (transaction : String) (answer : Nat → Except Fault Trace)
    (k : Nat) : List Event :=
  ((List.range k).flatMap fun j =>
    [.traced transaction (answer j), .waited (policy.pauseAfter (answer j))]) ++
      [.traced transaction (answer k)]

section Requests

variable (policy : RetryPolicy) (transaction : String) (answer : Nat → Except Fault Trace)

theorem requestEvents_succ (k : Nat) :
    requestEvents policy transaction answer (k + 1) =
      .traced transaction (answer 0) :: .waited (policy.pauseAfter (answer 0)) ::
        requestEvents policy transaction (fun j => answer (j + 1)) k := by
  rw [requestEvents, List.range_succ_eq_map, List.flatMap_cons, List.flatMap_map]
  rfl

/-- The request that is recorded, and its answer. -/
def Event.request? : Event → Option (String × Except Fault Trace)
  | .traced transaction answer => some (transaction, answer)
  | _ => none

def Event.pause? : Event → Option Nat
  | .waited milliseconds => some milliseconds
  | _ => none

theorem filterMap_request?_requestEvents (k : Nat) :
    (requestEvents policy transaction answer k).filterMap Event.request? =
      (List.range (k + 1)).map fun j => (transaction, answer j) := by
  induction k generalizing answer with
  | zero => rfl
  | succ k ih =>
    rw [requestEvents_succ, List.range_succ_eq_map, List.map_cons, List.map_map]
    exact congrArg ((transaction, answer 0) :: ·) (ih fun j => answer (j + 1))

theorem filterMap_pause?_requestEvents (k : Nat) :
    (requestEvents policy transaction answer k).filterMap Event.pause? =
      (List.range k).map fun j => policy.pauseAfter (answer j) := by
  induction k generalizing answer with
  | zero => rfl
  | succ k ih =>
    rw [requestEvents_succ, List.range_succ_eq_map, List.map_cons, List.map_map]
    exact congrArg (policy.pauseAfter (answer 0) :: ·) (ih fun j => answer (j + 1))

end Requests

/-! ### Attempts -/

namespace Session

section Attempts

variable {e : Environment World} {policy : RetryPolicy} {l : Logger} {transaction : String}
  {left k : Nat} {s s' : Session World} {answer : Except Fault Trace}

theorem answers_zero_of_trace (h : s.trace e transaction = (answer, s')) :
    e.answers transaction s.world 0 = answer := by
  cases h
  rfl

theorem world_of_trace (h : s.trace e transaction = (answer, s')) :
    s'.world = e.afterTrace transaction s.world := by
  cases h
  rfl

/-- Attempts end with the request that follows `k` others, which has either an answer that decides
or no attempt behind it. -/
structure EndsAt (e : Environment World) (policy : RetryPolicy) (transaction : String) (k : Nat)
    (s : Session World) (result : Except Fault Trace × Session World) : Prop where
  events : result.2.events =
    s.events ++ requestEvents policy transaction (e.answers transaction s.world) k
  world : result.2.world = (e.afterTrace transaction)^[k + 1] s.world
  decided : ¬ IsTransient (e.answers transaction s.world k) →
    result.1 = e.answers transaction s.world k
  exhausted (f : Fault) : e.answers transaction s.world k = .error f → f.isRetryable = true →
    result.1 = .error (exhausted transaction policy.attempts f)

/-- A request that fails in a way another one may mend goes before the next ones. -/
theorem EndsAt.behind {s₁ : Session World} {result : Except Fault Trace × Session World}
    (hevents : s₁.events = s.events ++ [.traced transaction (e.answers transaction s.world 0),
      .waited (policy.pauseAfter (e.answers transaction s.world 0))])
    (hworld : s₁.world = e.afterTrace transaction s.world)
    (h : EndsAt e policy transaction k s₁ result) :
    EndsAt e policy transaction (k + 1) s result := by
  have hanswers : ∀ j, e.answers transaction s₁.world j =
      e.answers transaction s.world (j + 1) := by
    intro j
    rw [hworld]
    rfl
  have hlater : e.answers transaction s₁.world = fun j => e.answers transaction s.world (j + 1) :=
    funext hanswers
  constructor
  · rw [h.events, hevents, hlater, requestEvents_succ, List.append_assoc]
    rfl
  · rw [h.world, hworld]
    rfl
  · rw [← hanswers]
    exact h.decided
  · rw [← hanswers]
    exact h.exhausted

/-- An answer behind which there is no further request. -/
theorem EndsAt.first {s₁ : Session World} {verdict : Except Fault Trace}
    (htrace : s.trace e transaction = (answer, s')) (hevents : s₁.events = s'.events)
    (hworld : s₁.world = s'.world) (hdecided : ¬ IsTransient answer → verdict = answer)
    (hexhausted : ∀ f, answer = .error f → f.isRetryable = true →
      verdict = .error (Session.exhausted transaction policy.attempts f)) :
    EndsAt e policy transaction 0 s (verdict, s₁) := by
  have hanswer := answers_zero_of_trace htrace
  constructor
  · rw [hevents, events_of_trace htrace, ← hanswer]
    rfl
  · exact hworld.trans (world_of_trace htrace)
  · rw [hanswer]
    exact hdecided
  · rw [hanswer]
    exact hexhausted

/-- With so many further attempts left, a fetch ends where an answer decides first, or with the
last attempt. -/
theorem attemptTrace_spec (policy : RetryPolicy) (l : Logger) (s : Session World) :
    ∀ k ≤ left, (∀ j < k, IsTransient (e.answers transaction s.world j)) →
      (k = left ∨ ¬ IsTransient (e.answers transaction s.world k)) →
      EndsAt e policy transaction k s (attemptTrace e policy l transaction left s) := by
  fun_induction attemptTrace e policy l transaction left s with
  | case1 left s t s' htrace =>
    intro k _ htransient _
    -- nothing is asked behind a trace
    obtain rfl : k = 0 := by
      by_contra hne
      have hfirst := htransient 0 (Nat.pos_of_ne_zero hne)
      rw [answers_zero_of_trace htrace] at hfirst
      exact not_isTransient_ok t hfirst
    exact .first htrace rfl rfl (fun _ => rfl) (fun _ hf => (by cases hf))
  | case2 left s f s' htrace hdecides =>
    intro k _ htransient _
    have hfinal : f.isRetryable = false := by simpa using hdecides
    obtain rfl : k = 0 := by
      by_contra hne
      have hfirst := htransient 0 (Nat.pos_of_ne_zero hne)
      rw [answers_zero_of_trace htrace, isTransient_error_iff, hfinal] at hfirst
      exact Bool.false_ne_true hfirst
    refine .first htrace rfl rfl (fun _ => rfl) ?_
    intro g hg hmends
    cases hg
    rw [hfinal] at hmends
    exact absurd hmends Bool.false_ne_true
  | case3 s f s' htrace hmends attempts =>
    intro k hk _ _
    obtain rfl : k = 0 := Nat.eq_zero_of_le_zero hk
    have hanswer : IsTransient (.error f) := isTransient_error_iff.2 (by simpa using hmends)
    refine .first htrace rfl rfl (fun hdecides => absurd hanswer hdecides) ?_
    intro g hg _
    cases hg
    rfl
  | case4 s f s' htrace hmends attempts left s₁ ih =>
    intro k hk htransient hlast
    have hanswer := answers_zero_of_trace htrace
    have hworld : (s₁.wait (policy.delayAfter f)).world = e.afterTrace transaction s.world :=
      (world_of_trace htrace :)
    have hnext : ∀ j, e.answers transaction (s₁.wait (policy.delayAfter f)).world j =
        e.answers transaction s.world (j + 1) := by
      intro j
      rw [hworld]
      rfl
    cases k with
    | zero =>
      -- the first answer does not decide, and there are attempts left
      rcases hlast with hzero | hdecides
      · exact absurd hzero.symm (Nat.succ_ne_zero left)
      · rw [hanswer, isTransient_error_iff] at hdecides
        exact absurd hdecides (by simpa using hmends)
    | succ k =>
      refine .behind ?_ hworld (ih k (Nat.le_of_succ_le_succ hk) ?_ ?_)
      · rw [events_wait, events_log, events_of_trace htrace, hanswer, policy.pauseAfter_error,
          List.append_assoc]
        rfl
      · intro j hj
        rw [hnext]
        exact htransient (j + 1) (Nat.succ_lt_succ hj)
      · rw [hnext]
        exact hlast.imp_left Nat.succ.inj

end Attempts

end Session

/-! ### Fetches -/

/-- A fetch makes the request that follows `k` others its last one: what is recorded, and from it
what is asked, what is waited for, and what becomes of the world. -/
structure FetchesUpTo (e : Environment World) (policy : RetryPolicy) (transaction : String)
    (k : Nat) (s s' : Session World) : Prop where
  /-- The settling delay comes first. Every request but the last one is followed by a pause. -/
  events : s'.events = s.events ++ .waited policy.settleDelay ::
    requestEvents policy transaction (e.answers transaction s.world) k
  requests : s'.events.filterMap Event.request? = s.events.filterMap Event.request? ++
    (List.range (k + 1)).map fun j => (transaction, e.answers transaction s.world j)
  pauses : s'.events.filterMap Event.pause? = s.events.filterMap Event.pause? ++
    policy.settleDelay ::
      (List.range k).map fun j => policy.pauseAfter (e.answers transaction s.world j)
  world : s'.world = (e.afterTrace transaction)^[k + 1] s.world

section Fetches

variable {e : Environment World} {policy : RetryPolicy} {l : Logger} {transaction : String}
  {k : Nat} {s : Session World}

theorem Session.EndsAt.fetchesUpTo {result : Except Fault Trace × Session World}
    (h : EndsAt e policy transaction k (s.wait policy.settleDelay) result) :
    FetchesUpTo e policy transaction k s result.2 := by
  have hevents : result.2.events = s.events ++ .waited policy.settleDelay ::
      requestEvents policy transaction (e.answers transaction s.world) k := by
    rw [h.events, events_wait, List.append_assoc]
    rfl
  refine ⟨hevents, ?_, ?_, h.world⟩
  · rw [hevents, List.filterMap_append, List.filterMap_cons_none rfl,
      filterMap_request?_requestEvents]
  · rw [hevents, List.filterMap_append]
    have hpauses := filterMap_pause?_requestEvents policy transaction
      (e.answers transaction s.world) k
    exact congrArg (s.events.filterMap Event.pause? ++ policy.settleDelay :: ·) hpauses

end Fetches

/-- **Bounded retries.** There is at least one attempt. If the request that follows `k` others is
the first one with an answer that decides, and is within the attempts, it is the last one and its
answer is the result. If no answer within the attempts decides, all attempts are made, and the
result is that there is no trace, with the number of attempts and the wording of the last
failure. -/
theorem fetchTrace_within_attempts (e : Environment World) (policy : RetryPolicy) (l : Logger)
    (transaction : String) (s : Session World) :
    (∀ k < max 1 policy.maxAttempts,
      (∀ j < k, IsTransient (e.answers transaction s.world j)) →
      ¬ IsTransient (e.answers transaction s.world k) →
        (s.fetchTrace e policy l transaction).1 = e.answers transaction s.world k ∧
        FetchesUpTo e policy transaction k s (s.fetchTrace e policy l transaction).2) ∧
    ((∀ j < max 1 policy.maxAttempts, IsTransient (e.answers transaction s.world j)) →
      ∃ last, e.answers transaction s.world (max 1 policy.maxAttempts - 1) = .error last ∧
        (s.fetchTrace e policy l transaction).1 = .error (.traceUnavailable transaction
          ("failed after " ++ natText (max 1 policy.maxAttempts) ++ " attempts: " ++
            last.message)) ∧
        FetchesUpTo e policy transaction (max 1 policy.maxAttempts - 1) s
          (s.fetchTrace e policy l transaction).2) := by
  have hpos : 0 < max 1 policy.maxAttempts := Nat.lt_of_lt_of_le Nat.one_pos (Nat.le_max_left _ _)
  constructor
  · intro k hk htransient hdecides
    have hends := Session.attemptTrace_spec policy l (s.wait policy.settleDelay) k
      (Nat.le_pred_of_lt hk) htransient (Or.inr hdecides)
    exact ⟨hends.decided hdecides, hends.fetchesUpTo⟩
  · intro htransient
    have hlast := htransient _ (Nat.sub_lt hpos Nat.one_pos)
    have hends := Session.attemptTrace_spec policy l (s.wait policy.settleDelay)
      (max 1 policy.maxAttempts - 1) (Nat.le_refl _)
      (fun j hj => htransient j (Nat.lt_of_lt_of_le hj (Nat.sub_le _ _))) (Or.inl rfl)
    cases hanswer : e.answers transaction s.world (max 1 policy.maxAttempts - 1) with
    | ok t =>
      rw [hanswer] at hlast
      exact absurd hlast (not_isTransient_ok t)
    | error f =>
      rw [hanswer, isTransient_error_iff] at hlast
      exact ⟨f, rfl, hends.exhausted f hanswer hlast, hends.fetchesUpTo⟩

/-- A node that does not know the transaction at first, then cannot be reached. -/
def lateNode : Nat → Except Fault Trace
  | 0 => .error (.traceNotMined "0x01")
  | 1 => .error (.rpc "down")
  | _ => .ok .empty

/-- With three attempts the late node gives its trace. A node that cannot be reached does not, and
there is no pause behind the last request. -/
theorem fetchTrace_within_attempts_standard :
    (∃ s, Session.fetchTrace .ofAnswers .standard ⟨"fuzz", 0⟩ "0x01" (.start lateNode .empty) =
        (.ok .empty, s) ∧
      s.events = [.waited 50, .traced "0x01" (.error (.traceNotMined "0x01")), .waited 500,
        .traced "0x01" (.error (.rpc "down")), .waited 1000, .traced "0x01" (.ok .empty)]) ∧
    ∃ s, Session.fetchTrace .ofAnswers .standard ⟨"fuzz", 0⟩ "0x01"
        (.start (fun _ => .error (.rpc "down")) .empty) =
          (.error (.traceUnavailable "0x01" "failed after 3 attempts: RPC error: down"), s) ∧
      s.events = [.waited 50, .traced "0x01" (.error (.rpc "down")), .waited 1000,
        .traced "0x01" (.error (.rpc "down")), .waited 1000,
        .traced "0x01" (.error (.rpc "down"))] := by
  constructor
  · have htransient : ∀ j < 2, IsTransient (Environment.ofAnswers.answers "0x01" lateNode j) := by
      intro j hj
      rw [Environment.answers_ofAnswers]
      interval_cases j
      · exact .notMined "0x01"
      · exact .request "down"
    obtain ⟨hanswer, hfetches⟩ := (fetchTrace_within_attempts .ofAnswers .standard ⟨"fuzz", 0⟩
      "0x01" (.start lateNode .empty)).1 2 (by decide) htransient (not_isTransient_ok .empty)
    exact ⟨_, Prod.ext hanswer rfl, hfetches.events⟩
  · obtain ⟨last, hlast, hanswer, hfetches⟩ := (fetchTrace_within_attempts .ofAnswers .standard
      ⟨"fuzz", 0⟩ "0x01" (.start (fun _ => .error (.rpc "down")) .empty)).2
      (fun k _ => by rw [Environment.answers_ofAnswers]; exact .request "down")
    cases hlast
    have htext : "failed after " ++ natText 3 ++ " attempts: " ++ (Fault.rpc "down").message =
        "failed after 3 attempts: RPC error: down" := by decide +kernel
    refine ⟨_, Prod.ext (hanswer.trans ?_) rfl, hfetches.events⟩
    exact congrArg (fun reason => Except.error (Fault.traceUnavailable "0x01" reason)) htext

end GasLens
