/-
  GasLens/Proofs/Exchanges.lean
  =============================
  **Ends of exchanges** — what an exchange with a node can give and what it can fail with.

  A node is an arbitrary function of the request and its state, so the answers to a run are
  arbitrary too. An exchange is put together by the rules of `Ends`, one for each way to build it.
  The rule for a request asks how its failures are worded, and nothing of the node.
-/
import GasLens.Node.Client
import GasLens.Proofs.MarkedTexts

namespace GasLens

open GasLens.Text

namespace Node

variable {State α β : Type}

/-! ### Ends of an exchange -/

/-- What an exchange can give and what it can fail with, whatever it starts from. -/
structure Ends (x : Exchange State α) (gives : α → Prop) (fails : Fault → Prop) : Prop where
  value : ∀ {s a}, (x.run s).1 = .ok a → gives a
  fault : ∀ {s f}, (x.run s).1 = .error f → fails f

theorem run_bind (x : Exchange State α) (next : α → Exchange State β) (s : Connection State) :
    (x >>= next).run s =
      match x.run s with
      | (.ok a, s') => (next a).run s'
      | (.error f, s') => (.error f, s') := by
  change (ExceptT.bindCont next (x.run s).1 : StateM (Connection State) (Except Fault β))
    (x.run s).2 = _
  rcases x.run s with ⟨f | a, s'⟩
  · rfl
  · rfl

theorem run_lift (result : Except Fault α) (s : Connection State) :
    (liftM result : Exchange State α).run s = (result, s) := by
  cases result <;> rfl

namespace Ends

variable {gives gives' : α → Prop} {fails : Fault → Prop} {x : Exchange State α}

protected theorem mono (hx : Ends x gives fails) (h : ∀ a, gives a → gives' a) :
    Ends x gives' fails where
  value hrun := h _ (hx.value hrun)
  fault hrun := hx.fault hrun

protected theorem pure {a : α} (h : gives a) : Ends (pure a : Exchange State α) gives fails where
  value hrun := by
    cases hrun
    exact h
  fault hrun := by cases hrun

protected theorem throw {f : Fault} (h : fails f) :
    Ends (throw f : Exchange State α) gives fails where
  value hrun := by cases hrun
  fault hrun := by
    cases hrun
    exact h

protected theorem lift {result : Except Fault α} (hvalue : ∀ a, result = .ok a → gives a)
    (hfault : ∀ f, result = .error f → fails f) :
    Ends (liftM result : Exchange State α) gives fails where
  value hrun := by
    rw [run_lift] at hrun
    exact hvalue _ hrun
  fault hrun := by
    rw [run_lift] at hrun
    exact hfault _ hrun

protected theorem liftMapped {ε : Type} {wrap : ε → Fault} (result : Except ε α)
    (h : ∀ cause, fails (wrap cause)) :
    Ends (liftM (result.mapError wrap) : Exchange State α) (fun _ => True) fails := by
  refine .lift (fun _ _ => trivial) ?_
  intro f hfault
  cases result with
  | error cause =>
    cases hfault
    exact h cause
  | ok a => cases hfault

protected theorem bind {next : α → Exchange State β} {results : β → Prop}
    (hx : Ends x gives fails) (hnext : ∀ a, gives a → Ends (next a) results fails) :
    Ends (x >>= next) results fails where
  value {s b} hrun := by
    rw [run_bind] at hrun
    rcases hfirst : x.run s with ⟨f | a, s'⟩
    · rw [hfirst] at hrun
      cases hrun
    · rw [hfirst] at hrun
      exact (hnext a (hx.value (congrArg Prod.fst hfirst))).value hrun
  fault {s f} hrun := by
    rw [run_bind] at hrun
    rcases hfirst : x.run s with ⟨f₁ | a, s'⟩
    · rw [hfirst] at hrun
      cases hrun
      exact hx.fault (congrArg Prod.fst hfirst)
    · rw [hfirst] at hrun
      exact (hnext a (hx.value (congrArg Prod.fst hfirst))).fault hrun

/-- An exchange that goes on unless something is the case. -/
protected theorem guard {condition : Prop} [Decidable condition] {f : Fault} (hf : fails f)
    (hx : Ends x gives fails) :
    Ends (if condition then throw f >>= fun _ : PUnit => x else x) gives fails := by
  split
  · exact (Ends.throw hf : Ends _ (fun _ => True) fails).bind fun _ _ => hx
  · exact hx

end Ends

namespace Client

variable (c : Client State) {fails : Fault → Prop}

/-- What a request comes to by the reply to it. -/
def verdict (read : Json → Option α) (fault : RequestFault → Fault) : Reply → Except Fault α
  | .result answer =>
    match read answer with
    | some a => .ok a
    | none => .error (fault .unreadable)
  | .error code message data => .error (fault (.refused code message data))
  | .undelivered reason => .error (fault (.undelivered reason))

def asked (question : Request) (s : Connection State) : Connection State :=
  { s with state := (c.ask question s.state).2, sent := question :: s.sent }

theorem requests_asked (question : Request) (s : Connection State) :
    (c.asked question s).requests = s.requests ++ [question] := List.reverse_cons

section Requests

variable {read : Json → Option α} {fault : RequestFault → Fault}

theorem run_request (method : String) (params : Json) (s : Connection State) :
    (c.request method params read fault).run s =
      (verdict read fault (c.ask ⟨method, params⟩ s.state).1, c.asked ⟨method, params⟩ s) := by
  simp only [ExceptT.run, request, asked]
  cases (c.ask ⟨method, params⟩ s.state).1 with
  | result answer =>
    simp only [verdict]
    cases read answer <;> rfl
  | error => rfl
  | undelivered => rfl

theorem exists_read_of_verdict {reply : Reply} {a : α} (h : verdict read fault reply = .ok a) :
    ∃ answer, read answer = some a := by
  cases reply with
  | result answer =>
    simp only [verdict] at h
    split at h
    · rename_i hread
      cases h
      exact ⟨answer, hread⟩
    · cases h
  | error => cases h
  | undelivered => cases h

theorem fails_of_verdict (hfault : ∀ f, fails (fault f)) {reply : Reply} {f : Fault}
    (h : verdict read fault reply = .error f) : fails f := by
  cases reply with
  | result answer =>
    simp only [verdict] at h
    split at h
    · cases h
    · cases h
      exact hfault _
  | error =>
    cases h
    exact hfault _
  | undelivered =>
    cases h
    exact hfault _

theorem ends_request {method : String} {params : Json} (hfault : ∀ f, fails (fault f)) :
    Ends (c.request method params read fault) (fun a => ∃ answer, read answer = some a) fails where
  value hrun := by
    rw [run_request] at hrun
    exact exists_read_of_verdict hrun
  fault hrun := by
    rw [run_request] at hrun
    exact fails_of_verdict hfault hrun

end Requests

theorem ends_log (level : LogLevel) (message : String) :
    Ends (c.log level message) (fun _ => True) fails where
  value _ := trivial
  fault hrun := by cases hrun

theorem ends_send {fault : RequestFault → Fault} (hfault : ∀ f, fails (fault f))
    (t : Transaction) :
    Ends (c.send fault t) (fun bs => bs.length = transactionSize) fails := by
  unfold send
  refine (c.ends_request hfault).bind fun gasPrice _ => ?_
  refine (c.ends_request hfault).mono ?_
  rintro bs ⟨answer, hread⟩
  exact length_of_readBytes hread

theorem ends_awaitReceipt {fault : RequestFault → Fault} (hfault : ∀ f, fails (fault f))
    (transaction : List UInt8) (polls : Nat) :
    Ends (c.awaitReceipt fault transaction polls) (fun _ => True) fails := by
  induction polls with
  | zero => exact .pure trivial
  | succ polls ih =>
    rw [awaitReceipt]
    refine (c.ends_request hfault).bind fun receipt _ => ?_
    split
    · exact .pure trivial
    · exact ih

end Client

end Node

end GasLens
