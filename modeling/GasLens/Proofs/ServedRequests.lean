/-
  GasLens/Proofs/ServedRequests.lean
  ==================================
  **The record and the environment** — what a session records was asked of the environment, and
  each answer in it is the one that the environment gave.

  `Environment.Serves` reads a record as what happened to a world: each request is put to the
  world that the one before it has left, and gets its answer there. A pause asks nothing and
  changes nothing. What a session does behind a deployment is said by `Session.Served`, for one
  operation (`served_of_invoke`, `served_of_trace`, `served_wait`) and, as records are appended,
  for all operations in a row. So a campaign that left out a request, made it twice, or wrote down
  another answer than it was given would have no record that is served.
-/
import GasLens.Campaign.Environment

namespace GasLens

variable {World : Type}

/-- A record is what an environment was asked about a deployed contract, with its answers, while
its world went from one state to another. -/
inductive Environment.Serves (e : Environment World) (target : Deployment) :
    World → List Event → World → Prop where
  | rest (w : World) : Serves e target w [] w
  | waited {w w' : World} {es : List Event} (milliseconds : Nat) :
      Serves e target w es w' → Serves e target w (.waited milliseconds :: es) w'
  | invoked {w w₁ w' : World} {es : List Event} {calldata : List UInt8} {options : CallOptions}
      {answer : Except Fault (Option Receipt)} :
      e.invoke target calldata options w = (answer, w₁) → Serves e target w₁ es w' →
        Serves e target w (.invoked calldata options answer :: es) w'
  | traced {w w₁ w' : World} {es : List Event} {transaction : String}
      {answer : Except Fault Trace} :
      e.trace transaction w = (answer, w₁) → Serves e target w₁ es w' →
        Serves e target w (.traced transaction answer :: es) w'

section

variable {e : Environment World} {target : Deployment}

theorem Environment.Serves.append {w w₁ w₂ : World} {es fs : List Event}
    (h : e.Serves target w es w₁) (h' : e.Serves target w₁ fs w₂) :
    e.Serves target w (es ++ fs) w₂ := by
  induction h with
  | rest _ => exact h'
  | waited milliseconds _ ih => exact .waited milliseconds (ih h')
  | invoked hinvoke _ ih => exact .invoked hinvoke (ih h')
  | traced htrace _ ih => exact .traced htrace (ih h')

namespace Session

variable {s s' s₁ s₂ : Session World} {es fs : List Event}

@[simp] theorem events_log (l : Logger) (level : LogLevel) (message : String)
    (s : Session World) : (s.log l level message).events = s.events := rfl

@[simp] theorem events_wait (milliseconds : Nat) (s : Session World) :
    (s.wait milliseconds).events = s.events ++ [.waited milliseconds] := by
  simp [events, wait]

theorem events_of_deploy {contract : CompiledContract} {options : CallOptions}
    {answer : Except Fault Deployment} (h : s.deploy e contract options = (answer, s')) :
    s'.events = s.events ++ [.deployed contract.name options answer] := by
  cases h
  simp [events]

theorem events_of_trace {transaction : String} {answer : Except Fault Trace}
    (h : s.trace e transaction = (answer, s')) :
    s'.events = s.events ++ [.traced transaction answer] := by
  cases h
  simp [events]

/-- A session went on by the events of a record, and the environment served them. -/
structure Served (e : Environment World) (target : Deployment) (s s' : Session World)
    (es : List Event) : Prop where
  recorded : s'.events = s.events ++ es
  serves : e.Serves target s.world es s'.world

/-- An entry in the journal asks nothing. -/
theorem Served.of_same (hevents : s'.events = s.events) (hworld : s'.world = s.world) :
    s.Served e target s' [] where
  recorded := by rw [hevents, List.append_nil]
  serves := by
    rw [hworld]
    exact .rest s.world

theorem Served.append (h : s.Served e target s₁ es) (h' : s₁.Served e target s₂ fs) :
    s.Served e target s₂ (es ++ fs) where
  recorded := by rw [h'.recorded, h.recorded, List.append_assoc]
  serves := h.serves.append h'.serves

/-- What is noted in the journal at the end changes neither the record nor the world. -/
theorem Served.noted (h : s.Served e target s₁ es) (hevents : s₂.events = s₁.events)
    (hworld : s₂.world = s₁.world) : s.Served e target s₂ es := by
  have hall := h.append (.of_same hevents hworld)
  rwa [List.append_nil] at hall

theorem served_of_invoke {calldata : List UInt8} {options : CallOptions}
    {answer : Except Fault (Option Receipt)}
    (h : s.invoke e target calldata options = (answer, s')) :
    s.Served e target s' [.invoked calldata options answer] := by
  cases h
  exact ⟨by simp [events], .invoked rfl (.rest _)⟩

theorem served_of_trace {transaction : String} {answer : Except Fault Trace}
    (h : s.trace e transaction = (answer, s')) :
    s.Served e target s' [.traced transaction answer] := by
  refine ⟨events_of_trace h, ?_⟩
  cases h
  exact .traced rfl (.rest _)

theorem served_wait (milliseconds : Nat) (s : Session World) :
    s.Served e target (s.wait milliseconds) [.waited milliseconds] :=
  ⟨events_wait milliseconds s, .waited milliseconds (.rest _)⟩

end Session

end

end GasLens
