/-
  GasLens/Campaign/Retry.lean
  ===========================
  **Fetching traces** — a bounded number of attempts, with a pause before the first one and after
  every failed one but the last.

  Only failures that another attempt could mend are retried; a trace of the wrong shape stays
  wrong.
-/
import GasLens.Campaign.Environment

namespace GasLens

open GasLens.Text

/-- How often a trace is asked for, and the pauses in milliseconds. -/
structure RetryPolicy where
  maxAttempts : Nat
  /-- The pause before the first attempt. -/
  settleDelay : Nat
  /-- The pause after an attempt that found the transaction not yet mined. -/
  pendingDelay : Nat
  /-- The pause after any other failed attempt. -/
  retryDelay : Nat
  deriving DecidableEq, Repr

namespace RetryPolicy

/-- The policy that holds unless another is given. -/
def standard : RetryPolicy := ⟨3, 50, 500, 1000⟩

def immediate (maxAttempts : Nat) : RetryPolicy := ⟨maxAttempts, 0, 0, 0⟩

/-- The number of attempts, at least one. -/
def attempts (p : RetryPolicy) : Nat := max 1 p.maxAttempts

def delayAfter (p : RetryPolicy) : Fault → Nat
  | .traceNotMined _ => p.pendingDelay
  | _ => p.retryDelay

end RetryPolicy

namespace Session

variable {World : Type}

/-- The fault of a trace that could not be had in any attempt. -/
def exhausted (transaction : String) (attempts : Nat) (last : Fault) : Fault :=
  .traceUnavailable transaction
    ("failed after " ++ natText attempts ++ " attempts: " ++ last.message)

def failedAttempt (transaction : String) (attempt attempts : Nat) (f : Fault) : String :=
  "trace attempt " ++ natText attempt ++ "/" ++ natText attempts ++ " for " ++ transaction ++
    " failed: " ++ f.message

/-- An attempt to fetch a trace, with a number of further attempts left. -/
def attemptTrace (e : Environment World) (policy : RetryPolicy) (l : Logger)
    (transaction : String) : Nat → Session World → Except Fault Trace × Session World
  | left, s =>
    match s.trace e transaction with
    | (.ok t, s) => (.ok t, s)
    | (.error f, s) =>
      if !f.isRetryable then (.error f, s)
      else
        let attempts := policy.attempts
        let s := s.log l .debug (failedAttempt transaction (attempts - left) attempts f)
        match left with
        | 0 => (.error (exhausted transaction attempts f), s)
        | left + 1 => attemptTrace e policy l transaction left (s.wait (policy.delayAfter f))

/-- The trace of a transaction, within the attempts of a policy. -/
def fetchTrace (e : Environment World) (policy : RetryPolicy) (l : Logger)
    (transaction : String) (s : Session World) : Except Fault Trace × Session World :=
  attemptTrace e policy l transaction (policy.attempts - 1) (s.wait policy.settleDelay)

end Session

end GasLens
