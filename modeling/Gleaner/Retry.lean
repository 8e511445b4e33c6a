import Gleaner.Page

/-!
# Trying again

A policy for work that may fail for a while: how often it is tried, which faults are worth
another try, and how long the pauses grow. A fault may itself say when to try again; no hint
makes a pause longer than the policy allows.
-/

set_option autoImplicit false

namespace Gleaner

structure RetryPolicy where
  maxAttempts : Int := 3
  initialDelayMs : Number := .int 1000
  maxDelayMs : Number := .int 30000
  backoff : Number := .float 2
  /-- Whether a fault is worth another try. -/
  retryOn : Fault → Bool := fun _ => true

namespace RetryPolicy

/-- The pause after a fault: what the fault asks for, or else the present delay. -/
def waitMs (policy : RetryPolicy) (delay : Number) (fault : Fault) : Number :=
  match fault.retryAfter? with
  | some seconds =>
      if seconds.isZero then delay
      else Number.least (seconds * .int 1000) policy.maxDelayMs
  | none => delay

/-- The delay after this one: it grows, up to the most that is allowed. -/
def nextDelay (policy : RetryPolicy) (delay : Number) : Except Fault Number :=
  match delay.product? policy.backoff with
  | some grown => .ok (Number.least grown policy.maxDelayMs)
  | none => .error (.number .integerTooLarge)

/-- A span must be a number of milliseconds that can be told. -/
def spanOf (ms : Number) : Except Fault Span :=
  match ms.truncate? with
  | some _ => .ok (.milliseconds ms)
  | none => .error (.number (if ms.toFloat.isNaN then .notANumber else .infinite))

variable {σ α : Type}

/-- Tries so many times more after the first; `attempt` counts the tries. -/
def attempts (policy : RetryPolicy) (pause : Span → Action σ Unit)
    (onRetry : Nat → Fault → Action σ Unit) (task : Action σ α) :
    (more attempt : Nat) → Number → Action σ α
  | 0, _, _ => task
  | more + 1, attempt, delay =>
      tryCatch task fun fault => do
        if !policy.retryOn fault then throw fault
        let span ← liftM (spanOf (policy.waitMs delay fault))
        onRetry attempt fault
        pause span
        let next ← liftM (policy.nextDelay delay)
        attempts policy pause onRetry task more (attempt + 1) next

/-- Does a task by a policy; the last fault stands. -/
def run (policy : RetryPolicy) (pause : Span → Action σ Unit)
    (onRetry : Nat → Fault → Action σ Unit) (task : Action σ α) : Action σ α := do
  match policy.initialDelayMs.toFloat? with
  | none => throw (.number .integerTooLarge)
  | some delay =>
      match policy.maxAttempts.toNat with
      | 0 => throw (.foreign "TypeError" "exceptions must derive from BaseException")
      | more + 1 => attempts policy pause onRetry task more 1 (.float delay)

end RetryPolicy

end Gleaner
