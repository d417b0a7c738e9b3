import HermesRpt.Common.Python
import HermesRpt.Lib.Async

/-!
# HermesRpt.Inference.Resilience

Retries and the circuit breaker around an operation that may fail. The operation is any code with
effects; `sleep` and the breaker's own state are effects too.

* `retryWithBackoff`    : the operation again, after a delay that grows, up to `max_attempts` times.
* `CircuitBreaker`      : the breaker; `observe` is its `state` property at a time.
* `Blocked`             : the circuit is open and the reset timeout has not passed.
* `callThroughBreaker`  : `CircuitBreaker.call`: the operation, unless the circuit is open.
-/

namespace HermesRpt

namespace Inference

open Async Code

structure RetryConfig where
  maxAttempts : Nat := 3
  initialBackoffSeconds : ℚ := 1 / 10
  backoffMultiplier : ℚ := 2

inductive CircuitState where
  | CLOSED | OPEN | HALF_OPEN
  deriving DecidableEq, Repr

structure CircuitBreaker where
  failureThreshold : Nat := 5
  resetTimeoutSeconds : ℚ := 30
  state : CircuitState := .CLOSED
  failureCount : Nat := 0
  openedAt : Option ℚ := none

namespace CircuitBreaker

/-- The reset timeout has passed since the circuit opened. -/
def Elapsed (breaker : CircuitBreaker) (now : ℚ) : Prop :=
  ∃ openedAt ∈ breaker.openedAt, breaker.resetTimeoutSeconds ≤ now - openedAt

instance (breaker : CircuitBreaker) (now : ℚ) : Decidable (breaker.Elapsed now) :=
  inferInstanceAs (Decidable (∃ openedAt ∈ breaker.openedAt, _))

/-- The `state` property: an open circuit is half open once the reset timeout has passed. -/
def observe (breaker : CircuitBreaker) (now : ℚ) : CircuitBreaker :=
  if breaker.state = .OPEN ∧ breaker.Elapsed now then { breaker with state := .HALF_OPEN }
  else breaker

def onSuccess (breaker : CircuitBreaker) : CircuitBreaker :=
  { breaker with failureCount := 0, state := .CLOSED, openedAt := none }

def onFailure (breaker : CircuitBreaker) (now : ℚ) : CircuitBreaker :=
  if breaker.failureThreshold ≤ breaker.failureCount + 1 then
    { breaker with failureCount := breaker.failureCount + 1, state := .OPEN, openedAt := some now }
  else { breaker with failureCount := breaker.failureCount + 1 }

end CircuitBreaker

/-- The circuit is open and the reset timeout has not passed. -/
def Blocked (breaker : CircuitBreaker) (now : ℚ) : Prop :=
  breaker.state = .OPEN ∧ ¬breaker.Elapsed now

instance (breaker : CircuitBreaker) (now : ℚ) : Decidable (Blocked breaker now) :=
  inferInstanceAs (Decidable (_ ∧ _))

theorem observe_eq_open {breaker : CircuitBreaker} {now : ℚ} :
    (breaker.observe now).state = .OPEN ↔ Blocked breaker now := by
  unfold CircuitBreaker.observe Blocked
  split <;> simp_all

def circuitOpen : PyError :=
  ⟨.CircuitOpenError, "Circuit is open — failing fast without calling the dependency"⟩

section

variable {E : Type} {R : E → Type} {α : Type}

/-- `CircuitBreaker.call`. The first three arguments are the effects on the breaker's state. -/
def callThroughBreaker (circuitState : Code R PyError CircuitState)
    (onSuccess onFailure : Code R PyError Unit) (operation : Code R PyError α) :
    Code R PyError α := do
  let currentState ← circuitState
  if currentState = .OPEN then raise circuitOpen
  else operation.caught >>= fun
    | .ok result => onSuccess >>= fun _ => pure result
    | .error exc => onFailure >>= fun _ => raise exc

/-- `max_attempts` attempts and the delays between them. The last failure is raised; without a first
attempt there is none, and the assertion fails. -/
def attempts (sleep : ℚ → Code R PyError Unit) (backoffMultiplier : ℚ) (retryable : PyError → Bool)
    (operation : Code R PyError α) : Nat → ℚ → Code R PyError α
  | 0, _ => raise ⟨.AssertionError, ""⟩
  | n + 1, delay => operation.caught >>= fun
    | .ok result => pure result
    | .error exc =>
      if retryable exc = false ∨ n = 0 then raise exc
      else sleep delay >>= fun _ =>
        attempts sleep backoffMultiplier retryable operation n (delay * backoffMultiplier)

/-- `retry_with_backoff`; by default every exception is retried. -/
def retryWithBackoff (sleep : ℚ → Code R PyError Unit) (config : RetryConfig)
    (operation : Code R PyError α) (retryable : PyError → Bool := fun _ => true) :
    Code R PyError α :=
  attempts sleep config.backoffMultiplier retryable operation config.maxAttempts
    config.initialBackoffSeconds

end

end Inference

end HermesRpt
