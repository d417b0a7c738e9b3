import HermesRpt.Inference.Resilience
import HermesRpt.Lib.Run
import Mathlib.Algebra.Order.Ring.Rat
import Mathlib.Tactic.Linarith

/-!
# HermesRpt.Inference.Breaker

Calls through the circuit breaker, one after the other. The breaker has a state, a counter and an
opening time, written in three places; they are compared with the log of what was invoked.

* `Call`       : when a call reads the state, when its operation ends, and how.
* `afterCall`  : the breaker after a call. `serve_breakerCall`: it is what the coroutine leaves.
* `failures`   : the consecutive failures at the end of the log; `lastFailure` is the time of the last.
* `Tracks`     : the breaker and the log agree.
* `sequential_calls` : what a call does after any calls, said by the log.
-/

namespace HermesRpt

namespace Inference

open Async Code Machine

/-- How an operation ends. A cancellation is no `Exception`, so the breaker does not see it. -/
inductive Outcome where
  | success | failure | cancelled
  deriving DecidableEq, Repr

structure Call where
  start : ℚ
  finish : ℚ
  outcome : Outcome

namespace CircuitBreaker

/-- A call at this time invokes its operation. -/
def Admits (breaker : CircuitBreaker) (now : ℚ) : Prop := (breaker.observe now).state ≠ .OPEN

instance (breaker : CircuitBreaker) (now : ℚ) : Decidable (breaker.Admits now) :=
  inferInstanceAs (Decidable (_ ≠ _))

/-- What a call does when its operation has ended. -/
def settle (breaker : CircuitBreaker) (now : ℚ) : Outcome → CircuitBreaker
  | .success => breaker.onSuccess
  | .failure => breaker.onFailure now
  | .cancelled => breaker

def afterCall (breaker : CircuitBreaker) (c : Call) : CircuitBreaker :=
  if breaker.Admits c.start then (breaker.observe c.start).settle c.finish c.outcome
  else breaker.observe c.start

end CircuitBreaker

/-! ## The coroutine -/

section Coroutine

inductive BreakerEffect where
  | circuitState | operation | onSuccess | onFailure

@[reducible] def BreakerReply (α : Type) : BreakerEffect → Type
  | .circuitState => CircuitState
  | .operation => Except PyError α
  | .onSuccess | .onFailure => Unit

variable {α : Type}

def breakerEffect (e : BreakerEffect) : Code (BreakerReply α) PyError (BreakerReply α e) := ofEffect e

/-- `call` of an operation that is awaited as a whole. -/
def breakerCall (α : Type) : Code (BreakerReply α) PyError α :=
  callThroughBreaker (breakerEffect .circuitState) (breakerEffect .onSuccess)
    (breakerEffect .onFailure) (breakerEffect .operation >>= fun result => Code.ofExcept result)

/-- The effects of a call on the breaker. The operation returns a value, raises an exception, or is
cancelled, which raises in the coroutine. -/
def breakerHandler (c : Call) (value : α) (exc cancellation : PyError) :
    Handler (BreakerReply α) PyError CircuitBreaker
  | _, .circuitState, b => .ok ((b.observe c.start).state, b.observe c.start)
  | _, .operation, b =>
    match c.outcome with
    | .success => .ok (.ok value, b)
    | .failure => .ok (.error exc, b)
    | .cancelled => .error cancellation
  | _, .onSuccess, b => .ok ((), b.onSuccess)
  | _, .onFailure, b => .ok ((), b.onFailure c.finish)

/-- A call on its own leaves the breaker as `afterCall` says. -/
theorem serve_breakerCall (breaker : CircuitBreaker) (c : Call) (value : α)
    (exc cancellation : PyError) :
    (serve (breakerHandler c value exc cancellation) (fun _ => none) [] (breakerCall α)
      breaker).2.2 = breaker.afterCall c := by
  obtain ⟨start, finish, outcome⟩ := c
  by_cases h : breaker.Admits start
  · have hstate : (breaker.observe start).state ≠ .OPEN := h
    cases outcome <;>
      simp [breakerCall, callThroughBreaker, breakerEffect, serve, breakerHandler, hstate,
        CircuitBreaker.afterCall, h, CircuitBreaker.settle]
  · have hstate : (breaker.observe start).state = .OPEN := not_not.1 h
    simp [breakerCall, callThroughBreaker, breakerEffect, serve, breakerHandler, hstate,
      CircuitBreaker.afterCall, h]

end Coroutine

/-! ## The log -/

/-- What was invoked: how each operation ended, and when. The latest is first. -/
abbrev Log := List (Outcome × ℚ)

/-- The consecutive failures since the last success, or since the start. -/
def failures : Log → Nat
  | [] => 0
  | (.success, _) :: _ => 0
  | (.failure, _) :: log => failures log + 1
  | (.cancelled, _) :: log => failures log

def lastFailure : Log → Option ℚ
  | [] => none
  | (.failure, t) :: _ => some t
  | (.success, _) :: log | (.cancelled, _) :: log => lastFailure log

theorem lastFailure_of_failures {log : Log} (h : 0 < failures log) :
    ∃ t, lastFailure log = some t := by
  induction log with
  | nil => simp [failures] at h
  | cons entry log ih =>
    obtain ⟨outcome, t⟩ := entry
    cases outcome with
    | success => simp [failures] at h
    | failure => exact ⟨t, rfl⟩
    | cancelled => exact ih h

structure Session where
  breaker : CircuitBreaker
  log : Log

namespace Session

def fresh (failureThreshold : Nat) (resetTimeoutSeconds : ℚ) : Session :=
  ⟨{ failureThreshold, resetTimeoutSeconds }, []⟩

def call (s : Session) (c : Call) : Session where
  breaker := s.breaker.afterCall c
  log := if s.breaker.Admits c.start then (c.outcome, c.finish) :: s.log else s.log

end Session

/-- The calls do not overlap, and the clock does not go back. -/
def Clocked : ℚ → List Call → Prop
  | _, [] => True
  | now, c :: cs => now ≤ c.start ∧ c.start ≤ c.finish ∧ Clocked c.finish cs

/-! ## The breaker and the log -/

/-- At a time: the counter is the log's, the circuit is closed below the threshold, and otherwise it
opened at the last failure. Half open, the timeout has passed. -/
structure Tracks (s : Session) (now : ℚ) : Prop where
  count : s.breaker.failureCount = failures s.log
  closed : s.breaker.state = .CLOSED ↔ failures s.log < s.breaker.failureThreshold
  openedAt : s.breaker.state ≠ .CLOSED → s.breaker.openedAt = lastFailure s.log
  halfOpen : s.breaker.state = .HALF_OPEN → s.breaker.Elapsed now

theorem CircuitBreaker.Elapsed.mono {breaker : CircuitBreaker} {now later : ℚ}
    (h : breaker.Elapsed now) (hle : now ≤ later) : breaker.Elapsed later := by
  obtain ⟨t, ht, hpassed⟩ := h
  exact ⟨t, ht, by linarith⟩

theorem CircuitBreaker.admits_iff {breaker : CircuitBreaker} {now : ℚ} :
    breaker.Admits now ↔ ¬Blocked breaker now := not_congr observe_eq_open

theorem tracks_fresh {failureThreshold : Nat} (h : 0 < failureThreshold)
    (resetTimeoutSeconds now : ℚ) :
    Tracks (Session.fresh failureThreshold resetTimeoutSeconds) now where
  count := rfl
  closed := by simpa [Session.fresh, failures] using h
  openedAt := fun hstate => absurd rfl hstate
  halfOpen := fun hstate => by cases hstate

section

variable {s : Session} {now later : ℚ}

/-- Reading the state property. -/
theorem Tracks.observe (h : Tracks s now) (hle : now ≤ later) :
    Tracks ⟨s.breaker.observe later, s.log⟩ later := by
  unfold CircuitBreaker.observe
  split
  · rename_i hopen
    have hclosed := h.closed
    simp only [hopen.1, reduceCtorEq, false_iff] at hclosed
    have hopenedAt := h.openedAt (by simp [hopen.1])
    exact ⟨h.count, by simpa using hclosed, fun _ => hopenedAt, fun _ => hopen.2⟩
  · exact ⟨h.count, h.closed, h.openedAt, fun hhalf => (h.halfOpen hhalf).mono hle⟩

/-- The end of an operation that was invoked. -/
theorem Tracks.settle (h : Tracks s now) (hle : now ≤ later) (hthreshold : 0 < s.breaker.failureThreshold)
    (outcome : Outcome) :
    Tracks ⟨s.breaker.settle later outcome, (outcome, later) :: s.log⟩ later := by
  cases outcome with
  | success =>
    constructor
    · rfl
    · simpa [CircuitBreaker.settle, CircuitBreaker.onSuccess, failures] using hthreshold
    · exact fun hne => absurd rfl hne
    · exact fun hhalf => by cases hhalf
  | failure =>
    have hcount := h.count
    by_cases hopens : s.breaker.failureThreshold ≤ s.breaker.failureCount + 1
    · have hbreaker : s.breaker.settle later .failure =
          { s.breaker with
            failureCount := s.breaker.failureCount + 1, state := .OPEN, openedAt := some later } :=
        if_pos hopens
      rw [hbreaker]
      constructor
      · simp [failures, hcount]
      · simp only [reduceCtorEq, failures, false_iff, not_lt]
        omega
      · exact fun _ => rfl
      · exact fun hhalf => by cases hhalf
    · have hbreaker : s.breaker.settle later .failure =
          { s.breaker with failureCount := s.breaker.failureCount + 1 } := if_neg hopens
      have hclosed : s.breaker.state = .CLOSED := h.closed.2 (by omega)
      rw [hbreaker]
      constructor
      · simp [failures, hcount]
      · simp only [hclosed, failures, true_iff]
        omega
      · exact fun hne => absurd hclosed hne
      · intro hhalf
        rw [hclosed] at hhalf
        cases hhalf
  | cancelled =>
    exact ⟨h.count, h.closed, h.openedAt, fun hhalf => (h.halfOpen hhalf).mono hle⟩

theorem observe_config (breaker : CircuitBreaker) (now : ℚ) :
    (breaker.observe now).failureThreshold = breaker.failureThreshold ∧
      (breaker.observe now).resetTimeoutSeconds = breaker.resetTimeoutSeconds := by
  unfold CircuitBreaker.observe
  split <;> exact ⟨rfl, rfl⟩

theorem settle_config (breaker : CircuitBreaker) (now : ℚ) (outcome : Outcome) :
    (breaker.settle now outcome).failureThreshold = breaker.failureThreshold ∧
      (breaker.settle now outcome).resetTimeoutSeconds = breaker.resetTimeoutSeconds := by
  cases outcome with
  | success => exact ⟨rfl, rfl⟩
  | failure =>
    simp only [CircuitBreaker.settle, CircuitBreaker.onFailure]
    split <;> exact ⟨rfl, rfl⟩
  | cancelled => exact ⟨rfl, rfl⟩

/-- A call does not change the threshold and the timeout. -/
theorem call_config (s : Session) (c : Call) :
    (s.call c).breaker.failureThreshold = s.breaker.failureThreshold ∧
      (s.call c).breaker.resetTimeoutSeconds = s.breaker.resetTimeoutSeconds := by
  have hobserve := observe_config s.breaker c.start
  have hsettle := settle_config (s.breaker.observe c.start) c.finish c.outcome
  simp only [Session.call, CircuitBreaker.afterCall]
  split
  · exact ⟨hsettle.1.trans hobserve.1, hsettle.2.trans hobserve.2⟩
  · exact hobserve

theorem Tracks.call (h : Tracks s now) (hthreshold : 0 < s.breaker.failureThreshold) {c : Call}
    (hstart : now ≤ c.start) (hfinish : c.start ≤ c.finish) : Tracks (s.call c) c.finish := by
  have hobserved := h.observe hstart
  have hconfig := (observe_config s.breaker c.start).1
  simp only [Session.call, CircuitBreaker.afterCall]
  by_cases hadmits : s.breaker.Admits c.start
  · simp only [hadmits, if_true]
    exact hobserved.settle hfinish (by rw [hconfig]; exact hthreshold) c.outcome
  · simp only [hadmits, if_false]
    exact ⟨hobserved.count, hobserved.closed, hobserved.openedAt, fun hhalf =>
      (hobserved.halfOpen hhalf).mono hfinish⟩

/-- The log says when a call is invoked. -/
theorem Tracks.admits_iff (h : Tracks s now) (hthreshold : 0 < s.breaker.failureThreshold)
    (hle : now ≤ later) : s.breaker.Admits later ↔ ¬(s.breaker.state ≠ .CLOSED ∧
      ∃ t ∈ lastFailure s.log, later - t < s.breaker.resetTimeoutSeconds) := by
  rw [CircuitBreaker.admits_iff, not_iff_not, Blocked]
  cases hstate : s.breaker.state with
  | CLOSED => simp
  | HALF_OPEN =>
    obtain ⟨t, ht, hpassed⟩ := h.halfOpen hstate
    have hopenedAt := h.openedAt (by simp [hstate])
    have ht' : lastFailure s.log = some t := hopenedAt ▸ ht
    simp only [reduceCtorEq, false_and, ne_eq, not_false_eq_true, true_and, ht', Option.mem_def,
      Option.some.injEq, exists_eq_left', false_iff, not_lt]
    linarith
  | OPEN =>
    have hopenedAt := h.openedAt (by simp [hstate])
    have hclosed := h.closed
    simp only [hstate, reduceCtorEq, false_iff] at hclosed
    obtain ⟨t, ht⟩ := @lastFailure_of_failures s.log (by omega)
    simp only [CircuitBreaker.Elapsed, hopenedAt, ht, Option.mem_def, Option.some.injEq,
      exists_eq_left', true_and, ne_eq, reduceCtorEq, not_false_eq_true, not_le]

/-! ## Calls one after the other -/

abbrev afterCalls (s : Session) (cs : List Call) : Session := run Session.call s cs

theorem afterCalls_config (s : Session) (cs : List Call) :
    (afterCalls s cs).breaker.failureThreshold = s.breaker.failureThreshold ∧
      (afterCalls s cs).breaker.resetTimeoutSeconds = s.breaker.resetTimeoutSeconds :=
  run_invariant (I := fun s' : Session =>
      s'.breaker.failureThreshold = s.breaker.failureThreshold ∧
        s'.breaker.resetTimeoutSeconds = s.breaker.resetTimeoutSeconds)
    (fun s' c h => by rw [(call_config s' c).1, (call_config s' c).2]; exact h) ⟨rfl, rfl⟩ cs

/-- The breaker and the log agree when the next call starts. -/
theorem afterCalls_tracks (h : Tracks s now) (hthreshold : 0 < s.breaker.failureThreshold)
    {pre : List Call} {c : Call} {post : List Call} (hclock : Clocked now (pre ++ c :: post)) :
    ∃ before ≤ c.start, Tracks (afterCalls s pre) before := by
  induction pre generalizing s now with
  | nil => exact ⟨now, hclock.1, h⟩
  | cons d pre ih =>
    obtain ⟨hstart, hfinish, hrest⟩ := hclock
    exact ih (h.call hthreshold hstart hfinish) (by rw [(call_config s d).1]; exact hthreshold) hrest

theorem Clocked.tail {pre post : List Call} {c : Call} (h : Clocked now (pre ++ c :: post)) :
    c.start ≤ c.finish ∧ Clocked c.finish post := by
  induction pre generalizing now with
  | nil => exact h.2
  | cons d pre ih => exact ih h.2.2

/-- A call starts after the time given, and after the calls before it. -/
theorem Clocked.le_start {pre post : List Call} {c : Call} (h : Clocked now (pre ++ c :: post)) :
    now ≤ c.start ∧ ∀ d ∈ pre, d.start ≤ c.start := by
  induction pre generalizing now with
  | nil => exact ⟨h.1, by simp⟩
  | cons e pre ih =>
    obtain ⟨hstart, hfinish, hrest⟩ := h
    obtain ⟨hle, hpre⟩ := ih hrest
    refine ⟨by linarith, fun d hd => ?_⟩
    rcases List.mem_cons.1 hd with rfl | hd
    · linarith
    · exact hpre d hd

/-- Until the timeout after a failure has passed, the open circuit refuses every call. -/
theorem afterCalls_blocked {t : ℚ} (hopen : s.breaker.state = .OPEN)
    (hopenedAt : s.breaker.openedAt = some t) {cs : List Call}
    (hearly : ∀ c ∈ cs, c.start - t < s.breaker.resetTimeoutSeconds) : afterCalls s cs = s := by
  induction cs with
  | nil => rfl
  | cons c cs ih =>
    have hblocked : Blocked s.breaker c.start := by
      refine ⟨hopen, ?_⟩
      rintro ⟨t', ht', hpassed⟩
      have hearly' := hearly c (by simp)
      simp only [hopenedAt, Option.mem_def, Option.some.injEq] at ht'
      subst ht'
      linarith
    have hsame : s.call c = s := by
      have hadmits : ¬s.breaker.Admits c.start := by
        simpa [CircuitBreaker.admits_iff] using hblocked
      have hobserve : s.breaker.observe c.start = s.breaker :=
        if_neg fun h => hblocked.2 h.2
      simp [Session.call, CircuitBreaker.afterCall, hadmits, hobserve]
    rw [afterCalls, run_cons, hsame]
    exact ih fun d hd => hearly d (by simp [hd])

/-- A call that fails while the circuit is not closed opens it for the whole timeout. -/
theorem refused_after_failure (h : Tracks s now) {c : Call} (hadmits : s.breaker.Admits c.start)
    (hstate : s.breaker.state ≠ .CLOSED) (hfailure : c.outcome = .failure) :
    (s.call c).breaker.state = .OPEN ∧ (s.call c).breaker.openedAt = some c.finish := by
  have hclosed := h.closed
  have hcount := h.count
  have hreached : s.breaker.failureThreshold ≤ s.breaker.failureCount + 1 := by
    simp only [hstate, false_iff] at hclosed
    omega
  have hobserve : (s.breaker.observe c.start).failureThreshold ≤
      (s.breaker.observe c.start).failureCount + 1 := by
    unfold CircuitBreaker.observe
    split <;> exact hreached
  simp only [Session.call, CircuitBreaker.afterCall, hadmits, if_true, hfailure,
    CircuitBreaker.settle, CircuitBreaker.onFailure, hobserve, and_self]

/-- A closed circuit invokes every operation. -/
theorem call_of_closed (hclosed : s.breaker.state = .CLOSED) (c : Call) :
    s.call c = ⟨s.breaker.settle c.finish c.outcome, (c.outcome, c.finish) :: s.log⟩ := by
  have hobserve : s.breaker.observe c.start = s.breaker := if_neg fun h => by simp [hclosed] at h
  have hadmits : s.breaker.Admits c.start := by
    simp [CircuitBreaker.Admits, hobserve, hclosed]
  simp [Session.call, CircuitBreaker.afterCall, hadmits, hobserve]

/-- The circuit opens at the failure that reaches the threshold. -/
theorem opens_iff (h : Tracks s now) (hclosed : s.breaker.state = .CLOSED)
    (hthreshold : 0 < s.breaker.failureThreshold) (c : Call) :
    (s.call c).breaker.state = .OPEN ↔ failures (s.call c).log = s.breaker.failureThreshold := by
  have hbelow := h.closed.1 hclosed
  have hcount := h.count
  rw [call_of_closed hclosed]
  cases c.outcome with
  | success =>
    simp only [CircuitBreaker.settle, CircuitBreaker.onSuccess, failures, reduceCtorEq, false_iff]
    omega
  | failure =>
    simp only [CircuitBreaker.settle, CircuitBreaker.onFailure, failures]
    split
    · simp only [true_iff]
      omega
    · simp only [hclosed, reduceCtorEq, false_iff]
      omega
  | cancelled =>
    simp only [CircuitBreaker.settle, hclosed, failures, reduceCtorEq, false_iff]
    omega

end

/-- After any calls `pre`, a call `c` is invoked unless the circuit is not closed and the timeout
after the last failure has not passed. The circuit is not closed just when the failures since the
last success have reached the threshold, and it opens at the failure that reaches it. A call that is
invoked while the circuit is not closed closes it, or opens it for another timeout. -/
theorem sequential_calls {failureThreshold : Nat} (hthreshold : 0 < failureThreshold)
    (resetTimeoutSeconds : ℚ) {start : ℚ} {pre post : List Call} {c : Call}
    (hclock : Clocked start (pre ++ c :: post)) :
    let s := afterCalls (Session.fresh failureThreshold resetTimeoutSeconds) pre
    let s' := s.call c
    (s.breaker.Admits c.start ↔ ¬(s.breaker.state ≠ .CLOSED ∧
      ∃ t ∈ lastFailure s.log, c.start - t < resetTimeoutSeconds)) ∧
    (s.breaker.state ≠ .CLOSED ↔ failureThreshold ≤ failures s.log) ∧
    (s.breaker.state = .CLOSED →
      (s'.breaker.state = .OPEN ↔ failures s'.log = failureThreshold)) ∧
    (s.breaker.state ≠ .CLOSED → s.breaker.Admits c.start →
      (c.outcome = .success → s'.breaker.state = .CLOSED) ∧
      (c.outcome = .failure → s'.breaker.state = .OPEN ∧
        ∀ mid d rest, post = mid ++ d :: rest → d.start - c.finish < resetTimeoutSeconds →
          ¬(afterCalls s' mid).breaker.Admits d.start)) := by
  intro s s'
  obtain ⟨hcfg, hcfg'⟩ := afterCalls_config (Session.fresh failureThreshold resetTimeoutSeconds) pre
  have hlimit : s.breaker.failureThreshold = failureThreshold := hcfg
  have htimeout : s.breaker.resetTimeoutSeconds = resetTimeoutSeconds := hcfg'
  have hpos : 0 < s.breaker.failureThreshold := by rw [hlimit]; exact hthreshold
  obtain ⟨before, hbefore, htracks⟩ :=
    afterCalls_tracks (tracks_fresh hthreshold resetTimeoutSeconds start) hthreshold hclock
  obtain ⟨hfinish, hpost⟩ := hclock.tail
  have htracks' : Tracks s' c.finish := htracks.call hpos hbefore hfinish
  refine ⟨?_, ?_, ?_, ?_⟩
  · rw [htracks.admits_iff hpos hbefore, htimeout]
  · rw [ne_eq, htracks.closed, hlimit, not_lt]
  · intro hclosed
    rw [opens_iff htracks hclosed hpos c, hlimit]
  · intro hstate hadmits
    constructor
    · intro hsuccess
      simp only [s', Session.call, CircuitBreaker.afterCall, hadmits, if_true, hsuccess,
        CircuitBreaker.settle, CircuitBreaker.onSuccess]
    · intro hfailure
      obtain ⟨hopen, hopenedAt⟩ := refused_after_failure htracks hadmits hstate hfailure
      refine ⟨hopen, fun mid d rest hmid hearly => ?_⟩
      subst hmid
      have hconfig : s'.breaker.resetTimeoutSeconds = resetTimeoutSeconds := by
        rw [(call_config s c).2, htimeout]
      have hearly' : ∀ e ∈ mid ++ [d], e.start - c.finish < s'.breaker.resetTimeoutSeconds := by
        intro e he
        rw [hconfig]
        rcases List.mem_append.1 he with he | he
        · have := hpost.le_start.2 e he
          linarith
        · rw [List.mem_singleton.1 he]
          exact hearly
      have hsame : afterCalls s' mid = s' :=
        afterCalls_blocked hopen hopenedAt fun e he => hearly' e (by simp [he])
      rw [hsame, CircuitBreaker.admits_iff, not_not]
      refine ⟨hopen, ?_⟩
      rintro ⟨t, ht, hpassed⟩
      rw [hopenedAt, Option.mem_def, Option.some.injEq] at ht
      subst ht
      have := hearly' d (by simp)
      linarith

namespace Sample

def outage : List Call := [⟨0, 1, .failure⟩, ⟨2, 3, .failure⟩]

def failedTrial : Call := ⟨40, 41, .failure⟩

theorem outage_sequential :
    (afterCalls (Session.fresh 2 30) outage).breaker.Admits 40 ∧
      ((afterCalls (Session.fresh 2 30) outage).call failedTrial).breaker.state = .OPEN ∧
      ¬((afterCalls (Session.fresh 2 30) outage).call failedTrial).breaker.Admits 70 := by
  have hclock : Clocked 0 (outage ++ failedTrial :: [⟨70, 71, .success⟩]) := by
    simp only [outage, failedTrial, List.cons_append, List.nil_append, Clocked]
    norm_num
  have htwo : 0 < 2 := by omega
  obtain ⟨-, hopen, -, hnext⟩ := sequential_calls htwo 30 hclock
  have hstate := hopen.2 (by decide +kernel)
  have hinvoked : (afterCalls (Session.fresh 2 30) outage).breaker.Admits 40 := by decide +kernel
  obtain ⟨hreopened, hrefused⟩ := (hnext hstate hinvoked).2 rfl
  refine ⟨hinvoked, hreopened, ?_⟩
  exact hrefused [] ⟨70, 71, .success⟩ [] rfl (by norm_num [failedTrial])

end Sample

end Inference

end HermesRpt
