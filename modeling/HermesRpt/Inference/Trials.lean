import HermesRpt.Inference.Breaker

/-!
# HermesRpt.Inference.Trials

Calls through the circuit breaker that overlap. A call reads the state and starts its operation in
one step, and settles when the operation ends, in another; in between it is suspended, and other
calls start and end.

* `Crowd`, `advance` : the breaker with the operations in flight, and the events.
* `OneTrial`   : from when the reset timeout has passed until a trial ends, at most one operation is
  in flight.
* `StaysOpen`  : the end of an operation older than the opening does not close the open circuit.
* `Orderly`    : the condition on an event under which both are kept.
* `oneTrial_iff` : a run keeps both just when all its events are orderly.

The breaker admits every caller once the timeout has passed, and a success closes the circuit
whatever its state.
-/

namespace HermesRpt

namespace Inference

open Machine

/-- The last three fields are the history: for each operation in flight how often the circuit had
opened when its call started, how often it has opened, and whether a trial has ended since then. -/
structure Crowd where
  now : ℚ
  breaker : CircuitBreaker
  inFlight : List Nat
  openings : Nat
  tried : Bool

inductive Event where
  | call
  /-- The `n`th operation in flight ends. -/
  | finish (n : Nat) (outcome : Outcome)
  | wait (time : ℚ)
  deriving DecidableEq

namespace Crowd

def fresh (failureThreshold : Nat) (resetTimeoutSeconds now : ℚ) : Crowd :=
  ⟨now, { failureThreshold, resetTimeoutSeconds }, [], 0, false⟩

/-- A failure now opens the circuit. -/
def Opens (s : Crowd) (outcome : Outcome) : Prop :=
  outcome = .failure ∧ s.breaker.failureThreshold ≤ s.breaker.failureCount + 1

instance (s : Crowd) (outcome : Outcome) : Decidable (s.Opens outcome) :=
  inferInstanceAs (Decidable (_ ∧ _))

def advance (s : Crowd) : Event → Crowd
  | .call =>
    { s with
      breaker := s.breaker.observe s.now
      inFlight := if s.breaker.Admits s.now then s.inFlight ++ [s.openings] else s.inFlight }
  | .finish n outcome =>
    match s.inFlight[n]? with
    | none => s
    | some since =>
      { s with
        breaker := s.breaker.settle s.now outcome
        inFlight := s.inFlight.eraseIdx n
        openings := if s.Opens outcome then s.openings + 1 else s.openings
        tried := !decide (s.Opens outcome) &&
          (s.tried || (since == s.openings && s.breaker.state == .HALF_OPEN)) }
  | .wait time => { s with now := max s.now time }

/-- A call whose operation ends before anything else happens is a call on its own. -/
theorem advance_alone (s : Crowd) (hidle : s.inFlight = []) {later : ℚ} (hle : s.now ≤ later)
    (outcome : Outcome) :
    (run advance s [.call, .wait later, .finish 0 outcome]).breaker =
      s.breaker.afterCall ⟨s.now, later, outcome⟩ := by
  have hmax : max s.now later = later := max_eq_right hle
  by_cases h : s.breaker.Admits s.now <;>
    simp [advance, hidle, h, hmax, CircuitBreaker.afterCall]

/-! ## What the comment on the half-open state says -/

/-- The reset timeout has passed since the circuit opened, and no trial has ended. -/
def Window (s : Crowd) : Prop :=
  s.breaker.state ≠ .CLOSED ∧ s.breaker.Elapsed s.now ∧ s.tried = false

instance (s : Crowd) : Decidable s.Window := inferInstanceAs (Decidable (_ ∧ _))

def OneTrial (s : Crowd) : Prop := s.Window → s.inFlight.length ≤ 1

def StaysOpen (s : Crowd) (e : Event) : Prop :=
  ∀ n outcome since, e = .finish n outcome → s.inFlight[n]? = some since → since < s.openings →
    Blocked s.breaker s.now → (s.advance e).breaker.state ≠ .CLOSED

/-- A caller in the window finds nothing in flight; the timeout passes with at most one operation in
flight; and no operation succeeds while the circuit is open. -/
def Orderly (s : Crowd) : Event → Prop
  | .call => s.Window → s.inFlight = []
  | .wait time => s.breaker.state = .OPEN → ¬s.breaker.Elapsed s.now →
      s.breaker.Elapsed (max s.now time) → s.inFlight.length ≤ 1
  | .finish n .success => n < s.inFlight.length → ¬Blocked s.breaker s.now
  | .finish n .failure => n < s.inFlight.length → s.Opens .failure →
      s.breaker.resetTimeoutSeconds ≤ 0 → s.inFlight.length ≤ 2
  | .finish _ .cancelled => True

/-! ## The history -/

structure Consistent (s : Crowd) : Prop where
  known : ∀ since ∈ s.inFlight, since ≤ s.openings
  opened : s.breaker.state ≠ .CLOSED → s.breaker.failureThreshold ≤ s.breaker.failureCount
  older : s.breaker.state = .OPEN → ∀ since ∈ s.inFlight, since < s.openings
  untried : s.breaker.state = .OPEN → s.tried = false
  halfOpen : s.breaker.state = .HALF_OPEN → s.breaker.Elapsed s.now

theorem consistent_fresh (failureThreshold : Nat) (resetTimeoutSeconds now : ℚ) :
    Consistent (fresh failureThreshold resetTimeoutSeconds now) := by
  constructor <;> simp [fresh]

variable {s : Crowd}

/-- A call finds the circuit open and stays out, or it is let in; an open circuit whose timeout has
passed becomes half open then. -/
theorem advance_call (s : Crowd) :
    (Blocked s.breaker s.now ∧ s.advance .call = s) ∨
    (s.breaker.state = .OPEN ∧ s.breaker.Elapsed s.now ∧ s.advance .call =
      { s with
        breaker := { s.breaker with state := .HALF_OPEN }, inFlight := s.inFlight ++ [s.openings] }) ∨
    (s.breaker.state ≠ .OPEN ∧ s.advance .call = { s with inFlight := s.inFlight ++ [s.openings] }) := by
  by_cases hopen : s.breaker.state = .OPEN
  · by_cases helapsed : s.breaker.Elapsed s.now
    · have hobserve : s.breaker.observe s.now = { s.breaker with state := .HALF_OPEN } :=
        if_pos ⟨hopen, helapsed⟩
      have hadmits : s.breaker.Admits s.now := by simp [CircuitBreaker.Admits, hobserve]
      exact .inr (.inl ⟨hopen, helapsed, by simp [advance, hadmits, hobserve]⟩)
    · have hobserve : s.breaker.observe s.now = s.breaker := if_neg fun h => helapsed h.2
      have hadmits : ¬s.breaker.Admits s.now := by simp [CircuitBreaker.Admits, hobserve, hopen]
      exact .inl ⟨⟨hopen, helapsed⟩, by simp [advance, hadmits, hobserve]⟩
  · have hobserve : s.breaker.observe s.now = s.breaker := if_neg fun h => hopen h.1
    have hadmits : s.breaker.Admits s.now := by simp [CircuitBreaker.Admits, hobserve, hopen]
    exact .inr (.inr ⟨hopen, by simp [advance, hadmits, hobserve]⟩)

/-- What the end of an operation does: it opens the circuit, closes it, or leaves its state. -/
theorem advance_finish {n since : Nat} (hn : s.inFlight[n]? = some since) (outcome : Outcome) :
    (s.Opens outcome ∧ s.advance (.finish n outcome) =
      { s with
        breaker := { s.breaker with
          failureCount := s.breaker.failureCount + 1, state := .OPEN, openedAt := some s.now }
        inFlight := s.inFlight.eraseIdx n, openings := s.openings + 1, tried := false }) ∨
    (outcome = .success ∧ ∃ tried, s.advance (.finish n outcome) =
      { s with breaker := s.breaker.onSuccess, inFlight := s.inFlight.eraseIdx n, tried }) ∨
    (outcome = .failure ∧ s.breaker.failureCount + 1 < s.breaker.failureThreshold ∧
      ∃ tried, s.advance (.finish n outcome) =
        { s with
          breaker := { s.breaker with failureCount := s.breaker.failureCount + 1 }
          inFlight := s.inFlight.eraseIdx n, tried }) ∨
    (outcome = .cancelled ∧ s.advance (.finish n outcome) =
      { s with
        inFlight := s.inFlight.eraseIdx n
        tried := s.tried || (since == s.openings && s.breaker.state == .HALF_OPEN) }) := by
  cases outcome with
  | success =>
    refine .inr (.inl ⟨rfl, s.tried || (since == s.openings && s.breaker.state == .HALF_OPEN), ?_⟩)
    simp [advance, hn, Opens, CircuitBreaker.settle]
  | failure =>
    by_cases hopens : s.breaker.failureThreshold ≤ s.breaker.failureCount + 1
    · refine .inl ⟨⟨rfl, hopens⟩, ?_⟩
      simp [advance, hn, Opens, CircuitBreaker.settle, CircuitBreaker.onFailure, hopens]
    · refine .inr (.inr (.inl ⟨rfl, not_le.1 hopens,
        s.tried || (since == s.openings && s.breaker.state == .HALF_OPEN), ?_⟩))
      simp [advance, hn, Opens, CircuitBreaker.settle, CircuitBreaker.onFailure, hopens]
  | cancelled =>
    refine .inr (.inr (.inr ⟨rfl, ?_⟩))
    simp [advance, hn, Opens, CircuitBreaker.settle]

/-- While failures are counted below the threshold the circuit is closed. -/
theorem Consistent.closed (h : s.Consistent)
    (hbelow : s.breaker.failureCount + 1 < s.breaker.failureThreshold) :
    s.breaker.state = .CLOSED := by
  by_contra hstate
  have hcount := h.opened hstate
  omega

theorem Consistent.advance (h : s.Consistent) (e : Event) : (s.advance e).Consistent := by
  cases e with
  | call =>
    have hmem : ∀ since ∈ s.inFlight ++ [s.openings], since ≤ s.openings := by
      intro since hs
      rcases List.mem_append.1 hs with hs | hs
      · exact h.known since hs
      · exact (List.mem_singleton.1 hs).le
    rcases advance_call s with ⟨-, heq⟩ | ⟨hopen, helapsed, heq⟩ | ⟨hopen, heq⟩
    · rw [heq]
      exact h
    · rw [heq]
      have hopened := h.opened (by simp [hopen])
      exact ⟨hmem, fun _ => hopened, fun h' => (by cases h'), fun h' => (by cases h'),
        fun _ => helapsed⟩
    · rw [heq]
      exact ⟨hmem, h.opened, fun h' => absurd h' hopen, fun h' => absurd h' hopen, h.halfOpen⟩
  | wait time =>
    exact ⟨h.known, h.opened, h.older, h.untried, fun hhalf =>
      (h.halfOpen hhalf).mono (le_max_left _ _)⟩
  | finish n outcome =>
    cases hn : s.inFlight[n]? with
    | none => simpa [Crowd.advance, hn] using h
    | some since =>
      have hsub : ∀ x ∈ s.inFlight.eraseIdx n, x ∈ s.inFlight := fun x hx =>
        (List.eraseIdx_sublist s.inFlight n).subset hx
      rcases advance_finish hn outcome with ⟨hopens, heq⟩ | ⟨-, tried, heq⟩ |
        ⟨-, hbelow, tried, heq⟩ | ⟨-, heq⟩
      · rw [heq]
        refine ⟨fun x hx => ?_, fun _ => hopens.2, fun _ x hx => ?_, fun _ => rfl, fun h' => ?_⟩
        · exact (h.known x (hsub x hx)).trans (Nat.le_succ _)
        · exact Nat.lt_succ_of_le (h.known x (hsub x hx))
        · cases h'
      · rw [heq]
        refine ⟨fun x hx => h.known x (hsub x hx), fun h' => absurd rfl h', fun h' => ?_,
          fun h' => ?_, fun h' => ?_⟩ <;> cases h'
      · have hclosed := h.closed hbelow
        rw [heq]
        refine ⟨fun x hx => h.known x (hsub x hx), fun h' => absurd hclosed h', fun h' => ?_,
          fun h' => ?_, fun h' => ?_⟩ <;> simp [hclosed] at h'
      · rw [heq]
        refine ⟨fun x hx => h.known x (hsub x hx), h.opened,
          fun h' x hx => h.older h' x (hsub x hx), fun h' => ?_, h.halfOpen⟩
        have hstate : s.breaker.state = .OPEN := h'
        simp [h.untried hstate, hstate]

/-! ## One event -/

theorem orderly_call (h : s.Consistent) (hone : s.OneTrial) :
    (s.advance .call).OneTrial ↔ s.Orderly .call := by
  rcases advance_call s with ⟨hblocked, heq⟩ | ⟨hopen, helapsed, heq⟩ | ⟨hopen, heq⟩
  · rw [heq]
    exact ⟨fun _ hwindow => absurd hwindow.2.1 hblocked.2, fun _ => hone⟩
  · have hwindow : s.Window := ⟨by simp [hopen], helapsed, h.untried hopen⟩
    have hwindow' : (s.advance .call).Window := by
      rw [heq]
      exact ⟨by simp, helapsed, h.untried hopen⟩
    simp only [OneTrial, Orderly, hwindow, hwindow', true_imp_iff]
    rw [heq, ← List.length_eq_zero_iff, List.length_append, List.length_singleton]
    omega
  · have hwindow : (s.advance .call).Window ↔ s.Window := by
      rw [heq]
      rfl
    simp only [OneTrial, Orderly, hwindow]
    rw [heq, ← List.length_eq_zero_iff, List.length_append, List.length_singleton]
    exact imp_congr_right fun _ => by omega

theorem orderly_wait (h : s.Consistent) (hone : s.OneTrial) (time : ℚ) :
    (s.advance (.wait time)).OneTrial ↔ s.Orderly (.wait time) := by
  constructor
  · intro hone' hopen _ helapsed
    exact hone' ⟨by simp [advance, hopen], helapsed, h.untried hopen⟩
  · intro horderly hwindow
    obtain ⟨hstate, helapsed, htried⟩ := hwindow
    by_cases hbefore : s.breaker.Elapsed s.now
    · exact hone ⟨hstate, hbefore, htried⟩
    · -- the circuit is open: half open, the timeout had passed
      cases hs : s.breaker.state with
      | CLOSED => exact absurd hs hstate
      | HALF_OPEN => exact absurd (h.halfOpen hs) hbefore
      | OPEN => exact horderly hs hbefore helapsed

/-- Without an operation of this number nothing happens. -/
theorem orderly_finish_none (hone : s.OneTrial) {n : Nat} (hn : s.inFlight[n]? = none)
    (outcome : Outcome) :
    (s.advance (.finish n outcome)).OneTrial ∧ s.StaysOpen (.finish n outcome) ↔
      s.Orderly (.finish n outcome) := by
  have hlen := List.getElem?_eq_none_iff.1 hn
  have heq : s.advance (.finish n outcome) = s := by simp [advance, hn]
  have hstays : s.StaysOpen (.finish n outcome) := by
    intro m out since he hm
    cases he
    simp [hn] at hm
  rw [heq]
  simp only [hone, hstays, and_self, true_iff]
  cases outcome with
  | success => exact fun hlt => by omega
  | failure => exact fun hlt => by omega
  | cancelled => trivial

/-- The circuit opens now, and a timeout of zero has passed at once. -/
theorem orderly_finish_opens {n since : Nat} {outcome : Outcome} (hn : s.inFlight[n]? = some since)
    (hopens : s.Opens outcome) (heq : s.advance (.finish n outcome) =
      { s with
        breaker := { s.breaker with
          failureCount := s.breaker.failureCount + 1, state := .OPEN, openedAt := some s.now }
        inFlight := s.inFlight.eraseIdx n, openings := s.openings + 1, tried := false }) :
    (s.advance (.finish n outcome)).OneTrial ∧ s.StaysOpen (.finish n outcome) ↔
      s.Orderly (.finish n outcome) := by
  obtain ⟨hlt, -⟩ := List.getElem?_eq_some_iff.1 hn
  have hlength : (s.inFlight.eraseIdx n).length = s.inFlight.length - 1 :=
    List.length_eraseIdx_of_lt hlt
  have hstays : s.StaysOpen (.finish n outcome) := by
    intro m out since he hm _ _
    rw [heq]
    simp
  have hwindow : (s.advance (.finish n outcome)).Window ↔
      s.breaker.resetTimeoutSeconds ≤ 0 := by
    rw [heq]
    simp [Window, CircuitBreaker.Elapsed]
  have hfailure := hopens.1
  subst hfailure
  simp only [hstays, and_true, OneTrial, hwindow, Orderly, hlt, hopens, true_imp_iff]
  rw [heq]
  refine imp_congr_right fun _ => ?_
  show (s.inFlight.eraseIdx n).length ≤ 1 ↔ _
  omega

/-- A success closes the circuit: it is orderly when the circuit was not open. -/
theorem orderly_finish_success (h : s.Consistent) {n since : Nat} {tried : Bool}
    (hn : s.inFlight[n]? = some since) (heq : s.advance (.finish n .success) =
      { s with breaker := s.breaker.onSuccess, inFlight := s.inFlight.eraseIdx n, tried }) :
    (s.advance (.finish n .success)).OneTrial ∧ s.StaysOpen (.finish n .success) ↔
      s.Orderly (.finish n .success) := by
  obtain ⟨hlt, -⟩ := List.getElem?_eq_some_iff.1 hn
  have hone' : (s.advance (.finish n .success)).OneTrial := by
    rw [heq]
    exact fun hwindow => absurd rfl hwindow.1
  simp only [hone', true_and, Orderly, hlt, true_imp_iff]
  constructor
  · intro hstays hblocked
    have hold := h.older hblocked.1 since (List.mem_of_getElem? hn)
    exact hstays n .success since rfl hn hold hblocked (by rw [heq]; rfl)
  · intro hopen m out since' he hm _ hblocked
    exact absurd hblocked hopen

/-- A failure that is only counted leaves the circuit closed. -/
theorem orderly_finish_counted (h : s.Consistent) {n : Nat} {tried : Bool}
    (hbelow : s.breaker.failureCount + 1 < s.breaker.failureThreshold)
    (heq : s.advance (.finish n .failure) =
      { s with
        breaker := { s.breaker with failureCount := s.breaker.failureCount + 1 }
        inFlight := s.inFlight.eraseIdx n, tried }) :
    (s.advance (.finish n .failure)).OneTrial ∧ s.StaysOpen (.finish n .failure) ↔
      s.Orderly (.finish n .failure) := by
  have hclosed := h.closed hbelow
  have hone' : (s.advance (.finish n .failure)).OneTrial := by
    rw [heq]
    exact fun hwindow => absurd hclosed hwindow.1
  have hstays : s.StaysOpen (.finish n .failure) := by
    intro m out since' he hm _ hblocked
    have hopen := hblocked.1
    rw [hclosed] at hopen
    cases hopen
  simp only [hone', hstays, and_self, true_iff]
  intro _ hopens
  have hcount := hopens.2
  omega

/-- A cancellation leaves the breaker as it is, with one operation less. -/
theorem orderly_finish_cancelled (hone : s.OneTrial) {n since : Nat}
    (hn : s.inFlight[n]? = some since) (heq : s.advance (.finish n .cancelled) =
      { s with
        inFlight := s.inFlight.eraseIdx n
        tried := s.tried || (since == s.openings && s.breaker.state == .HALF_OPEN) }) :
    (s.advance (.finish n .cancelled)).OneTrial ∧ s.StaysOpen (.finish n .cancelled) ↔
      s.Orderly (.finish n .cancelled) := by
  obtain ⟨hlt, -⟩ := List.getElem?_eq_some_iff.1 hn
  have hlength : (s.inFlight.eraseIdx n).length = s.inFlight.length - 1 :=
    List.length_eraseIdx_of_lt hlt
  have hone' : (s.advance (.finish n .cancelled)).OneTrial := by
    intro hwindow
    rw [heq] at hwindow ⊢
    have htried : s.tried = false := by
      have hboth := hwindow.2.2
      simp only [Bool.or_eq_false_iff] at hboth
      exact hboth.1
    have hfew := hone ⟨hwindow.1, hwindow.2.1, htried⟩
    show (s.inFlight.eraseIdx n).length ≤ 1
    omega
  have hstays : s.StaysOpen (.finish n .cancelled) := by
    intro m out since' he hm _ hblocked
    rw [heq]
    simp [hblocked.1]
  simp only [hone', hstays, and_self, true_iff]
  trivial

theorem orderly_finish (h : s.Consistent) (hone : s.OneTrial) (n : Nat) (outcome : Outcome) :
    (s.advance (.finish n outcome)).OneTrial ∧ s.StaysOpen (.finish n outcome) ↔
      s.Orderly (.finish n outcome) := by
  cases hn : s.inFlight[n]? with
  | none => exact orderly_finish_none hone hn outcome
  | some since =>
    rcases advance_finish hn outcome with ⟨hopens, heq⟩ | ⟨rfl, tried, heq⟩ |
      ⟨rfl, hbelow, tried, heq⟩ | ⟨rfl, heq⟩
    · exact orderly_finish_opens hn hopens heq
    · exact orderly_finish_success h hn heq
    · exact orderly_finish_counted h hbelow heq
    · exact orderly_finish_cancelled hone hn heq

/-- One event keeps both properties just when it is orderly. -/
theorem orderly_iff (h : s.Consistent) (hone : s.OneTrial) (e : Event) :
    (s.advance e).OneTrial ∧ s.StaysOpen e ↔ s.Orderly e := by
  cases e with
  | call =>
    have hstays : s.StaysOpen .call := fun _ _ _ he => by cases he
    simp only [hstays, and_true]
    exact orderly_call h hone
  | wait time =>
    have hstays : s.StaysOpen (.wait time) := fun _ _ _ he => by cases he
    simp only [hstays, and_true]
    exact orderly_wait h hone time
  | finish n outcome => exact orderly_finish h hone n outcome

/-! ## Runs -/

theorem meets_orderly (h : s.Consistent) (hone : s.OneTrial) (es : List Event) :
    Meets advance (fun s e => (s.advance e).OneTrial ∧ s.StaysOpen e) s es ↔
      Meets advance Orderly s es := by
  induction es generalizing s with
  | nil => exact Iff.rfl
  | cons e es ih =>
    have hiff := orderly_iff h hone e
    constructor
    · rintro ⟨hkept, hrest⟩
      exact ⟨hiff.1 hkept, (ih (h.advance e) hkept.1).1 hrest⟩
    · rintro ⟨horderly, hrest⟩
      have hkept := hiff.2 horderly
      exact ⟨hkept, (ih (h.advance e) hkept.1).2 hrest⟩

end Crowd

open Crowd

/-- In a run of calls that overlap, at most one operation is ever in flight from when the timeout has
passed until a trial ends, and no older operation closes the open circuit, just when every event of
the run is orderly. -/
theorem oneTrial_iff (failureThreshold : Nat) (resetTimeoutSeconds now : ℚ) (es : List Event) :
    (∀ pre e post, es = pre ++ e :: post →
      (run advance (fresh failureThreshold resetTimeoutSeconds now) (pre ++ [e])).OneTrial ∧
      (run advance (fresh failureThreshold resetTimeoutSeconds now) pre).StaysOpen e) ↔
    ∀ pre e post, es = pre ++ e :: post →
      (run advance (fresh failureThreshold resetTimeoutSeconds now) pre).Orderly e := by
  have hfresh := consistent_fresh failureThreshold resetTimeoutSeconds now
  have hone : (fresh failureThreshold resetTimeoutSeconds now).OneTrial := fun _ => by simp [fresh]
  rw [← @meets_iff _ _ advance Orderly, ← meets_orderly hfresh hone, meets_iff]
  simp only [run_append, run_cons, run_nil]

namespace Sample

/-- Two callers come when the timeout has passed. -/
def bothTry : List Event := [.call, .finish 0 .failure, .wait 30, .call, .call]

/-- Of two operations the first fails, which opens the circuit, and the second is in flight. -/
def oneLeft : List Event := [.call, .call, .finish 0 .failure]

theorem two_trials_and_late_close :
    ¬(run advance (fresh 1 30 0) bothTry).OneTrial ∧
      ¬(run advance (fresh 1 30 0) oneLeft).StaysOpen (.finish 0 .success) := by
  constructor
  · intro hone
    have hwindow : (run advance (fresh 1 30 0) bothTry).Window := by decide +kernel
    have htwo : (run advance (fresh 1 30 0) bothTry).inFlight.length = 2 := by decide +kernel
    have := hone hwindow
    omega
  · intro hstays
    have hsince : (run advance (fresh 1 30 0) oneLeft).inFlight[0]? = some 0 := by decide +kernel
    have hclosed : ((run advance (fresh 1 30 0) oneLeft).advance
        (.finish 0 .success)).breaker.state = .CLOSED := by decide +kernel
    exact hstays 0 .success 0 rfl hsince (by decide +kernel) (by decide +kernel) hclosed

end Sample

end Inference

end HermesRpt
