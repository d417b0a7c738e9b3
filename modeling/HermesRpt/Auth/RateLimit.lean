import HermesRpt.Auth.Service
import HermesRpt.Lib.FixedWindow
import Mathlib.Algebra.Order.Ring.Rat

/-!
# HermesRpt.Auth.RateLimit

Runs of the rate limiter: calls of `check` with any keys, one after the other.

* `Call`, `serve`     : a call, and the limiter after it.
* `accepted`          : the calls that return.
* `counter_run`       : a key's window after a run is the one its own calls lead to.
* `accepted_of_key`   : so the accepted calls with a key are the admitted requests of one counter.
* `rate_limiter_bound` : how many calls are accepted.
-/

namespace HermesRpt

namespace Auth

namespace RateLimiter

open Keyed (Dict)
open Machine FixedWindow

/-- `check(key)`, at what `time.monotonic()` gives. -/
structure Call where
  key : String
  now : ℚ
  deriving DecidableEq

/-- The limiter after a call, whether it returned or raised. -/
def serve (limiter : RateLimiter) (call : Call) : RateLimiter := (limiter.check call.now call.key).2

def returns (limiter : RateLimiter) (call : Call) : Bool := (limiter.check call.now call.key).1

/-- `_windows[key]` -/
def counter (limiter : RateLimiter) (key : String) : ℚ × Nat :=
  (limiter.windows.get? key).getD (0, 0)

/-- The call finds its key's window over, and starts another one. -/
def Starts (limiter : RateLimiter) (call : Call) : Prop :=
  Opens limiter.windowSeconds (limiter.counter call.key) call.now

instance (limiter : RateLimiter) (call : Call) : Decidable (limiter.Starts call) :=
  inferInstanceAs (Decidable (Opens _ _ _))

/-- The calls that return, in the order they are made. -/
def accepted (limiter : RateLimiter) : List Call → List Call
  | [] => []
  | call :: calls =>
    if limiter.returns call then call :: accepted (limiter.serve call) calls
    else accepted (limiter.serve call) calls

variable {limiter : RateLimiter} {key : String} {call : Call} {calls : List Call}

theorem window_eq (limiter : RateLimiter) (now : ℚ) (key : String) :
    limiter.window now key = hit limiter.windowSeconds (limiter.counter key) now := rfl

@[simp] theorem serve_maxRequests : (limiter.serve call).maxRequests = limiter.maxRequests := rfl

@[simp] theorem serve_windowSeconds :
    (limiter.serve call).windowSeconds = limiter.windowSeconds := rfl

/-- A call counts in its own key's window only. -/
theorem counter_serve : (limiter.serve call).counter key =
    if key = call.key then hit limiter.windowSeconds (limiter.counter key) call.now
    else limiter.counter key := by
  have hget := limiter.windows.get?_set call.key key (limiter.window call.now call.key)
  by_cases h : key = call.key
  · subst h
    rw [if_pos rfl] at hget ⊢
    simp only [serve, check, counter, hget, Option.getD_some]
    exact window_eq limiter call.now call.key
  · rw [if_neg (by simpa [eq_comm] using h)] at hget
    rw [if_neg h]
    simp only [serve, check, counter, hget]

theorem returns_iff : limiter.returns call = true ↔
    (hit limiter.windowSeconds (limiter.counter call.key) call.now).2 ≤ limiter.maxRequests := by
  rw [← window_eq]
  exact decide_eq_true_iff

/-- A key's window after a run is the one that the calls with this key lead to. -/
theorem counter_run (limiter : RateLimiter) (key : String) (calls : List Call) :
    (run serve limiter calls).counter key = run (hit limiter.windowSeconds) (limiter.counter key)
      ((calls.filter (·.key = key)).map (·.now)) := by
  induction calls generalizing limiter with
  | nil => rfl
  | cons call calls ih =>
    rw [run_cons, ih, serve_windowSeconds, counter_serve]
    by_cases h : call.key = key
    · subst h
      simp
    · have hne : key ≠ call.key := fun he => h he.symm
      simp [h, hne]

@[simp] theorem run_maxRequests (limiter : RateLimiter) (calls : List Call) :
    (run serve limiter calls).maxRequests = limiter.maxRequests := by
  induction calls generalizing limiter with
  | nil => rfl
  | cons call calls ih => rw [run_cons, ih, serve_maxRequests]

@[simp] theorem run_windowSeconds (limiter : RateLimiter) (calls : List Call) :
    (run serve limiter calls).windowSeconds = limiter.windowSeconds := by
  induction calls generalizing limiter with
  | nil => rfl
  | cons call calls ih => rw [run_cons, ih, serve_windowSeconds]

/-- What a call does after two runs with the same calls of its key is the same. -/
theorem returns_run_congr {calls calls' : List Call} (limiter : RateLimiter) (call : Call)
    (h : calls.filter (·.key = call.key) = calls'.filter (·.key = call.key)) :
    (run serve limiter calls).returns call = (run serve limiter calls').returns call := by
  rw [Bool.eq_iff_iff, returns_iff, returns_iff, counter_run, counter_run, h]
  simp

/-- The accepted calls with a key are the admitted requests of its counter. -/
theorem accepted_of_key (limiter : RateLimiter) (key : String) (calls : List Call) :
    ((limiter.accepted calls).filter (·.key = key)).map (·.now) =
      admitted limiter.windowSeconds limiter.maxRequests (limiter.counter key)
        ((calls.filter (·.key = key)).map (·.now)) := by
  induction calls generalizing limiter with
  | nil => rfl
  | cons call calls ih =>
    have hrest := ih (limiter.serve call)
    rw [serve_windowSeconds, serve_maxRequests, counter_serve] at hrest
    by_cases h : call.key = key
    · subst h
      rw [if_pos rfl] at hrest
      rw [accepted, List.filter_cons_of_pos (by simp), List.map_cons, admitted]
      by_cases hreturns : limiter.returns call = true
      · rw [if_pos hreturns, if_pos (returns_iff.1 hreturns), List.filter_cons_of_pos (by simp),
          List.map_cons, hrest]
      · rw [if_neg hreturns, if_neg fun hle => hreturns (returns_iff.2 hle), hrest]
    · rw [if_neg fun he => h he.symm] at hrest
      rw [accepted, List.filter_cons_of_neg (by simpa using h), ← hrest]
      split
      · rw [List.filter_cons_of_neg (by simpa using h)]
      · rfl

/-- No call with the key starts a window, so none of its requests does. -/
theorem meets_of_key {limiter : RateLimiter} {key : String} {calls : List Call}
    (h : Meets serve (fun l c => c.key = key → ¬l.Starts c) limiter calls) :
    Meets (hit limiter.windowSeconds) (fun w now => ¬Opens limiter.windowSeconds w now)
      (limiter.counter key) ((calls.filter (·.key = key)).map (·.now)) := by
  induction calls generalizing limiter with
  | nil => trivial
  | cons call calls ih =>
    have hrest := ih h.2
    rw [serve_windowSeconds, counter_serve] at hrest
    by_cases hk : call.key = key
    · subst hk
      rw [if_pos rfl] at hrest
      rw [List.filter_cons_of_pos (by simp), List.map_cons]
      exact ⟨h.1 rfl, hrest⟩
    · rw [if_neg fun he => hk he.symm] at hrest
      rwa [List.filter_cons_of_neg (by simpa using hk)]

/-! ## The bound -/

/-- From one start of a window to the next: the first call may start one, and no later call with its
key does. -/
theorem accepted_of_window {first : Call} {rest : List Call}
    (h : Meets serve (fun l c => c.key = first.key → ¬l.Starts c) (limiter.serve first) rest) :
    ((limiter.accepted (first :: rest)).filter (·.key = first.key)).length ≤
      limiter.maxRequests := by
  have hmeets := meets_of_key h
  rw [serve_windowSeconds, counter_serve, if_pos rfl] at hmeets
  rw [← List.length_map (f := (·.now)), accepted_of_key, List.filter_cons_of_pos (by simp),
    List.map_cons]
  exact admitted_of_window hmeets

theorem accepted_of_interval {a b : ℚ} (hwindow : 0 < limiter.windowSeconds)
    (hab : b - a ≤ limiter.windowSeconds) (hclock : calls.Pairwise (·.now ≤ ·.now)) :
    ((limiter.accepted calls).filter fun c => c.key = key ∧ a ≤ c.now ∧ c.now ≤ b).length ≤
      2 * limiter.maxRequests := by
  have hsorted : ((calls.filter (·.key = key)).map (·.now)).Pairwise (· ≤ ·) :=
    List.pairwise_map.2 (hclock.filter _)
  have hinterval : admittedIn a b limiter.windowSeconds limiter.maxRequests (limiter.counter key) _ ≤
      _ := admitted_of_interval hwindow hab hsorted
  rw [admittedIn, ← accepted_of_key, List.filter_map, List.length_map, List.filter_filter]
    at hinterval
  refine le_of_eq_of_le (congrArg List.length (List.filter_congr fun c _ => ?_)) hinterval
  simp [Bool.and_comm]

/-- A call that finds its window over is the first one of the next window. -/
theorem returns_of_starts (hmax : 0 < limiter.maxRequests) (h : limiter.Starts call) :
    limiter.returns call = true := by
  rw [returns_iff, hit_of_opens h]
  exact hmax

/-- Of the calls with a key, at most the limit is accepted between two starts of its windows, and at
most twice the limit in an interval no longer than a window. What a call does depends only on the
calls with its own key before it, and it is accepted when it finds its key's window over. -/
theorem rate_limiter_bound (limiter : RateLimiter) (calls : List Call)
    (hmax : 0 < limiter.maxRequests) (hwindow : 0 < limiter.windowSeconds)
    (hclock : calls.Pairwise (·.now ≤ ·.now)) :
    (∀ before first rest later, calls = before ++ first :: rest ++ later →
      Meets serve (fun l c => c.key = first.key → ¬l.Starts c)
        (run serve limiter (before ++ [first])) rest →
      (((run serve limiter before).accepted (first :: rest)).filter (·.key = first.key)).length ≤
        limiter.maxRequests) ∧
    (∀ key a b, b - a ≤ limiter.windowSeconds →
      ((limiter.accepted calls).filter fun c => c.key = key ∧ a ≤ c.now ∧ c.now ≤ b).length ≤
        2 * limiter.maxRequests) ∧
    (∀ before before' call, before.filter (·.key = call.key) = before'.filter (·.key = call.key) →
      (run serve limiter before).returns call = (run serve limiter before').returns call) ∧
    ∀ before call later, calls = before ++ call :: later → (run serve limiter before).Starts call →
      (run serve limiter before).returns call = true := by
  refine ⟨?_, ?_, ?_, ?_⟩
  · intro before first rest later _ hrest
    rw [run_append, run_cons, run_nil] at hrest
    have hlen := accepted_of_window hrest
    rwa [run_maxRequests] at hlen
  · intro key a b hab
    exact accepted_of_interval hwindow hab hclock
  · intro before before' call hcalls
    exact returns_run_congr limiter call hcalls
  · intro before call later _ hstarts
    refine returns_of_starts ?_ hstarts
    rw [run_maxRequests]
    exact hmax

/-- Two calls at the end of the window that starts at zero, and two that start the next one. -/
def burst : List Call :=
  [⟨"ip:a", 59⟩, ⟨"ip:a", 59⟩, ⟨"ip:b", 59⟩, ⟨"ip:a", 59⟩, ⟨"ip:a", 60⟩, ⟨"ip:a", 60⟩]

theorem rate_limiter_bound_burst :
    ((accepted { maxRequests := 2, windowSeconds := 60 } burst).filter fun c =>
      c.key = "ip:a" ∧ 59 ≤ c.now ∧ c.now ≤ 60).length ≤ 2 * 2 ∧
    (run serve { maxRequests := 2, windowSeconds := 60 } (burst.take 4)).returns ⟨"ip:a", 60⟩ =
      true := by
  have hbound := rate_limiter_bound { maxRequests := 2, windowSeconds := 60 } burst (by decide)
    (by decide +kernel) (by decide +kernel)
  exact ⟨hbound.2.1 "ip:a" 59 60 (by decide +kernel),
    hbound.2.2.2 (burst.take 4) ⟨"ip:a", 60⟩ [⟨"ip:a", 60⟩] rfl (by decide +kernel)⟩

end RateLimiter

end Auth

end HermesRpt
