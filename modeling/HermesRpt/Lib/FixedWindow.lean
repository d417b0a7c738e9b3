import HermesRpt.Lib.Run
import Mathlib.Algebra.Order.Group.Defs
import Mathlib.Algebra.Order.Group.Unbundled.Basic
import Mathlib.Data.List.Sort

/-!
# HermesRpt.Lib.FixedWindow

A counter of requests in windows of one length. A window starts at the request that finds the last
one over, so windows do not start at multiples of the length.

* `hit`      : the window with one more request.
* `Opens`    : the request finds the window over.
* `admitted` : the requests whose number in their window is within the limit.
* `admitted_of_window`   : at most the limit is admitted in one window.
* `admitted_of_interval` : at most twice the limit is admitted in an interval no longer than a window.
-/

namespace FixedWindow

open Machine

variable {τ : Type*} [AddCommGroup τ] [LinearOrder τ] (length : τ) (limit : ℕ)

/-- A request at this time finds the window over. -/
def Opens (w : τ × ℕ) (now : τ) : Prop := length ≤ now - w.1

instance (w : τ × ℕ) (now : τ) : Decidable (Opens length w now) :=
  inferInstanceAs (Decidable (_ ≤ _))

/-- The window's start and its number of requests, with one more. -/
def hit (w : τ × ℕ) (now : τ) : τ × ℕ :=
  if Opens length w now then (now, 1) else (w.1, w.2 + 1)

/-- The times of the requests that are within the limit. -/
def admitted (w : τ × ℕ) : List τ → List τ
  | [] => []
  | now :: times =>
    if (hit length w now).2 ≤ limit then now :: admitted (hit length w now) times
    else admitted (hit length w now) times

variable {length limit} {w : τ × ℕ} {now a b : τ} {times : List τ}

theorem hit_of_opens (h : Opens length w now) : hit length w now = (now, 1) := if_pos h

theorem hit_of_not_opens (h : ¬Opens length w now) : hit length w now = (w.1, w.2 + 1) := if_neg h

/-- A request is counted in its own window. -/
theorem hit_pos : 0 < (hit length w now).2 := by
  by_cases h : Opens length w now
  · rw [hit_of_opens h]
    exact Nat.one_pos
  · rw [hit_of_not_opens h]
    exact Nat.succ_pos _

/-- A request adds itself when it is within the limit. -/
theorem admitted_filter_cons (p : τ → Bool) :
    ((admitted length limit w (now :: times)).filter p).length ≤
      (if (hit length w now).2 ≤ limit then 1 else 0) +
        ((admitted length limit (hit length w now) times).filter p).length := by
  rw [admitted]
  by_cases hle : (hit length w now).2 ≤ limit
  · rw [if_pos hle, if_pos hle, List.filter_cons]
    cases p now <;> simp [Nat.add_comm]
  · rw [if_neg hle, if_neg hle]
    simp

theorem admitted_subset : ∀ t ∈ admitted length limit w times, t ∈ times := by
  induction times generalizing w with
  | nil => simp [admitted]
  | cons now times ih =>
    intro t ht
    rw [admitted] at ht
    split at ht
    · rcases List.mem_cons.1 ht with rfl | ht
      · exact List.mem_cons_self
      · exact List.mem_cons_of_mem _ (ih t ht)
    · exact List.mem_cons_of_mem _ (ih t ht)

/-! ## One window -/

/-- In a window that has counted some requests, only the rest of the limit is left. -/
theorem admitted_of_meets (h : Meets (hit length) (fun w now => ¬Opens length w now) w times) :
    (admitted length limit w times).length ≤ limit - w.2 := by
  induction times generalizing w with
  | nil => simp [admitted]
  | cons now times ih =>
    have hrest := ih h.2
    rw [admitted]
    rw [hit_of_not_opens h.1] at hrest ⊢
    split
    · rename_i hle
      simp only [List.length_cons] at *
      omega
    · simp only at *
      omega

/-- The requests from one window's start to the next one's. -/
theorem admitted_of_window
    (h : Meets (hit length) (fun w now => ¬Opens length w now) (hit length w now) times) :
    (admitted length limit w (now :: times)).length ≤ limit := by
  have hpos : 0 < (hit length w now).2 := hit_pos
  have hrest : (admitted length limit (hit length w now) times).length ≤
      limit - (hit length w now).2 := admitted_of_meets h
  rw [admitted]
  split
  · rename_i hle
    simp only [List.length_cons]
    omega
  · omega

/-! ## An interval -/

/-- The number of requests that are admitted in the interval. -/
def admittedIn (a b length : τ) (limit : ℕ) (w : τ × ℕ) (times : List τ) : ℕ :=
  ((admitted length limit w times).filter fun t => a ≤ t ∧ t ≤ b).length

theorem admittedIn_cons : admittedIn a b length limit w (now :: times) ≤
    (if (hit length w now).2 ≤ limit then 1 else 0) +
      admittedIn a b length limit (hit length w now) times := admitted_filter_cons _

/-- A request before the interval does not count. -/
theorem admittedIn_cons_of_lt (h : now < a) : admittedIn a b length limit w (now :: times) =
    admittedIn a b length limit (hit length w now) times := by
  have hout : ¬(a ≤ now ∧ now ≤ b) := fun hin => not_le.2 h hin.1
  rw [admittedIn, admitted]
  split <;> simp [admittedIn, hout]

/-- Nothing counts after the interval. -/
theorem admittedIn_eq_zero (h : ∀ t ∈ times, b < t) : admittedIn a b length limit w times = 0 := by
  rw [admittedIn, List.length_eq_zero_iff, List.filter_eq_nil_iff]
  intro t ht
  have hlt : b < t := h t (admitted_subset t ht)
  simp only [decide_eq_true_eq, not_and]
  exact fun _ => not_le.2 hlt

section

variable [IsOrderedAddMonoid τ]

/-- The window that counts a request is not over at its time. -/
theorem lt_hit (hlength : 0 < length) : now < (hit length w now).1 + length := by
  by_cases h : Opens length w now
  · rw [hit_of_opens h]
    exact lt_add_of_pos_right now hlength
  · rw [hit_of_not_opens h]
    have hlt : now - w.1 < length := not_le.1 h
    exact sub_lt_iff_lt_add'.1 hlt

/-- When the window started after the interval's beginning, the next one starts after its end. -/
theorem admittedIn_of_started (hab : b - a ≤ length) (hsorted : times.Pairwise (· ≤ ·))
    (hw : a < w.1) : admittedIn a b length limit w times ≤ limit - w.2 := by
  induction times generalizing w with
  | nil => simp [admittedIn, admitted]
  | cons now times ih =>
    obtain ⟨hfirst, hrest⟩ := List.pairwise_cons.1 hsorted
    by_cases hopens : Opens length w now
    · have hb : b ≤ a + length := sub_le_iff_le_add'.1 hab
      have hnow : w.1 + length ≤ now := le_sub_iff_add_le'.1 hopens
      have hlt : b < now := lt_of_le_of_lt hb (lt_of_lt_of_le (add_lt_add_left hw length) hnow)
      have hzero : admittedIn a b length limit w (now :: times) = 0 := by
        refine admittedIn_eq_zero fun t ht => ?_
        rcases List.mem_cons.1 ht with rfl | ht
        · exact hlt
        · exact lt_of_lt_of_le hlt (hfirst t ht)
      omega
    · have hstep : admittedIn a b length limit w (now :: times) ≤ _ := admittedIn_cons
      rw [hit_of_not_opens hopens] at hstep
      have hleft : admittedIn a b length limit (w.1, w.2 + 1) times ≤ limit - (w.2 + 1) :=
        @ih (w.1, w.2 + 1) hrest hw
      split at hstep <;> simp only at * <;> omega

/-- When the interval begins in the window, it meets this window and the next one. -/
theorem admittedIn_of_lt (hab : b - a ≤ length) (hsorted : times.Pairwise (· ≤ ·))
    (hw : a < w.1 + length) : admittedIn a b length limit w times ≤ limit - w.2 + limit := by
  induction times generalizing w with
  | nil => simp [admittedIn, admitted]
  | cons now times ih =>
    obtain ⟨-, hrest⟩ := List.pairwise_cons.1 hsorted
    have hstep : admittedIn a b length limit w (now :: times) ≤ _ := admittedIn_cons
    by_cases hopens : Opens length w now
    · have hnow : w.1 + length ≤ now := le_sub_iff_add_le'.1 hopens
      have hleft : admittedIn a b length limit (now, 1) times ≤ limit - 1 :=
        admittedIn_of_started hab hrest (lt_of_lt_of_le hw hnow)
      rw [hit_of_opens hopens] at hstep
      split at hstep <;> simp only at * <;> omega
    · have hleft : admittedIn a b length limit (w.1, w.2 + 1) times ≤ limit - (w.2 + 1) + limit :=
        @ih (w.1, w.2 + 1) hrest hw
      rw [hit_of_not_opens hopens] at hstep
      split at hstep <;> simp only at * <;> omega

/-- No interval meets three windows. -/
theorem admitted_of_interval (hlength : 0 < length) (hab : b - a ≤ length)
    (hsorted : times.Pairwise (· ≤ ·)) :
    admittedIn a b length limit w times ≤ 2 * limit := by
  induction times generalizing w with
  | nil => simp [admittedIn, admitted]
  | cons now times ih =>
    obtain ⟨-, hrest⟩ := List.pairwise_cons.1 hsorted
    by_cases hlt : now < a
    · rw [admittedIn_cons_of_lt hlt]
      exact ih hrest
    · -- The first request that is not before the interval: the interval begins in its window.
      have hw : a < (hit length w now).1 + length := lt_of_le_of_lt (not_lt.1 hlt) (lt_hit hlength)
      have hleft : admittedIn a b length limit (hit length w now) times ≤ _ :=
        admittedIn_of_lt hab hrest hw
      have hpos : 0 < (hit length w now).2 := hit_pos
      have hstep : admittedIn a b length limit w (now :: times) ≤ _ := admittedIn_cons
      split at hstep <;> omega

end

end FixedWindow
