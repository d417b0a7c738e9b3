import HermesRpt.Common.Python
import HermesRpt.Lib.Best
import Mathlib.Algebra.Order.Field.Rat
import Mathlib.Data.Rat.Cast.Order
import Mathlib.Data.Real.Basic
import Mathlib.Data.Finset.Max
import Mathlib.Data.Finset.Sort
import Mathlib.Tactic.Positivity

/-!
# HermesRpt.Models.Metrics

The decision threshold of a trained model.

* `Numerics`        : what NumPy and scikit-learn compute, and `Numerics.Documented` what of it is
  relied on.
* `selectThreshold` : the strategies. Probabilities and scores are the rationals they stand for.
* `f1At`            : the F1 score of a decision on probabilities.
* `exists_observed` : no real threshold does better than every observed probability.
-/

namespace HermesRpt

namespace Models

/-- Third-party functions on arrays. The labels are 0 and 1. -/
structure Numerics where
  /-- `np.unique` -/
  unique : List ℚ → List ℚ
  /-- `f1_score(y_true, y_pred, zero_division=0)` -/
  f1Score : List Bool → List Bool → ℚ

/-- `2 * tp / (2 * tp + fp + fn)`, or zero when this is undefined. -/
def f1OfCounts (tp fp fn : Nat) : ℚ :=
  if 2 * tp + fp + fn = 0 then 0 else 2 * tp / (2 * tp + fp + fn)

/-- The score of pairs of a label and a prediction. -/
def f1 (pairs : List (Bool × Bool)) : ℚ :=
  f1OfCounts (pairs.countP fun p => p.1 && p.2) (pairs.countP fun p => !p.1 && p.2)
    (pairs.countP fun p => p.1 && !p.2)

/-- The documented behaviour: sorted without duplicates, and the F1 score. -/
structure Numerics.Documented (np : Numerics) : Prop where
  unique_sorted : ∀ xs, (np.unique xs).Pairwise (· < ·)
  mem_unique : ∀ xs x, x ∈ np.unique xs ↔ x ∈ xs
  f1Score_eq : ∀ yTrue yPred, yTrue.length = yPred.length →
    np.f1Score yTrue yPred = f1 (yTrue.zip yPred)

/-- The score of the predictions at a candidate. -/
def candidateScore (np : Numerics) (yTrue : List Bool) (yProba : List ℚ) (candidate : ℚ) : ℚ :=
  np.f1Score yTrue (yProba.map fun p => p ≥ candidate)

def selectThreshold (np : Numerics) (yTrue : List Bool) (yProba : List ℚ) (strategy : String)
    (fixedValue : ℚ) : Except PyError ℚ :=
  if strategy = "fixed" then .ok fixedValue
  else if strategy ≠ "max_f1" then
    .error ⟨.ValueError, "Unknown threshold strategy: " ++ reprStr strategy⟩
  else
    match np.unique yProba with
    | [] => .ok fixedValue
    | first :: rest =>
      -- a later candidate replaces the best one when its score is strictly greater
      .ok ((first :: rest).foldl (Best.climb (candidateScore np yTrue yProba)) (first, -1)).1

/-! ## Scores of decisions -/

/-- The score of a decision on the probabilities of labelled samples. -/
def f1At (positive : ℚ → Bool) (samples : List (Bool × ℚ)) : ℚ :=
  f1 (samples.map fun s => (s.1, positive s.2))

variable {np : Numerics} {samples : List (Bool × ℚ)} {positive positive' : ℚ → Bool}

theorem f1OfCounts_nonneg (tp fp fn : Nat) : 0 ≤ f1OfCounts tp fp fn := by
  unfold f1OfCounts
  split
  · exact le_rfl
  · positivity

theorem f1_nonneg (pairs : List (Bool × Bool)) : 0 ≤ f1 pairs := f1OfCounts_nonneg _ _ _

/-- Without a positive decision the score is zero. -/
theorem f1At_eq_zero (h : ∀ s ∈ samples, positive s.2 = false) : f1At positive samples = 0 := by
  have htp : (samples.map fun s => (s.1, positive s.2)).countP (fun p => p.1 && p.2) = 0 := by
    rw [List.countP_eq_zero]
    intro p hp
    obtain ⟨s, hs, rfl⟩ := List.mem_map.1 hp
    simp [h s hs]
  rw [f1At, f1, htp, f1OfCounts]
  split <;> simp

/-- Only the decisions on the samples count. -/
theorem f1At_congr (h : ∀ s ∈ samples, positive s.2 = positive' s.2) :
    f1At positive samples = f1At positive' samples := by
  unfold f1At
  congr 1
  exact List.map_congr_left fun s hs => by rw [h s hs]

theorem candidateScore_eq (hnp : np.Documented) (samples : List (Bool × ℚ)) (candidate : ℚ) :
    candidateScore np (samples.map Prod.fst) (samples.map Prod.snd) candidate =
      f1At (fun p => candidate ≤ p) samples := by
  rw [candidateScore, hnp.f1Score_eq _ _ (by simp), List.map_map, List.zip_map']
  rfl

/-! ## All thresholds -/

/-- Every real threshold decides like an observed probability, or makes no positive decision. -/
theorem exists_observed (samples : List (Bool × ℚ)) (θ : ℝ) :
    f1At (fun p => θ ≤ p) samples = 0 ∨
      ∃ c ∈ samples.map Prod.snd, f1At (fun p => θ ≤ p) samples = f1At (fun p => c ≤ p) samples := by
  let above : Finset ℚ := (samples.map Prod.snd).toFinset.filter fun p => θ ≤ p
  have hmem : ∀ p : ℚ, p ∈ above ↔ p ∈ samples.map Prod.snd ∧ θ ≤ p := by
    intro p
    rw [Finset.mem_filter, List.mem_toFinset]
  by_cases hne : above.Nonempty
  · -- the least observed probability that is not below the threshold
    right
    have hmin := (hmem _).1 (above.min'_mem hne)
    refine ⟨_, hmin.1, f1At_congr fun s hs => ?_⟩
    rw [decide_eq_decide]
    constructor
    · intro hle
      exact above.min'_le _ ((hmem _).2 ⟨List.mem_map_of_mem hs, hle⟩)
    · intro hle
      exact le_trans hmin.2 (Rat.cast_le.2 hle)
  · left
    refine f1At_eq_zero fun s hs => decide_eq_false fun hle => hne ⟨s.2, ?_⟩
    exact (hmem _).2 ⟨List.mem_map_of_mem hs, hle⟩

/-! ## The threshold -/

/-- What the loop ends with. -/
theorem selectThreshold_max_f1 (hnp : np.Documented) (hne : samples ≠ []) (fixedValue : ℚ) :
    ∃ threshold candidates, selectThreshold np (samples.map Prod.fst) (samples.map Prod.snd) "max_f1"
        fixedValue = .ok threshold ∧
      candidates.Pairwise (· < ·) ∧ (∀ c, c ∈ candidates ↔ c ∈ samples.map Prod.snd) ∧
      Best.First (fun c => f1At (fun p => c ≤ p) samples) (-1) candidates threshold := by
  have hscore : candidateScore np (samples.map Prod.fst) (samples.map Prod.snd) =
      fun c => f1At (fun p => c ≤ p) samples := funext (candidateScore_eq hnp samples)
  rw [selectThreshold, if_neg (by decide), if_neg (by decide), hscore]
  have hmem := hnp.mem_unique (samples.map Prod.snd)
  have hsorted := hnp.unique_sorted (samples.map Prod.snd)
  cases hunique : np.unique (samples.map Prod.snd) with
  | nil =>
    obtain ⟨s, hs⟩ := List.exists_mem_of_ne_nil samples hne
    have hcandidate := (hmem s.2).2 (List.mem_map_of_mem hs)
    rw [hunique] at hcandidate
    exact absurd hcandidate List.not_mem_nil
  | cons first rest =>
    rw [hunique] at hmem hsorted
    have hstart : ∀ c ∈ first :: rest, ((first, -1) : ℚ × ℚ).2 < f1At (fun p => c ≤ p) samples := by
      intro c _
      exact lt_of_lt_of_le (by norm_num) (f1_nonneg _)
    exact ⟨_, first :: rest, rfl, hsorted, hmem, Best.first_of_climb hstart (List.cons_ne_nil _ _)⟩

/-- `max_f1` returns the least observed probability whose score no real threshold exceeds. -/
theorem selectThreshold_optimal (np : Numerics) (hnp : np.Documented) (samples : List (Bool × ℚ))
    (hne : samples ≠ []) (fixedValue : ℚ) :
    ∃ threshold, selectThreshold np (samples.map Prod.fst) (samples.map Prod.snd) "max_f1"
        fixedValue = .ok threshold ∧
      threshold ∈ samples.map Prod.snd ∧
      (∀ θ : ℝ, f1At (fun p => θ ≤ p) samples ≤ f1At (fun p => threshold ≤ p) samples) ∧
      ∀ c ∈ samples.map Prod.snd,
        f1At (fun p => c ≤ p) samples = f1At (fun p => threshold ≤ p) samples → threshold ≤ c := by
  obtain ⟨threshold, candidates, hok, hsorted, hmem, hfirst⟩ :=
    selectThreshold_max_f1 hnp hne fixedValue
  refine ⟨threshold, hok, (hmem _).1 hfirst.mem, ?_, ?_⟩
  · intro θ
    rcases exists_observed samples θ with hzero | ⟨c, hc, heq⟩
    · rw [hzero]
      exact f1_nonneg _
    · rw [heq]
      exact hfirst.le ((hmem c).2 hc)
  · intro c hc heq
    exact hfirst.le_of_eq hsorted ((hmem c).2 hc) heq

/-- The functions as they are documented. -/
def numerics : Numerics where
  unique xs := xs.toFinset.sort (· ≤ ·)
  f1Score yTrue yPred := f1 (yTrue.zip yPred)

theorem numerics_documented : numerics.Documented where
  unique_sorted xs := (Finset.sortedLT_sort xs.toFinset).pairwise
  mem_unique xs x := by rw [numerics, Finset.mem_sort, List.mem_toFinset]
  f1Score_eq _ _ _ := rfl

theorem selectThreshold_optimal_three : ∃ threshold,
    selectThreshold numerics [true, false, true] [1 / 4, 1 / 2, 3 / 4] "max_f1" (1 / 2) =
      .ok threshold ∧ threshold ∈ [1 / 4, 1 / 2, 3 / 4] :=
  have ⟨threshold, hok, hmem, _⟩ := selectThreshold_optimal numerics numerics_documented
    [(true, 1 / 4), (false, 1 / 2), (true, 3 / 4)] (by simp) (1 / 2)
  ⟨threshold, hok, hmem⟩

end Models

end HermesRpt
