import HermesRpt.Datasets.Definition
import HermesRpt.System
import Mathlib.Data.Rat.Floor
import Mathlib.Tactic.Linarith

/-!
# HermesRpt.Datasets.Splits

The temporal split of rows that are sorted by prediction time.

* `splitTemporally_bounds` : where the two cuts lie.
* `splitTemporally_temporal` : the parts in order are the rows, no part reaches back before the one
  before it, and the test part gets a row whenever there is one.
-/

namespace HermesRpt

namespace Datasets

/-- Cutting off the fraction of a number that is not negative rounds down. -/
theorem truncate_eq_floor {x : ℚ} (hx : 0 ≤ x) : Value.truncate x = ⌊x⌋ := by
  rw [Value.truncate, if_neg (not_lt.2 hx), Rat.floor_def']

theorem truncate_toNat_le {x : ℚ} (hx : 0 ≤ x) : ((Value.truncate x).toNat : ℚ) ≤ x := by
  rw [truncate_eq_floor hx]
  have hnat : ((⌊x⌋.toNat : Int) : ℚ) = (⌊x⌋ : ℚ) := by
    rw [Int.toNat_of_nonneg (Int.floor_nonneg.2 hx)]
  have hcast : ((⌊x⌋.toNat : ℕ) : ℚ) = (⌊x⌋ : ℚ) := by exact_mod_cast hnat
  rw [hcast]
  exact Int.floor_le x

/-- Both cuts lie before the last row, so one row at least is left for the test part. -/
theorem cuts_lt (strategy : TemporalSplitStrategy) {n : ℕ} (hn : 0 < n) :
    (Value.truncate ((n : ℚ) * strategy.trainFraction)).toNat +
      (Value.truncate ((n : ℚ) * strategy.validationFraction)).toNat < n := by
  obtain ⟨htrain, -, hvalidation, -⟩ := strategy.in_unit
  have hpos : (0 : ℚ) < n := by exact_mod_cast hn
  have h₁ := truncate_toNat_le (mul_pos hpos htrain).le
  have h₂ := truncate_toNat_le (mul_pos hpos hvalidation).le
  have hroom : (n : ℚ) * (strategy.trainFraction + strategy.validationFraction) < n := by
    have := mul_lt_mul_of_pos_left strategy.room_for_test hpos
    rwa [mul_one] at this
  have hsum : (((Value.truncate ((n : ℚ) * strategy.trainFraction)).toNat +
      (Value.truncate ((n : ℚ) * strategy.validationFraction)).toNat : ℕ) : ℚ) < n := by
    push_cast
    linarith
  exact_mod_cast hsum

theorem splitTemporally_test_ne_nil {ρ : Type} {std : Stdlib}
    (hexact : ∀ x y, std.mulFloat x y = x * y) {sortedRows : List ρ} (strategy : TemporalSplitStrategy)
    (hne : sortedRows ≠ []) : (splitTemporally std sortedRows strategy).test ≠ [] := by
  have hcut := cuts_lt strategy (List.length_pos_of_ne_nil hne)
  simp only [splitTemporally, hexact]
  intro hnil
  rw [List.drop_eq_nil_iff] at hnil
  omega

/-- Of three parts that make up a list in order, an element of one is before those of the next ones. -/
theorem parts_ordered {ρ : Type} {R : ρ → ρ → Prop} {a b c l : List ρ} (happend : a ++ b ++ c = l)
    (hl : l.Pairwise R) :
    (∀ x ∈ a, ∀ y ∈ b, R x y) ∧ (∀ x ∈ a, ∀ z ∈ c, R x z) ∧ ∀ y ∈ b, ∀ z ∈ c, R y z := by
  subst happend
  obtain ⟨hab, -, hc⟩ := List.pairwise_append.1 hl
  obtain ⟨-, -, hb⟩ := List.pairwise_append.1 hab
  refine ⟨hb, fun x hx z hz => ?_, fun y hy z hz => ?_⟩
  · exact hc x (List.mem_append_left b hx) z hz
  · exact hc y (List.mem_append_right a hy) z hz

/-- Rows that are sorted by prediction time are split in time: the parts in order are the rows, no
row of a part is later than one of a part after it, and the test part has a row when there is one. -/
theorem splitTemporally_temporal {ρ : Type} (std : Stdlib) (hexact : ∀ x y, std.mulFloat x y = x * y)
    (predictionTime : ρ → DateTime) (sortedRows : List ρ)
    (hsorted : sortedRows.Pairwise fun r s => predictionTime r ≤ predictionTime s)
    (strategy : TemporalSplitStrategy) :
    let splits := splitTemporally std sortedRows strategy
    splits.train ++ splits.validation ++ splits.test = sortedRows ∧
      (∀ r ∈ splits.train, ∀ s ∈ splits.validation, predictionTime r ≤ predictionTime s) ∧
      (∀ r ∈ splits.train, ∀ s ∈ splits.test, predictionTime r ≤ predictionTime s) ∧
      (∀ r ∈ splits.validation, ∀ s ∈ splits.test, predictionTime r ≤ predictionTime s) ∧
      (sortedRows ≠ [] → splits.test ≠ []) := by
  intro splits
  have happend := splitTemporally_append std sortedRows strategy
  obtain ⟨hvalidation, htest, hrest⟩ := parts_ordered happend hsorted
  exact ⟨happend, hvalidation, htest, hrest, splitTemporally_test_ne_nil hexact strategy⟩

namespace Sample

theorem shares_in_unit : (0 : ℚ) < 7 / 10 ∧ (7 / 10 : ℚ) < 1 ∧ (0 : ℚ) < 3 / 20 ∧ (3 / 20 : ℚ) < 1 := by
  norm_num

theorem shares_room : (7 / 10 : ℚ) + 3 / 20 < 1 := by norm_num

/-- The default fractions. -/
def shares : TemporalSplitStrategy := ⟨7 / 10, 3 / 20, shares_in_unit, shares_room⟩

def threeMornings : List DateTime := [⟨0, 0⟩, ⟨microsPerDay, 0⟩, ⟨2 * microsPerDay, 0⟩]

theorem threeMornings_sorted : threeMornings.Pairwise fun r s => id r ≤ id s := by decide

theorem splitTemporally_threeMornings :
    (splitTemporally HermesRpt.Sample.std threeMornings shares).test ≠ [] ∧
      ∀ r ∈ (splitTemporally HermesRpt.Sample.std threeMornings shares).train,
        ∀ s ∈ (splitTemporally HermesRpt.Sample.std threeMornings shares).test, r ≤ s := by
  obtain ⟨-, -, htest, -, hne⟩ := splitTemporally_temporal HermesRpt.Sample.std (fun _ _ => rfl) id
    threeMornings threeMornings_sorted shares
  exact ⟨hne (by simp [threeMornings]), htest⟩

end Sample

end Datasets

end HermesRpt
