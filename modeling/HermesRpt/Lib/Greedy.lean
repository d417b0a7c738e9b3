import Mathlib.Data.Set.Image

/-!
# HermesRpt.Lib.Greedy

Greedy choice from a list, strongest first: an element is taken unless one that is taken already
competes with it.

What is chosen is said without the algorithm by a set of positions. It is stable when a position is
in it exactly if no earlier one in it competes.

* `choose`        : the greedy choice.
* `Stable`        : a stable set of positions.
* `exists_stable` : there is one.
* `mem_choose`    : whatever stable set is looked at, the greedy choice has its elements.
* `pairwise_choose`, `exists_blocking` : what is taken does not compete, and blocks the rest.
-/

namespace Greedy

variable {α : Type*} (competes : α → α → Prop)

/-- The elements of `taken`, and those of the list that are taken after them. -/
def choose [DecidableRel competes] : List α → List α → List α
  | taken, [] => taken
  | taken, a :: l =>
    if ∃ b ∈ taken, competes b a then choose taken l else choose (taken ++ [a]) l

/-- Stable among what does not compete with an element of `taken`. -/
def StableFrom (taken l : List α) (chosen : Set ℕ) : Prop :=
  ∀ i a, l[i]? = some a →
    (i ∈ chosen ↔ (∀ b ∈ taken, ¬competes b a) ∧
      ∀ j ∈ chosen, j < i → ∀ b, l[j]? = some b → ¬competes b a)

def Stable (l : List α) (chosen : Set ℕ) : Prop :=
  ∀ i a, l[i]? = some a →
    (i ∈ chosen ↔ ∀ j ∈ chosen, j < i → ∀ b, l[j]? = some b → ¬competes b a)

variable {competes} {taken l : List α} {a : α} {chosen : Set ℕ}

theorem stableFrom_nil : StableFrom competes [] l chosen ↔ Stable competes l chosen := by
  simp [StableFrom, Stable]

theorem StableFrom.head (h : StableFrom competes taken (a :: l) chosen) :
    0 ∈ chosen ↔ ∀ b ∈ taken, ¬competes b a := by
  have h := h 0 a rfl
  simpa using h

/-- The positions after the first one, when its element is taken and when it is not. -/
theorem stableFrom_cons : StableFrom competes taken (a :: l) chosen ↔
    (0 ∈ chosen ↔ ∀ b ∈ taken, ¬competes b a) ∧
      (0 ∈ chosen → StableFrom competes (taken ++ [a]) l {i | i + 1 ∈ chosen}) ∧
      (0 ∉ chosen → StableFrom competes taken l {i | i + 1 ∈ chosen}) := by
  have hfirst : ∀ i c, (∀ j ∈ chosen, j < i + 1 → ∀ b, (a :: l)[j]? = some b → ¬competes b c) ↔
      (0 ∈ chosen → ¬competes a c) ∧
        ∀ j, j + 1 ∈ chosen → j < i → ∀ b, l[j]? = some b → ¬competes b c := by
    intro i c
    constructor
    · intro h
      refine ⟨fun h0 => h 0 h0 (by omega) a rfl, fun j hj hlt b hb => ?_⟩
      exact h (j + 1) hj (by omega) b hb
    · rintro ⟨h0, hlater⟩ j hj hlt b hb
      cases j with
      | zero =>
        obtain rfl : a = b := by simpa using hb
        exact h0 hj
      | succ j => exact hlater j hj (by omega) b hb
  constructor
  · intro h
    refine ⟨h.head, fun h0 i c hc => ?_, fun h0 i c hc => ?_⟩
    · have hi := h (i + 1) c hc
      rw [hfirst] at hi
      simp only [Set.mem_ofPred_eq, List.mem_append, List.mem_singleton, hi, h0, true_imp_iff]
      grind
    · have hi := h (i + 1) c hc
      rw [hfirst] at hi
      simp only [Set.mem_ofPred_eq, hi, h0, false_imp_iff, true_and]
  · rintro ⟨hhead, htaken, hskipped⟩ i c hc
    cases i with
    | zero =>
      obtain rfl : a = c := by simpa using hc
      simpa using hhead
    | succ i =>
      rw [hfirst]
      by_cases h0 : 0 ∈ chosen
      · have hi := htaken h0 i c hc
        simp only [Set.mem_ofPred_eq, List.mem_append, List.mem_singleton] at hi
        rw [hi]
        grind
      · have hi := hskipped h0 i c hc
        simp only [Set.mem_ofPred_eq] at hi
        rw [hi]
        simp only [h0, false_imp_iff, true_and]

theorem exists_stableFrom (taken l : List α) : ∃ chosen, StableFrom competes taken l chosen := by
  induction l generalizing taken with
  | nil => exact ⟨∅, fun i a h => by simp at h⟩
  | cons a l ih =>
    by_cases hfree : ∀ b ∈ taken, ¬competes b a
    · obtain ⟨chosen, h⟩ := ih (taken ++ [a])
      refine ⟨insert 0 (Nat.succ '' chosen), stableFrom_cons.2 ⟨by simpa using hfree, fun _ => ?_,
        fun h0 => absurd (Set.mem_insert 0 _) h0⟩⟩
      simpa using h
    · obtain ⟨chosen, h⟩ := ih taken
      refine ⟨Nat.succ '' chosen, stableFrom_cons.2 ⟨by simpa using hfree, fun h0 => ?_,
        fun _ => ?_⟩⟩
      · simp at h0
      · simpa using h

theorem exists_stable (l : List α) : ∃ chosen, Stable competes l chosen := by
  obtain ⟨chosen, h⟩ := exists_stableFrom [] l
  exact ⟨chosen, stableFrom_nil.1 h⟩

variable [DecidableRel competes]

theorem mem_choose_from {b : α} (h : StableFrom competes taken l chosen) :
    b ∈ choose competes taken l ↔ b ∈ taken ∨ ∃ i ∈ chosen, l[i]? = some b := by
  induction l generalizing taken chosen with
  | nil => simp [choose]
  | cons a l ih =>
    obtain ⟨hhead, htaken, hskipped⟩ := stableFrom_cons.1 h
    have hsplit : (∃ i ∈ chosen, (a :: l)[i]? = some b) ↔
        (0 ∈ chosen ∧ a = b) ∨ ∃ i ∈ {i | i + 1 ∈ chosen}, l[i]? = some b := by
      constructor
      · rintro ⟨i, hi, hb⟩
        cases i with
        | zero => exact .inl ⟨hi, by simpa using hb⟩
        | succ i => exact .inr ⟨i, hi, hb⟩
      · rintro (⟨h0, rfl⟩ | ⟨i, hi, hb⟩)
        · exact ⟨0, h0, rfl⟩
        · exact ⟨i + 1, hi, hb⟩
    unfold choose
    split
    · rename_i hblocked
      have h0 : 0 ∉ chosen := fun h0 => by
        obtain ⟨c, hc, hcompetes⟩ := hblocked
        exact hhead.1 h0 c hc hcompetes
      rw [ih (hskipped h0), hsplit]
      simp [h0]
    · rename_i hfree
      have h0 : 0 ∈ chosen := hhead.2 fun c hc hcompetes => hfree ⟨c, hc, hcompetes⟩
      rw [ih (htaken h0), hsplit]
      simp only [List.mem_append, List.mem_singleton, h0, true_and, eq_comm, or_assoc]

theorem mem_choose {b : α} (h : Stable competes l chosen) :
    b ∈ choose competes [] l ↔ ∃ i ∈ chosen, l[i]? = some b := by
  rw [mem_choose_from (stableFrom_nil.2 h)]
  simp

/-- What is taken was taken before or is in the list. -/
theorem mem_of_mem_choose {b : α} (h : b ∈ choose competes taken l) : b ∈ taken ∨ b ∈ l := by
  obtain ⟨chosen, hstable⟩ : ∃ chosen, StableFrom competes taken l chosen :=
    exists_stableFrom taken l
  rcases (mem_choose_from hstable).1 h with hb | ⟨i, -, hi⟩
  · exact .inl hb
  · exact .inr (List.mem_of_getElem? hi)

/-- Of what is taken, none competes with a later one. -/
theorem pairwise_choose (h : taken.Pairwise fun a b => ¬competes a b) :
    (choose competes taken l).Pairwise fun a b => ¬competes a b := by
  induction l generalizing taken with
  | nil => exact h
  | cons a l ih =>
    unfold choose
    split
    · exact ih h
    · rename_i hfree
      refine ih (List.pairwise_append.2 ⟨h, List.pairwise_singleton _ a, fun b hb c hc => ?_⟩)
      obtain rfl := List.mem_singleton.1 hc
      exact fun hcompetes => hfree ⟨b, hb, hcompetes⟩

/-- What is not taken competes with an earlier element that is. -/
theorem exists_blocking {i : ℕ} {b : α} (hi : l[i]? = some b) (hb : b ∉ choose competes [] l) :
    ∃ j c, j < i ∧ l[j]? = some c ∧ c ∈ choose competes [] l ∧ competes c b := by
  obtain ⟨chosen, hstable⟩ : ∃ chosen, Stable competes l chosen := exists_stable l
  have hout : i ∉ chosen := fun hchosen => hb ((mem_choose hstable).2 ⟨i, hchosen, hi⟩)
  rw [hstable i b hi] at hout
  push Not at hout
  obtain ⟨j, hj, hlt, c, hc, hcompetes⟩ := hout
  exact ⟨j, c, hlt, hc, (mem_choose hstable).2 ⟨j, hj, hc⟩, hcompetes⟩

end Greedy
