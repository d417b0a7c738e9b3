import Mathlib.Data.List.Sort

/-!
# HermesRpt.Lib.Ranking

Positions in a list sorted by a key, highest first, where equal keys keep their order.

* `descending`  : the sorted list.
* `rank`        : how many elements come before one, counted in the list as it is.
* `idxOf_descending`, `mem_take_descending` : the rank is the position.
-/

namespace Ranking

variable {α ι : Type*} [LinearOrder ι] (key : α → ι)

/-- `sorted(l, key=key, reverse=True)` -/
def descending (l : List α) : List α := l.insertionSort fun a b => key b ≤ key a

variable {key} {l : List α} {a b : α}

theorem descending_perm (key : α → ι) (l : List α) : (descending key l).Perm l :=
  List.perm_insertionSort _ l

theorem mem_descending (key : α → ι) : a ∈ descending key l ↔ a ∈ l :=
  (descending_perm key l).mem_iff

theorem descending_sorted (l : List α) : (descending key l).Pairwise fun a b => key b ≤ key a := by
  have : Std.Total fun a b : α => key b ≤ key a := ⟨fun a b => le_total (key b) (key a)⟩
  have : IsTrans α fun a b => key b ≤ key a := ⟨fun _ _ _ hab hbc => le_trans hbc hab⟩
  exact List.pairwise_insertionSort _ l

section

variable [DecidableEq α] (key)

/-- Those before it in the list come first when their key is not lower, those after it when theirs is
higher. -/
def rank (l : List α) (a : α) : ℕ :=
  ((l.takeWhile (· ≠ a)).countP fun b => key a ≤ key b) +
    (l.dropWhile (· ≠ a)).countP fun b => key a < key b

variable {key}

theorem rank_cons_self : rank key (a :: l) a = l.countP fun b => key a < key b := by
  simp [rank]

theorem rank_cons_of_ne (h : b ≠ a) :
    rank key (b :: l) a = rank key l a + if key a ≤ key b then 1 else 0 := by
  simp only [rank, ne_eq, h, not_false_eq_true, decide_true, List.takeWhile_cons_of_pos,
    List.dropWhile_cons_of_pos, List.countP_cons, decide_eq_true_eq]
  omega

/-- A new element goes after those with a higher key. -/
theorem idxOf_orderedInsert_self (hsorted : l.Pairwise fun a b => key b ≤ key a) (ha : a ∉ l) :
    (l.orderedInsert (fun a b => key b ≤ key a) a).idxOf a = l.countP fun b => key a < key b := by
  induction l with
  | nil => simp
  | cons c l ih =>
    obtain ⟨hhead, htail⟩ := List.pairwise_cons.1 hsorted
    rw [List.orderedInsert_cons]
    by_cases hle : key c ≤ key a
    · have hzero : (c :: l).countP (fun b => key a < key b) = 0 := by
        rw [List.countP_eq_zero]
        intro b hb
        rcases List.mem_cons.1 hb with rfl | hb
        · simpa using hle
        · simpa using le_trans (hhead b hb) hle
      rw [if_pos hle, hzero, List.idxOf_cons_self]
    · have hne : c ≠ a := fun h => ha (by simp [h])
      rw [if_neg hle, List.idxOf_cons_ne _ hne, ih htail fun h => ha (by simp [h]),
        List.countP_cons_of_pos (by simpa using hle)]

/-- It moves up those whose key is not higher. -/
theorem idxOf_orderedInsert_of_ne (hsorted : l.Pairwise fun a b => key b ≤ key a) (ha : a ∈ l)
    (hne : b ≠ a) : (l.orderedInsert (fun a b => key b ≤ key a) b).idxOf a =
      l.idxOf a + if key a ≤ key b then 1 else 0 := by
  induction l with
  | nil => cases ha
  | cons c l ih =>
    obtain ⟨hhead, htail⟩ := List.pairwise_cons.1 hsorted
    rw [List.orderedInsert_cons]
    by_cases hle : key c ≤ key b
    · have hab : key a ≤ key b := by
        rcases List.mem_cons.1 ha with rfl | ha
        · exact hle
        · exact le_trans (hhead a ha) hle
      rw [if_pos hle, if_pos hab, List.idxOf_cons_ne _ hne]
    · rw [if_neg hle]
      by_cases hc : c = a
      · subst hc
        rw [if_neg hle, List.idxOf_cons_self, List.idxOf_cons_self]
      · have hmem : a ∈ l := (List.mem_cons.1 ha).resolve_left fun h => hc h.symm
        rw [List.idxOf_cons_ne _ hc, List.idxOf_cons_ne _ hc, ih htail hmem]
        omega

theorem idxOf_descending (hl : l.Nodup) (ha : a ∈ l) :
    (descending key l).idxOf a = rank key l a := by
  induction l with
  | nil => cases ha
  | cons b l ih =>
    obtain ⟨hb, hl⟩ := List.nodup_cons.1 hl
    rw [descending, List.insertionSort_cons]
    by_cases h : b = a
    · subst h
      have hnot : b ∉ descending key l := fun hmem => hb ((mem_descending key).1 hmem)
      rw [rank_cons_self, ← (descending_perm key l).countP_eq]
      exact idxOf_orderedInsert_self (descending_sorted l) hnot
    · have hmem : a ∈ l := (List.mem_cons.1 ha).resolve_left fun he => h he.symm
      rw [rank_cons_of_ne h, ← ih hl hmem]
      exact idxOf_orderedInsert_of_ne (descending_sorted l) ((mem_descending key).2 hmem) h

/-- The first elements of the sorted list are those of low rank. -/
theorem mem_take_descending (hl : l.Nodup) {n : ℕ} :
    a ∈ (descending key l).take n ↔ a ∈ l ∧ rank key l a < n := by
  constructor
  · intro h
    have hmem : a ∈ l := (mem_descending key).1 (List.mem_of_mem_take h)
    refine ⟨hmem, ?_⟩
    rw [← idxOf_descending hl hmem, ← (List.take_prefix n _).idxOf_eq_of_mem h]
    exact lt_of_lt_of_le (List.idxOf_lt_length_of_mem h) (List.length_take_le _ _)
  · rintro ⟨hmem, hlt⟩
    rw [← idxOf_descending hl hmem] at hlt
    have hlen : (descending key l).idxOf a < (descending key l).length :=
      List.idxOf_lt_length_of_mem ((mem_descending key).2 hmem)
    rw [List.mem_take_iff_getElem]
    exact ⟨_, by omega, List.getElem_idxOf hlen⟩

end

end Ranking
