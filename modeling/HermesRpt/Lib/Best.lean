import Mathlib.Data.List.Induction
import Mathlib.Data.List.Sort

/-!
# HermesRpt.Lib.Best

The best element of a list by one pass over it: a later one must score more to replace the one that
is kept, and none is kept below a threshold.

* `improve`   : one step of the pass.
* `First`     : the first of the elements of the highest score.
* `best_some`, `best_eq_none` : what the pass returns.
* `climb`     : a step of a pass that starts from an element and a score instead.
* `first_of_climb` : what it ends with, when every element scores more than the start.
-/

namespace Best

variable {α ι : Type*} [LinearOrder ι] (score : α → ι) (threshold : ι)

def improve (kept : Option (ι × α)) (a : α) : Option (ι × α) :=
  if threshold ≤ score a ∧ kept.all (fun k => k.1 < score a) then some (score a, a) else kept

/-- The first element of the highest score, which is at least the threshold. -/
structure First (l : List α) (a : α) : Prop where
  reaches : threshold ≤ score a
  split : ∃ before after, l = before ++ a :: after ∧ (∀ b ∈ before, score b < score a) ∧
    ∀ b ∈ after, score b ≤ score a

/-- What is kept after the elements of `l`. -/
def Kept (l : List α) : Option (ι × α) → Prop
  | none => ∀ a ∈ l, score a < threshold
  | some (s, a) => s = score a ∧ First score threshold l a

variable {score threshold} {l : List α} {a b : α}

theorem First.mem (h : First score threshold l a) : a ∈ l := by
  obtain ⟨before, after, rfl, -, -⟩ := h.split
  simp

theorem First.le (h : First score threshold l a) (hb : b ∈ l) : score b ≤ score a := by
  obtain ⟨before, after, rfl, hbefore, hafter⟩ := h.split
  rcases List.mem_append.1 hb with hb | hb
  · exact (hbefore b hb).le
  · rcases List.mem_cons.1 hb with rfl | hb
    · exact le_rfl
    · exact hafter b hb

/-- The head of the list is passed over only for more. -/
theorem First.head_lt (h : First score threshold (b :: l) a) (hne : b ≠ a) :
    score b < score a := by
  obtain ⟨before, after, hl, hbefore, -⟩ := h.split
  cases before with
  | nil => exact absurd (List.cons.inj hl).1 hne
  | cons c before =>
    obtain ⟨rfl, -⟩ := List.cons.inj hl
    exact hbefore b List.mem_cons_self

/-- An element that does not score more leaves the first one the first. -/
theorem First.append (h : First score threshold l a) (hb : score b ≤ score a) :
    First score threshold (l ++ [b]) a := by
  obtain ⟨before, after, rfl, hbefore, hafter⟩ := h.split
  refine ⟨h.reaches, before, after ++ [b], by simp, hbefore, ?_⟩
  intro c hc
  rcases List.mem_append.1 hc with hc | hc
  · exact hafter c hc
  · obtain rfl := List.mem_singleton.1 hc
    exact hb

theorem kept_improve {kept : Option (ι × α)} (h : Kept score threshold l kept) (b : α) :
    Kept score threshold (l ++ [b]) (improve score threshold kept b) := by
  rw [improve]
  cases kept with
  | none =>
    by_cases hb : threshold ≤ score b
    · rw [if_pos ⟨hb, rfl⟩]
      exact ⟨rfl, hb, l, [], rfl, fun c hc => lt_of_lt_of_le (h c hc) hb, by simp⟩
    · rw [if_neg fun hif => hb hif.1]
      intro c hc
      rcases List.mem_append.1 hc with hc | hc
      · exact h c hc
      · obtain rfl := List.mem_singleton.1 hc
        exact not_le.1 hb
  | some k =>
    obtain ⟨s, a⟩ := k
    obtain ⟨rfl, hfirst⟩ := h
    by_cases hb : threshold ≤ score b ∧ (some (score a, a)).all (fun k => k.1 < score b)
    · rw [if_pos hb]
      have hlt : score a < score b := by simpa using hb.2
      exact ⟨rfl, hb.1, l, [], rfl, fun c hc => lt_of_le_of_lt (hfirst.le hc) hlt, by simp⟩
    · rw [if_neg hb]
      refine ⟨rfl, hfirst.append ?_⟩
      by_contra hlt
      have hlt := not_le.1 hlt
      exact hb ⟨le_trans hfirst.reaches hlt.le, by simpa using hlt⟩

theorem kept_foldl (l : List α) :
    Kept score threshold l (l.foldl (improve score threshold) none) := by
  induction l using List.reverseRecOn with
  | nil => exact fun a ha => absurd ha List.not_mem_nil
  | append_singleton l b ih =>
    rw [List.foldl_append]
    exact kept_improve ih b

variable (score threshold)

/-- The element that the pass over the list keeps. -/
def best (l : List α) : Option α := (l.foldl (improve score threshold) none).map Prod.snd

variable {score threshold}

theorem best_some (h : best score threshold l = some a) : First score threshold l a := by
  have hkept : Kept score threshold l (l.foldl (improve score threshold) none) := kept_foldl l
  obtain ⟨⟨s, b⟩, hfold, rfl⟩ := Option.map_eq_some_iff.1 h
  rw [hfold] at hkept
  exact hkept.2

theorem best_eq_none : best score threshold l = none ↔ ∀ a ∈ l, score a < threshold := by
  have hkept : Kept score threshold l (l.foldl (improve score threshold) none) := kept_foldl l
  rw [best, Option.map_eq_none_iff]
  constructor
  · intro h
    rwa [h] at hkept
  · intro h
    cases hfold : l.foldl (improve score threshold) none with
    | none => rfl
    | some k =>
      rw [hfold] at hkept
      exact absurd (h k.2 hkept.2.mem) (not_lt.2 hkept.2.reaches)

/-! ## A pass with a start -/

variable (score)

def climb (kept : α × ι) (a : α) : α × ι := if kept.2 < score a then (a, score a) else kept

variable {score}

/-- Until the first element the start is kept; after it the first element of the highest score. -/
theorem climb_foldl {start : α × ι} (h : ∀ a ∈ l, start.2 < score a) :
    l = [] ∧ l.foldl (climb score) start = start ∨
      (l.foldl (climb score) start).2 = score (l.foldl (climb score) start).1 ∧
        First score start.2 l (l.foldl (climb score) start).1 := by
  induction l using List.reverseRecOn with
  | nil => exact .inl ⟨rfl, rfl⟩
  | append_singleton l b ih =>
    have hb : start.2 < score b := h b (by simp)
    rw [List.foldl_append, List.foldl_cons, List.foldl_nil, climb]
    refine .inr ?_
    rcases ih fun a ha => h a (by simp [ha]) with ⟨rfl, hstart⟩ | ⟨hscore, hfirst⟩
    · rw [hstart, if_pos hb]
      exact ⟨rfl, hb.le, [], [], rfl, by simp, by simp⟩
    · by_cases hlt : (l.foldl (climb score) start).2 < score b
      · rw [if_pos hlt]
        rw [hscore] at hlt
        exact ⟨rfl, hb.le, l, [], rfl, fun c hc => lt_of_le_of_lt (hfirst.le hc) hlt, by simp⟩
      · rw [if_neg hlt]
        rw [hscore] at hlt
        exact ⟨hscore, hfirst.append (not_lt.1 hlt)⟩

theorem first_of_climb {start : α × ι} (h : ∀ a ∈ l, start.2 < score a) (hne : l ≠ []) :
    First score start.2 l (l.foldl (climb score) start).1 := by
  rcases climb_foldl h with ⟨hnil, -⟩ | ⟨-, hfirst⟩
  · exact absurd hnil hne
  · exact hfirst

/-- In a list in increasing order, it is the least of the elements of the highest score. -/
theorem First.le_of_eq [Preorder α] (h : First score threshold l a) (hl : l.Pairwise (· < ·))
    (hb : b ∈ l) (hscore : score b = score a) : a ≤ b := by
  obtain ⟨before, after, rfl, hbefore, -⟩ := h.split
  rcases List.mem_append.1 hb with hb | hb
  · exact absurd hscore (hbefore b hb).ne
  · rcases List.mem_cons.1 hb with rfl | hb
    · exact le_rfl
    · have hafter := (List.pairwise_append.1 hl).2.1
      exact ((List.pairwise_cons.1 hafter).1 b hb).le

end Best
