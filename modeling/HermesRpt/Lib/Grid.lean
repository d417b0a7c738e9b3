import Mathlib.Data.List.Basic
import Mathlib.Data.List.Nodup
import Mathlib.Data.Option.NAry

/-!
# HermesRpt.Lib.Grid

Grids that are written entry by entry: what an entry holds after a loop of writes.

* `cell?` : the entry of a row and a column.
* `modify` : a write to one entry, which leaves the others as they are.
* `cell?_foldl_modify` : a loop over different columns of one row writes each of them once.
* `foldlM_eq_foldl` : a loop that may fail is the loop without failures, when it does not fail.
* `foldlM_range` : the invariant of a loop over the first numbers.
* `foldlM_row`, `foldlM_write` : a loop that works on one row, and one that fills in blanks in order.
-/

namespace Cells

/-- Rows of entries. -/
abbrev Grid (α : Type*) := List (List α)

namespace Grid

variable {α β γ : Type*}

def cell? (g : Grid α) (i j : Nat) : Option α := g[i]?.bind fun row => row[j]?

/-- A write to the entry of a row and a column; without such an entry nothing is written. -/
def modify (g : Grid α) (i j : Nat) (f : α → α) : Grid α := List.modify g i fun row => row.modify j f

theorem cell?_modify (g : Grid α) (i j : Nat) (f : α → α) (i' j' : Nat) :
    (g.modify i j f).cell? i' j' =
      (g.cell? i' j').map fun a => if i' = i ∧ j' = j then f a else a := by
  rw [cell?, cell?, modify, List.getElem?_modify]
  cases g[i']? with
  | none => rfl
  | some row =>
    by_cases hi : i = i'
    · subst hi
      by_cases hj : j = j'
      · subst hj
        simp
      · simp [hj, Ne.symm hj]
    · simp [hi, Ne.symm hi]

theorem modify_modify (g : Grid α) (i j : Nat) (f h : α → α) :
    (g.modify i j f).modify i j h = g.modify i j fun a => h (f a) := by
  simp only [modify, List.modify_modify_eq]
  congr 1
  funext row
  simp [List.modify_modify_eq, Function.comp_def]

theorem modify_id (g : Grid α) (i j : Nat) : (g.modify i j fun a => a) = g := by
  have hrow : (fun row : List α => row.modify j fun a => a) = id := by
    funext row
    exact List.modify_id j row
  rw [modify, hrow]
  exact List.modify_id i g

theorem cell?_foldl_modify {l : List Nat} (hl : l.Nodup) (g : Grid α) (i : Nat) (f : Nat → α → α)
    (i' j' : Nat) :
    (l.foldl (fun g j => g.modify i j (f j)) g).cell? i' j' =
      (g.cell? i' j').map fun a => if i' = i ∧ j' ∈ l then f j' a else a := by
  induction l generalizing g with
  | nil => simp
  | cons j l ih =>
    obtain ⟨hj, hl⟩ := List.nodup_cons.1 hl
    rw [List.foldl_cons, ih hl, cell?_modify, Option.map_map]
    congr 1
    funext a
    by_cases hi : i' = i
    · by_cases hjj : j' = j
      · subst hjj
        simp [hi, hj]
      · simp [hi, hjj]
    · simp [hi]

theorem cell?_zipWith (f : α → β → γ) (g : Grid α) (h : Grid β) (i j : Nat) :
    cell? (List.zipWith (List.zipWith f) g h) i j =
      Option.map₂ f (g.cell? i j) (h.cell? i j) := by
  rw [cell?, cell?, cell?, List.getElem?_zipWith]
  cases g[i]? with
  | none => rfl
  | some row =>
    cases h[i]? with
    | none => cases hrow : row[j]? <;> simp [hrow]
    | some row' =>
      simp only [Option.bind_some]
      rw [List.getElem?_zipWith]
      cases row[j]? <;> cases row'[j]? <;> rfl

theorem cell?_map (f : α → β) (g : Grid α) (i j : Nat) :
    cell? (List.map (List.map f) g) i j = (g.cell? i j).map f := by
  rw [cell?, cell?, List.getElem?_map]
  cases g[i]? with
  | none => rfl
  | some row => simp

theorem cell?_mapIdx (f : Nat → Nat → α → β) (g : Grid α) (i j : Nat) :
    cell? (g.mapIdx fun i row => row.mapIdx (f i)) i j = (g.cell? i j).map (f i j) := by
  rw [cell?, cell?, List.getElem?_mapIdx]
  cases g[i]? with
  | none => rfl
  | some row => simp

end Grid

theorem foldlM_eq_foldl {ε σ ι : Type*} {step : σ → ι → Except ε σ} {next : σ → ι → σ}
    (h : ∀ s i s', step s i = .ok s' → s' = next s i) {l : List ι} {s s' : σ}
    (hl : l.foldlM step s = .ok s') : s' = l.foldl next s := by
  induction l generalizing s with
  | nil =>
    cases hl
    rfl
  | cons i l ih =>
    rw [List.foldlM_cons] at hl
    cases hstep : step s i with
    | error e =>
      rw [hstep] at hl
      cases hl
    | ok t =>
      rw [hstep] at hl
      rw [List.foldl_cons, ← h s i t hstep]
      exact ih hl

/-- What a loop over the first numbers keeps, when every step takes it from one number to the next. -/
theorem foldlM_range {ε σ : Type*} {step : σ → Nat → Except ε σ} {P : Nat → σ → Prop} {s s' : σ} {n : Nat}
    (hzero : P 0 s) (hstep : ∀ k t t', P k t → step t k = .ok t' → P (k + 1) t')
    (h : (List.range n).foldlM step s = .ok s') : P n s' := by
  induction n generalizing s' with
  | zero =>
    cases h
    exact hzero
  | succ n ih =>
    rw [List.range_succ, List.foldlM_append] at h
    cases hrest : (List.range n).foldlM step s with
    | error e =>
      rw [hrest] at h
      cases h
    | ok t =>
      rw [hrest] at h
      have hlast : (step t n).bind (fun t' => .ok t') = .ok s' := h
      cases hn : step t n with
      | error e =>
        rw [hn] at hlast
        cases hlast
      | ok t' =>
        rw [hn] at hlast
        cases hlast
        exact hstep n t s' (ih hrest) hn

/-- A loop whose steps do not fail does not fail. -/
theorem foldlM_isOk {ε σ ι : Type*} {step : σ → ι → Except ε σ} {l : List ι}
    (h : ∀ s, ∀ i ∈ l, ∃ s', step s i = .ok s') (s : σ) : ∃ s', l.foldlM step s = .ok s' := by
  induction l generalizing s with
  | nil => exact ⟨s, rfl⟩
  | cons i l ih =>
    obtain ⟨t, ht⟩ := h s i (by simp)
    obtain ⟨s', hs'⟩ := ih (fun u j hj => h u j (by simp [hj])) t
    refine ⟨s', ?_⟩
    rw [List.foldlM_cons, ht]
    exact hs'

/-- A loop that works on one row of a grid is one write of that row. -/
theorem foldlM_row {α ε ι : Type*} {step : Grid α → ι → Except ε (Grid α)}
    {rowStep : List α → ι → Except ε (List α)} {b : Nat}
    (h : ∀ g row i, g[b]? = some row → step g i = (rowStep row i).map fun row' => List.set g b row')
    (l : List ι) {g : Grid α} {row : List α} (hrow : g[b]? = some row) :
    l.foldlM step g = (l.foldlM rowStep row).map fun row' => List.set g b row' := by
  induction l generalizing g row with
  | nil =>
    show Except.ok g = Except.ok (List.set g b row)
    obtain ⟨hb, hget⟩ := List.getElem?_eq_some_iff.1 hrow
    rw [← hget, List.set_getElem_self]
  | cons i l ih =>
    rw [List.foldlM_cons, List.foldlM_cons, h g row i hrow]
    cases hstep : rowStep row i with
    | error e => rfl
    | ok row' =>
      have hb := (List.getElem?_eq_some_iff.1 hrow).1
      have hnext : (List.set g b row')[b]? = some row' := List.getElem?_set_self hb
      show l.foldlM step (List.set g b row') = (l.foldlM rowStep row').map _
      rw [ih hnext]
      cases l.foldlM rowStep row' with
      | error e => rfl
      | ok row'' => simp [Except.map, List.set_set]

/-- A loop that writes the results of a list one after the other over blanks. -/
theorem foldlM_write {α ε ι : Type*} {write : ι → Except ε α} {step : List α → ι × Nat → Except ε (List α)}
    {blank : α} {start : Nat}
    (h : ∀ before after i n, before.length = start + n →
      step (before ++ blank :: after) (i, n) = (write i).map fun a => before ++ a :: after)
    (l : List ι) (m : Nat) {n : Nat} {before after : List α} (hbefore : before.length = start + n) :
    (l.zipIdx n).foldlM step (before ++ (List.replicate (l.length + m) blank ++ after)) =
      (l.mapM write).map fun written => before ++ (written ++ (List.replicate m blank ++ after)) := by
  induction l generalizing n before with
  | nil => simp [Except.map, pure, Except.pure]
  | cons i l ih =>
    have hlength : (i :: l).length + m = (l.length + m) + 1 := by
      simp only [List.length_cons]
      omega
    rw [List.zipIdx_cons, List.foldlM_cons, hlength, List.replicate_succ, List.cons_append,
      h _ _ i n hbefore, List.mapM_cons]
    cases write i with
    | error e => rfl
    | ok a =>
      have hnext : (before ++ [a]).length = start + (n + 1) := by
        rw [List.length_append, hbefore, List.length_singleton]
        omega
      have htail := ih hnext
      rw [List.append_assoc, List.singleton_append] at htail
      show (l.zipIdx (n + 1)).foldlM step (before ++ a :: _) = _
      rw [htail]
      cases l.mapM write with
      | error e => rfl
      | ok written => simp [Except.map, bind, Except.bind, pure, Except.pure]

end Cells
