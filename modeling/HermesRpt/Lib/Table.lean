import Mathlib.Data.List.Nodup
import Mathlib.Data.List.Basic
import Mathlib.Tactic.Common

/-!
# HermesRpt.Lib.Table

Database tables with a primary key: a list of rows in which no two rows have the same key. The
key constraint is a field of the structure, so a table with two rows of one key does not exist.

* `find?`   : the row of a key.
* `insert?` : a new row at the end; refused when its key is taken.
* `update`  : one row replaced by a row of the same key.
* `filter`  : the rows that meet a condition.
* `erase`   : the table without the row of a key.

The lemmas say what each operation does to `find?` and to membership; nothing outside this file
looks at how the rows are stored.
-/

namespace Keyed

/-- Rows of type `ρ` are identified by a key of type `κ`. -/
class HasKey (ρ : Type*) (κ : outParam Type*) where
  key : ρ → κ

structure Table (ρ : Type*) {κ : outParam Type*} [HasKey ρ κ] where
  rows : List ρ
  nodup_keys : (rows.map HasKey.key).Nodup

variable {ρ κ : Type*} [HasKey ρ κ]

open HasKey

namespace Table

instance : Membership ρ (Table ρ) := ⟨fun t r => r ∈ t.rows⟩

theorem mem_def {t : Table ρ} {r : ρ} : r ∈ t ↔ r ∈ t.rows := Iff.rfl

@[ext] theorem ext {t u : Table ρ} (h : t.rows = u.rows) : t = u := by
  cases t; cases u; cases h; rfl

def empty : Table ρ := ⟨[], List.nodup_nil⟩

instance : Inhabited (Table ρ) := ⟨empty⟩

@[simp] theorem not_mem_empty (r : ρ) : r ∉ (empty : Table ρ) := List.not_mem_nil

theorem eq_of_key_eq {t : Table ρ} {r s : ρ} (hr : r ∈ t) (hs : s ∈ t) (h : key r = key s) :
    r = s := List.inj_on_of_nodup_map t.nodup_keys hr hs h

variable [DecidableEq κ]

def find? (t : Table ρ) (k : κ) : Option ρ := t.rows.find? fun r => key r = k

theorem find?_eq_some {t : Table ρ} {k : κ} {r : ρ} : t.find? k = some r ↔ r ∈ t ∧ key r = k := by
  constructor
  · intro h
    exact ⟨List.mem_of_find?_eq_some h, by simpa using List.find?_some h⟩
  · rintro ⟨hr, rfl⟩
    cases h : t.find? (key r) with
    | none =>
      have := List.find?_eq_none.1 h r hr
      simp at this
    | some s =>
      have hk : key s = key r := by simpa using List.find?_some h
      rw [eq_of_key_eq (List.mem_of_find?_eq_some h) hr hk]

theorem find?_eq_none {t : Table ρ} {k : κ} : t.find? k = none ↔ ∀ r ∈ t, key r ≠ k := by
  rw [find?, List.find?_eq_none]
  simp [mem_def]

theorem find?_key {t : Table ρ} {r : ρ} (h : r ∈ t) : t.find? (key r) = some r :=
  find?_eq_some.2 ⟨h, rfl⟩

/-- A new row; `none` is the violation of the primary key. -/
def insert? (t : Table ρ) (r : ρ) : Option (Table ρ) :=
  if h : key r ∈ t.rows.map key then none
  else some ⟨t.rows ++ [r], by
    rw [List.map_append, List.map_singleton, ← List.concat_eq_append]
    exact t.nodup_keys.concat h⟩

theorem insert?_eq_some {t u : Table ρ} {r : ρ} :
    t.insert? r = some u ↔ t.find? (key r) = none ∧ u.rows = t.rows ++ [r] := by
  rw [insert?, find?_eq_none]
  split
  · rename_i h
    obtain ⟨s, hs, he⟩ := List.mem_map.1 h
    simp only [reduceCtorEq, false_iff, not_and]
    intro hn
    exact absurd he (hn s hs)
  · rename_i h
    constructor
    · rintro ⟨⟩
      exact ⟨fun s hs he => h (List.mem_map.2 ⟨s, hs, he⟩), rfl⟩
    · rintro ⟨_, hu⟩
      exact congrArg some (ext hu.symm)

theorem insert?_isSome {t : Table ρ} {r : ρ} (h : t.find? (key r) = none) :
    ∃ u, t.insert? r = some u := by
  rw [insert?, dif_neg]
  · exact ⟨_, rfl⟩
  · intro hm
    obtain ⟨s, hs, he⟩ := List.mem_map.1 hm
    exact find?_eq_none.1 h s hs he

theorem mem_insert? {t u : Table ρ} {r s : ρ} (h : t.insert? r = some u) :
    s ∈ u ↔ s ∈ t ∨ s = r := by
  rw [mem_def, (insert?_eq_some.1 h).2]
  simp [mem_def]

theorem find?_insert? {t u : Table ρ} {r : ρ} (h : t.insert? r = some u) (k : κ) :
    u.find? k = if key r = k then some r else t.find? k := by
  obtain ⟨hn, hu⟩ := insert?_eq_some.1 h
  split
  · rename_i hk
    exact find?_eq_some.2 ⟨(mem_insert? h).2 (.inr rfl), hk⟩
  · rename_i hk
    rw [find?, hu, List.find?_append]
    simp [hk, find?]

/-- The row of `k`, if there is one, replaced by `f` of it. -/
def update (t : Table ρ) (k : κ) (f : ρ → ρ) (hf : ∀ r, key (f r) = key r) : Table ρ :=
  ⟨t.rows.map fun r => if key r = k then f r else r, by
    have : (key ∘ fun r => if key r = k then f r else r : ρ → κ) = key := by
      funext r
      by_cases h : key r = k <;> simp [h, hf]
    rw [List.map_map, this]
    exact t.nodup_keys⟩

variable {f : ρ → ρ} {hf : ∀ r, key (f r) = key r}

theorem mem_update {t : Table ρ} {k : κ} {s : ρ} :
    s ∈ t.update k f hf ↔ ∃ r ∈ t, s = if key r = k then f r else r := by
  simp only [mem_def, update, List.mem_map, eq_comm]

theorem find?_update (t : Table ρ) (k k' : κ) :
    (t.update k f hf).find? k' = if k' = k then (t.find? k').map f else t.find? k' := by
  cases h : t.find? k' with
  | none =>
    have hn := find?_eq_none.1 h
    have : (t.update k f hf).find? k' = none := by
      rw [find?_eq_none]
      intro s hs
      obtain ⟨r, hr, rfl⟩ := mem_update.1 hs
      split <;> simp [hf, hn r hr]
    simp [this]
  | some r =>
    obtain ⟨hr, rfl⟩ := find?_eq_some.1 h
    have hm : (if key r = k then f r else r) ∈ t.update k f hf := mem_update.2 ⟨r, hr, rfl⟩
    by_cases hk : key r = k
    · rw [if_pos hk] at hm ⊢
      exact find?_eq_some.2 ⟨hm, hf r⟩
    · rw [if_neg hk] at hm ⊢
      exact find?_eq_some.2 ⟨hm, rfl⟩

/-- A replacement by equal rows changes nothing. -/
theorem update_eq_self {t : Table ρ} {k : κ} (h : ∀ r ∈ t, key r = k → f r = r) :
    t.update k f hf = t := by
  apply ext
  have : ∀ r ∈ t.rows, (if key r = k then f r else r) = r := by
    intro r hr
    split
    · rename_i hk; exact h r hr hk
    · rfl
  exact (List.map_congr_left this).trans (List.map_id' t.rows)

/-- Only what is done to the row of `k` matters. -/
theorem update_congr {t : Table ρ} {k : κ} {g : ρ → ρ} {hg : ∀ r, key (g r) = key r}
    (h : ∀ r ∈ t, key r = k → f r = g r) : t.update k f hf = t.update k g hg := by
  apply ext
  refine List.map_congr_left fun r hr => ?_
  split
  · rename_i hk; exact h r hr hk
  · rfl

/-- A replacement after a replacement of the same row. -/
theorem update_update {t : Table ρ} {k : κ} {g : ρ → ρ} {hg : ∀ r, key (g r) = key r} :
    (t.update k f hf).update k g hg =
      t.update k (fun r => g (f r)) (fun r => (hg (f r)).trans (hf r)) := by
  apply ext
  refine (List.map_map ..).trans (List.map_congr_left fun r _ => ?_)
  by_cases hk : key r = k
  · simp [hk, hf]
  · simp [hk]

/-- A query that finds the row of `k` neither before nor after the replacement. -/
theorem filter_update {t : Table ρ} {k : κ} {p : ρ → Bool}
    (h : ∀ r ∈ t, key r = k → p r = false ∧ p (f r) = false) :
    (t.update k f hf).rows.filter p = t.rows.filter p := by
  rw [update, List.filter_map]
  have hp : ∀ r ∈ t.rows, (p ∘ fun r => if key r = k then f r else r) r = p r := by
    intro r hr
    by_cases hk : key r = k
    · simp [hk, h r hr hk]
    · simp [hk]
  rw [List.filter_congr hp]
  refine (List.map_congr_left fun r hr => ?_).trans (List.map_id' _)
  obtain ⟨hr, hpr⟩ := List.mem_filter.1 hr
  split
  · rename_i hk
    rw [(h r hr hk).1] at hpr
    cases hpr
  · rfl

/-- The rows that meet `p`. -/
def filter (t : Table ρ) (p : ρ → Bool) : Table ρ :=
  ⟨t.rows.filter p, t.nodup_keys.sublist (List.filter_sublist.map key)⟩

omit [DecidableEq κ] in
theorem mem_filter {t : Table ρ} {p : ρ → Bool} {r : ρ} : r ∈ t.filter p ↔ r ∈ t ∧ p r = true := by
  simp [mem_def, filter]

/-- Without the row of `k`, if there is one. -/
def erase (t : Table ρ) (k : κ) : Table ρ := t.filter fun r => key r ≠ k

theorem mem_erase {t : Table ρ} {k : κ} {r : ρ} : r ∈ t.erase k ↔ r ∈ t ∧ key r ≠ k := by
  simp [erase, mem_filter]

theorem find?_erase (t : Table ρ) (k k' : κ) :
    (t.erase k).find? k' = if k' = k then none else t.find? k' := by
  split
  · rename_i hk
    rw [find?_eq_none]
    intro r hr he
    exact (mem_erase.1 hr).2 (he.trans hk)
  · rename_i hk
    cases h : t.find? k' with
    | none =>
      rw [find?_eq_none]
      intro r hr
      exact find?_eq_none.1 h r (mem_erase.1 hr).1
    | some r =>
      obtain ⟨hr, rfl⟩ := find?_eq_some.1 h
      exact find?_eq_some.2 ⟨mem_erase.2 ⟨hr, hk⟩, rfl⟩

end Table

end Keyed
