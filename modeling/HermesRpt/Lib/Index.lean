import HermesRpt.Lib.Table

/-!
# HermesRpt.Lib.Index

Tables with a unique constraint besides the primary key. The constraint is a field of the structure;
a row without an index value is exempt from it, as a row with a `NULL` is.

* `Indexed` : a table and its unique index.
* `lookup`  : the row of an index value.
* `insert?`, `update` : the writes that keep the constraint.
-/

namespace Keyed

variable {ρ κ ι : Type} [HasKey ρ κ] {index : ρ → Option ι}

open HasKey

structure Indexed (ρ : Type) {κ : Type} [HasKey ρ κ] {ι : Type} (index : ρ → Option ι) where
  table : Table ρ
  unique : ∀ r ∈ table, ∀ s ∈ table, ∀ i, index r = some i → index s = some i → r = s

namespace Indexed

def empty : Indexed ρ index := ⟨Table.empty, fun r hr => absurd hr (Table.not_mem_empty r)⟩

instance : Membership ρ (Indexed ρ index) := ⟨fun t r => r ∈ t.table⟩

theorem mem_def {t : Indexed ρ index} {r : ρ} : r ∈ t ↔ r ∈ t.table := Iff.rfl

theorem eq_of_index {t : Indexed ρ index} {r s : ρ} {i : ι} (hr : r ∈ t) (hs : s ∈ t)
    (hri : index r = some i) (hsi : index s = some i) : r = s := t.unique r hr s hs i hri hsi

/-- The index value of `r` is free. -/
def Free (t : Indexed ρ index) (r : ρ) : Prop :=
  ∀ s ∈ t.table.rows, index r = none ∨ index s ≠ index r

section

variable [DecidableEq ι]

/-- The row with the index value `i`. -/
def lookup (t : Indexed ρ index) (i : ι) : Option ρ := t.table.rows.find? fun r => index r = some i

theorem lookup_eq_some {t : Indexed ρ index} {i : ι} {r : ρ} :
    t.lookup i = some r ↔ r ∈ t ∧ index r = some i := by
  constructor
  · intro h
    exact ⟨List.mem_of_find?_eq_some h, by simpa using List.find?_some h⟩
  · rintro ⟨hr, hi⟩
    cases h : t.lookup i with
    | none =>
      have hnone := List.find?_eq_none.1 h r hr
      simp [hi] at hnone
    | some s =>
      have hs : index s = some i := by simpa using List.find?_some h
      rw [eq_of_index (List.mem_of_find?_eq_some h) hr hs hi]

instance (t : Indexed ρ index) (r : ρ) : Decidable (t.Free r) :=
  inferInstanceAs (Decidable (∀ s ∈ t.table.rows, _))

end

variable [DecidableEq κ]

theorem Free.unique {t : Indexed ρ index} {r : ρ} {u : Table ρ} (hfree : t.Free r)
    (hu : t.table.insert? r = some u) :
    ∀ a ∈ u, ∀ b ∈ u, ∀ i, index a = some i → index b = some i → a = b := by
  have hnew : ∀ s ∈ t.table, ∀ i, index s = some i → index r ≠ some i := by
    intro s hs i hsi hri
    rcases hfree s hs with hn | hn
    · rw [hn] at hri
      cases hri
    · exact hn (hsi.trans hri.symm)
  intro a ha b hb i hai hbi
  rcases (Table.mem_insert? hu).1 ha with ha | rfl
  · rcases (Table.mem_insert? hu).1 hb with hb | rfl
    · exact t.unique a ha b hb i hai hbi
    · exact absurd hbi (hnew a ha i hai)
  · rcases (Table.mem_insert? hu).1 hb with hb | rfl
    · exact absurd hai (hnew b hb i hbi)
    · rfl

/-- The row of `k`, if there is one, replaced by `f` of it. -/
def update (t : Indexed ρ index) (k : κ) (f : ρ → ρ) (hf : ∀ r, key (f r) = key r)
    (hi : ∀ r, index (f r) = index r) : Indexed ρ index :=
  ⟨t.table.update k f hf, by
    intro a ha b hb i hai hbi
    obtain ⟨r, hr, rfl⟩ := Table.mem_update.1 ha
    obtain ⟨s, hs, rfl⟩ := Table.mem_update.1 hb
    have hindex : ∀ r : ρ, index (if key r = k then f r else r) = index r := by
      intro r
      split
      · exact hi r
      · rfl
    rw [hindex] at hai hbi
    rw [t.unique r hr s hs i hai hbi]⟩

theorem mem_update {t : Indexed ρ index} {k : κ} {f : ρ → ρ} {hf : ∀ r, key (f r) = key r}
    {hi : ∀ r, index (f r) = index r} {s : ρ} :
    s ∈ t.update k f hf hi ↔ ∃ r ∈ t, s = if key r = k then f r else r :=
  @Table.mem_update ρ κ _ _ f hf t.table k s

variable [DecidableEq ι]

/-- A new row, unless its key or its index value is taken. -/
def insert? (t : Indexed ρ index) (r : ρ) : Option (Indexed ρ index) :=
  if hfree : t.Free r then
    match hu : t.table.insert? r with
    | some u => some ⟨u, hfree.unique hu⟩
    | none => none
  else none

theorem insert?_eq_some {t u : Indexed ρ index} {r : ρ} :
    t.insert? r = some u ↔ t.Free r ∧ t.table.insert? r = some u.table := by
  unfold insert?
  split
  · rename_i hfree
    split
    · rename_i v hv
      constructor
      · intro h
        cases h
        exact ⟨hfree, hv⟩
      · rintro ⟨-, h⟩
        obtain rfl : v = u.table := Option.some.inj (hv.symm.trans h)
        rfl
    · rename_i hv
      simp [hv]
  · rename_i hfree
    simp [hfree]

omit [DecidableEq κ] in
/-- An index value that no row has is free. -/
theorem free_of_lookup {t : Indexed ρ index} {r : ρ} {i : ι} (hi : index r = some i)
    (h : t.lookup i = none) : t.Free r := by
  intro s hs
  refine .inr fun heq => ?_
  rw [lookup_eq_some.2 ⟨hs, heq.trans hi⟩] at h
  cases h

theorem insert?_isSome {t : Indexed ρ index} {r : ρ} (hfree : t.Free r)
    (hkey : t.table.find? (key r) = none) : ∃ u, t.insert? r = some u := by
  obtain ⟨u, hu⟩ := Table.insert?_isSome hkey
  exact ⟨⟨u, hfree.unique hu⟩, insert?_eq_some.2 ⟨hfree, hu⟩⟩

theorem mem_insert? {t u : Indexed ρ index} {r s : ρ} (h : t.insert? r = some u) :
    s ∈ u ↔ s ∈ t ∨ s = r := Table.mem_insert? (insert?_eq_some.1 h).2

theorem key_ne_of_insert? {t u : Indexed ρ index} {r s : ρ} (h : t.insert? r = some u)
    (hs : s ∈ t) : key s ≠ key r :=
  Table.find?_eq_none.1 (Table.insert?_eq_some.1 (insert?_eq_some.1 h).2).1 s hs

/-- An update of the row that was just inserted. -/
theorem mem_update_insert? {t u : Indexed ρ index} {r s : ρ} {f : ρ → ρ}
    (hf : ∀ r, key (f r) = key r) (hi : ∀ r, index (f r) = index r) (h : t.insert? r = some u) :
    s ∈ u.update (key r) f hf hi ↔ s ∈ t ∨ s = f r := by
  rw [mem_update]
  constructor
  · rintro ⟨a, ha, rfl⟩
    rcases (mem_insert? h).1 ha with ha | rfl
    · rw [if_neg (key_ne_of_insert? h ha)]
      exact .inl ha
    · rw [if_pos rfl]
      exact .inr rfl
  · rintro (hs | rfl)
    · exact ⟨s, (mem_insert? h).2 (.inl hs), by rw [if_neg (key_ne_of_insert? h hs)]⟩
    · exact ⟨r, (mem_insert? h).2 (.inr rfl), by rw [if_pos rfl]⟩

theorem rows_update_insert? {t u : Indexed ρ index} {r : ρ} {f : ρ → ρ}
    (hf : ∀ r, key (f r) = key r) (hi : ∀ r, index (f r) = index r) (h : t.insert? r = some u) :
    (u.update (key r) f hf hi).table.rows = t.table.rows ++ [f r] := by
  have hrows : u.table.rows = t.table.rows ++ [r] :=
    (Table.insert?_eq_some.1 (insert?_eq_some.1 h).2).2
  have hold : ∀ s ∈ t.table.rows, (if key s = key r then f s else s) = s := by
    intro s hs
    rw [if_neg (key_ne_of_insert? h hs)]
  show u.table.rows.map _ = _
  rw [hrows, List.map_append, List.map_congr_left hold, List.map_id', List.map_singleton, if_pos rfl]

/-! ## The index after a write -/

theorem lookup_insert? {t u : Indexed ρ index} {r : ρ} (h : t.insert? r = some u) (i : ι) :
    u.lookup i = if index r = some i then some r else t.lookup i := by
  ext s
  rw [lookup_eq_some, mem_insert? h]
  by_cases hr : index r = some i
  · rw [if_pos hr]
    constructor
    · rintro ⟨hs | rfl, hi⟩
      · rcases (insert?_eq_some.1 h).1 s hs with hnone | hne
        · rw [hnone] at hr
          cases hr
        · exact absurd (hi.trans hr.symm) hne
      · rfl
    · rintro ⟨⟩
      exact ⟨.inr rfl, hr⟩
  · rw [if_neg hr, lookup_eq_some]
    constructor
    · rintro ⟨hs | rfl, hi⟩
      · exact ⟨hs, hi⟩
      · exact absurd hi hr
    · rintro ⟨hs, hi⟩
      exact ⟨.inl hs, hi⟩

theorem lookup_update {t : Indexed ρ index} {k : κ} {f : ρ → ρ} {hf : ∀ r, key (f r) = key r}
    {hi : ∀ r, index (f r) = index r} (i : ι) :
    (t.update k f hf hi).lookup i = (t.lookup i).map fun r => if key r = k then f r else r := by
  ext s
  rw [lookup_eq_some, mem_update, Option.map_eq_some_iff]
  have hindex : ∀ r, index (if key r = k then f r else r) = index r := by
    intro r
    split
    · exact hi r
    · rfl
  constructor
  · rintro ⟨⟨r, hr, rfl⟩, hs⟩
    rw [hindex] at hs
    exact ⟨r, lookup_eq_some.2 ⟨hr, hs⟩, rfl⟩
  · rintro ⟨r, hr, rfl⟩
    obtain ⟨hmem, hs⟩ := lookup_eq_some.1 hr
    exact ⟨⟨r, hmem, rfl⟩, (hindex r).trans hs⟩

omit [DecidableEq κ] in
/-- The rows of an index value. -/
theorem filter_index (t : Indexed ρ index) (i : ι) :
    (t.table.rows.filter fun r => index r = some i) = (t.lookup i).toList := by
  have hnodup : (t.table.rows.filter fun r => index r = some i).Nodup :=
    (List.Nodup.of_map _ t.table.nodup_keys).filter _
  have hmem : ∀ r ∈ t.table.rows.filter (fun r => index r = some i), t.lookup i = some r := by
    intro r hr
    obtain ⟨hr, hi⟩ := List.mem_filter.1 hr
    exact lookup_eq_some.2 ⟨hr, of_decide_eq_true hi⟩
  have hhead : (t.table.rows.filter fun r => index r = some i).head? = t.lookup i :=
    List.head?_filter
  cases hfilter : t.table.rows.filter fun r => index r = some i with
  | nil =>
    rw [← hhead, hfilter]
    rfl
  | cons r rest =>
    rw [hfilter] at hnodup hmem
    have hr := hmem r List.mem_cons_self
    cases rest with
    | nil => rw [hr, Option.toList_some]
    | cons s rest =>
      have hs := hmem s (List.mem_cons_of_mem _ List.mem_cons_self)
      obtain rfl : r = s := Option.some.inj (hr.symm.trans hs)
      exact absurd List.mem_cons_self (List.nodup_cons.1 hnodup).1

end Indexed

end Keyed
