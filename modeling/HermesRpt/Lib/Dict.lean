import HermesRpt.Lib.Table
import Mathlib.Data.List.Induction

/-!
# HermesRpt.Lib.Dict

Insertion-ordered dictionaries: a table of pairs whose key is the first component.

* `get?`  : the value of a key.
* `set`   : `d[k] = v`, which keeps the place of a key that is there already.
* `erase` : `d.pop(k, None)`, of a table.
* `merge` : `{**d, **e}`.
* `mapValues` : `{k: f(v) for k, v in d.items()}`.
-/

namespace Keyed

instance {κ α : Type*} : HasKey (κ × α) κ := ⟨Prod.fst⟩

/-- Keys with values, in insertion order. -/
abbrev Dict (κ α : Type*) := Table (κ × α)

namespace Dict

variable {κ α : Type*}

instance [DecidableEq κ] [DecidableEq α] : DecidableEq (Dict κ α) := fun d e =>
  decidable_of_iff (d.rows = e.rows) ⟨Table.ext, fun h => h ▸ rfl⟩

def keys (d : Dict κ α) : List κ := d.rows.map Prod.fst

def values (d : Dict κ α) : List α := d.rows.map Prod.snd

variable [DecidableEq κ]

def get? (d : Dict κ α) (k : κ) : Option α := (d.find? k).map Prod.snd

/-- `d[k] = v` -/
def set (d : Dict κ α) (k : κ) (v : α) : Dict κ α :=
  (d.insert? (k, v)).getD (d.update k (fun p => (p.1, v)) fun _ => rfl)

def merge (d e : Dict κ α) : Dict κ α := e.rows.foldl (fun acc p => set acc p.1 p.2) d

/-- `{k: v for k, v in l}` -/
def ofList (l : List (κ × α)) : Dict κ α := l.foldl (fun acc p => set acc p.1 p.2) Table.empty

/-- The same keys, each with the image of its value. -/
def mapValues {β : Type*} (f : α → β) (d : Dict κ α) : Dict κ β where
  rows := d.rows.map fun p => (p.1, f p.2)
  nodup_keys := by
    rw [List.map_map]
    exact d.nodup_keys

theorem get?_eq_some {d : Dict κ α} {k : κ} {v : α} : d.get? k = some v ↔ (k, v) ∈ d := by
  simp only [get?, Option.map_eq_some_iff, Table.find?_eq_some]
  constructor
  · rintro ⟨⟨k', v'⟩, ⟨hm, hk⟩, hv⟩
    cases hk; cases hv; exact hm
  · intro hm
    exact ⟨(k, v), ⟨hm, rfl⟩, rfl⟩

theorem mem_keys {d : Dict κ α} {k : κ} : k ∈ d.keys ↔ ∃ v, d.get? k = some v := by
  simp only [get?_eq_some, keys, List.mem_map, Table.mem_def, Prod.exists, exists_and_right,
    exists_eq_right]

theorem mem_values {d : Dict κ α} {v : α} : v ∈ d.values ↔ ∃ k, d.get? k = some v := by
  simp only [get?_eq_some, values, List.mem_map, Table.mem_def, Prod.exists, exists_eq_right]

theorem get?_eq_none {d : Dict κ α} {k : κ} : d.get? k = none ↔ k ∉ d.keys := by
  rw [mem_keys, Option.eq_none_iff_forall_ne_some]
  simp only [ne_eq, not_exists]

@[simp] theorem get?_empty (k : κ) : get? (Table.empty : Dict κ α) k = none := rfl

theorem get?_set (d : Dict κ α) (k k' : κ) (v : α) :
    (d.set k v).get? k' = if k' = k then some v else d.get? k' := by
  unfold set
  cases h : d.insert? (k, v) with
  | some d' =>
    rw [Option.getD_some, get?, Table.find?_insert? h]
    by_cases hk : k' = k
    · simp [hk, HasKey.key]
    · simp [hk, Ne.symm hk, HasKey.key, get?]
  | none =>
    rw [Option.getD_none, get?, Table.find?_update]
    by_cases hk : k' = k
    · subst hk
      cases hf : d.find? k' with
      | none =>
        obtain ⟨d', hd⟩ := Table.insert?_isSome (t := d) (r := (k', v)) hf
        rw [h] at hd; cases hd
      | some p => simp
    · simp [hk, get?]

theorem mem_keys_set {d : Dict κ α} {k k' : κ} {v : α} :
    k' ∈ (d.set k v).keys ↔ k' = k ∨ k' ∈ d.keys := by
  rw [mem_keys, get?_set, mem_keys]
  by_cases hk : k' = k
  · simp [hk]
  · simp [hk]

theorem get?_erase (d : Dict κ α) (k k' : κ) :
    get? (Table.erase d k) k' = if k' = k then none else d.get? k' := by
  rw [get?, Table.find?_erase]
  split <;> simp [get?]

/-- The last pair of a key decides. -/
theorem ofList_append_singleton (l : List (κ × α)) (p : κ × α) :
    ofList (l ++ [p]) = (ofList l).set p.1 p.2 := by
  simp [ofList]

/-- A dictionary of images, made from the same list. -/
theorem get?_ofList_map {β : Type*} (f : α → β) (l : List (κ × α)) (k : κ) :
    (ofList (l.map fun p => (p.1, f p.2))).get? k = ((ofList l).get? k).map f := by
  induction l using List.reverseRecOn with
  | nil => rfl
  | append_singleton l p ih =>
    rw [List.map_append, List.map_singleton, ofList_append_singleton, ofList_append_singleton,
      get?_set, get?_set, ih]
    split <;> rfl

theorem mem_of_get?_ofList {l : List (κ × α)} {k : κ} {v : α} (h : (ofList l).get? k = some v) :
    (k, v) ∈ l := by
  induction l using List.reverseRecOn with
  | nil => cases h
  | append_singleton l p ih =>
    rw [ofList_append_singleton, get?_set] at h
    rw [List.mem_append, List.mem_singleton]
    split at h
    · cases h
      exact .inr (by simp [*])
    · exact .inl (ih h)

/-- Of pairs with different keys, each is in the dictionary. -/
theorem get?_ofList_of_mem {l : List (κ × α)} (hl : (l.map Prod.fst).Nodup) {k : κ} {v : α}
    (h : (k, v) ∈ l) : (ofList l).get? k = some v := by
  induction l using List.reverseRecOn with
  | nil => cases h
  | append_singleton l p ih =>
    rw [List.map_append, List.map_singleton, List.nodup_append] at hl
    rw [ofList_append_singleton, get?_set]
    rcases List.mem_append.1 h with h | h
    · have hne : k ≠ p.1 := hl.2.2 k (List.mem_map_of_mem h) p.1 (List.mem_singleton_self _)
      rw [if_neg hne]
      exact ih hl.1 h
    · cases List.mem_singleton.1 h
      rw [if_pos rfl]

theorem get?_ofList_eq_some {l : List (κ × α)} (hl : (l.map Prod.fst).Nodup) {k : κ} {v : α} :
    (ofList l).get? k = some v ↔ (k, v) ∈ l :=
  ⟨mem_of_get?_ofList, get?_ofList_of_mem hl⟩

/-- Pairs with different keys may come in any order. -/
theorem get?_ofList_of_perm {l l' : List (κ × α)} (hl : (l.map Prod.fst).Nodup) (h : l.Perm l')
    (k : κ) : (ofList l).get? k = (ofList l').get? k := by
  ext v
  rw [get?_ofList_eq_some hl, get?_ofList_eq_some ((h.map Prod.fst).nodup_iff.1 hl), h.mem_iff]

theorem mem_keys_ofList {l : List (κ × α)} {k : κ} : k ∈ (ofList l).keys ↔ k ∈ l.map Prod.fst := by
  induction l using List.reverseRecOn with
  | nil => rfl
  | append_singleton l p ih =>
    rw [ofList_append_singleton, mem_keys_set, ih]
    simp [or_comm]

/-- In a dictionary of elements by a key of theirs, an element is under its key. -/
theorem mem_of_get?_byKey {key : α → κ} {l : List α} {k : κ} {a : α}
    (h : (ofList (l.map fun b => (key b, b))).get? k = some a) : a ∈ l ∧ key a = k := by
  obtain ⟨b, hb, hpair⟩ := List.mem_map.1 (mem_of_get?_ofList h)
  cases hpair
  exact ⟨hb, rfl⟩

theorem get?_byKey_eq_some {key : α → κ} {l : List α} (hl : (l.map key).Nodup) {k : κ} {a : α} :
    (ofList (l.map fun b => (key b, b))).get? k = some a ↔ a ∈ l ∧ key a = k := by
  constructor
  · exact mem_of_get?_byKey
  · rintro ⟨ha, rfl⟩
    refine get?_ofList_of_mem ?_ (List.mem_map_of_mem ha)
    rwa [List.map_map]

theorem mem_keys_byKey {key : α → κ} {l : List α} {k : κ} :
    k ∈ (ofList (l.map fun b => (key b, b))).keys ↔ k ∈ l.map key := by
  rw [mem_keys_ofList, List.map_map]
  rfl

/-- In a pass that sets the value of one key for each element, the elements of a key decide its
value. -/
theorem get?_foldl_set {β : Type*} (key : β → κ) (f : Option α → β → α) (l : List β) (d : Dict κ α)
    (k : κ) :
    (l.foldl (fun d b => d.set (key b) (f (d.get? (key b)) b)) d).get? k =
      (l.filter (key · = k)).foldl (fun v b => some (f v b)) (d.get? k) := by
  induction l generalizing d with
  | nil => rfl
  | cons b l ih =>
    rw [List.foldl_cons, ih, get?_set]
    by_cases hk : key b = k
    · rw [List.filter_cons_of_pos (by simpa using hk), List.foldl_cons, if_pos hk.symm, hk]
    · rw [List.filter_cons_of_neg (by simpa using hk), if_neg fun h => hk h.symm]

/-- The dictionary of the pairs of a dictionary is the dictionary. -/
theorem get?_ofList_rows (d : Dict κ α) (k : κ) : (ofList d.rows).get? k = d.get? k := by
  cases h : d.get? k with
  | some v => exact get?_ofList_of_mem d.nodup_keys (get?_eq_some.1 h)
  | none =>
    rw [Option.eq_none_iff_forall_ne_some]
    intro v hv
    have hmem : d.get? k = some v := get?_eq_some.2 (mem_of_get?_ofList hv)
    rw [h] at hmem
    cases hmem

/-- The second dictionary decides. -/
theorem get?_merge (d e : Dict κ α) (k : κ) : (d.merge e).get? k = (e.get? k).or (d.get? k) := by
  have hfold : ∀ l : List (κ × α),
      (l.foldl (fun acc p => set acc p.1 p.2) d).get? k = ((ofList l).get? k).or (d.get? k) := by
    intro l
    induction l using List.reverseRecOn with
    | nil => rfl
    | append_singleton l p ih =>
      rw [List.foldl_append, ofList_append_singleton, List.foldl_cons, List.foldl_nil, get?_set,
        get?_set, ih]
      split <;> rfl
  rw [merge, hfold, get?_ofList_rows]

theorem get?_ofList_singleton (p : κ × α) (k : κ) :
    (ofList [p]).get? k = if k = p.1 then some p.2 else none := by
  show get? (set (Table.empty : Dict κ α) p.1 p.2) k = _
  rw [get?_set, get?_empty]

omit [DecidableEq κ] in
theorem mapValues_congr {β : Type*} {f g : α → β} {d : Dict κ α} (h : ∀ v ∈ d.values, f v = g v) :
    d.mapValues f = d.mapValues g := by
  unfold mapValues
  congr 1
  refine List.map_congr_left fun p hp => ?_
  rw [h p.2 (List.mem_map.2 ⟨p, hp, rfl⟩)]

theorem get?_mapValues {β : Type*} (f : α → β) (d : Dict κ α) (k : κ) :
    (d.mapValues f).get? k = (d.get? k).map f := by
  simp only [get?, Table.find?, mapValues, List.find?_map, Option.map_map]
  rfl

end Dict

end Keyed
