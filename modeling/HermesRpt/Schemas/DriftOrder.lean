import HermesRpt.Lib.Reordered
import HermesRpt.Schemas.ColumnDrift

/-!
# HermesRpt.Schemas.DriftOrder

Whether a comparison of two discoveries depends on the order of anything: of the tables, of their
columns, or of the set of added names, in which the search for the target of a rename goes through
the added tables.

* `Rearranged`            : a discovery with its tables and columns in another order.
* `OrderIndependent`      : no order shows in the events.
* `SoleTarget`            : what a search in any order finds.
* `order_independent_iff` : no order shows exactly if every search has one answer.
-/

namespace HermesRpt

namespace Schemas

open Reordering
open Keyed (Dict)

/-- A table with its columns in another order. -/
def ReorderedColumns (t u : TableMetadata) : Prop :=
  ∃ columns, t.columns.Perm columns ∧ u = { t with columns }

structure Rearranged (result result' : SchemaIntrospectionResult) : Prop where
  schemas : result.schemas = result'.schemas
  tables : Reordered ReorderedColumns result.tables result'.tables

/-- An order in which sets are iterated. -/
structure SetOrder where
  order : List String → List String
  perm : ∀ l, (order l).Perm l

def withSetOrder (std : Stdlib) (o : SetOrder) : Stdlib :=
  { std with setOrder := o.order, mem_setOrder := fun l _ => (o.perm l).mem_iff }

/-- The events do not depend on any order. -/
def OrderIndependent (std : Stdlib) (old new : SchemaIntrospectionResult) : Prop :=
  ∀ o o' old' new', Rearranged old old' → Rearranged new new' →
    compareSnapshots (withSetOrder std o') old' new' = compareSnapshots (withSetOrder std o) old new

/-- In some order, the table of this name is `t`. -/
def Taken (result : SchemaIntrospectionResult) (name : String) (t : TableMetadata) : Prop :=
  ∃ t₀ ∈ result.tables, t₀.qualifiedName = name ∧ ReorderedColumns t₀ t

/-- No added table is similar enough to the removed one; or those of one name are, and each of them
is more similar than all of other names. -/
def SoleTarget (std : Stdlib) (old new : SchemaIntrospectionResult) (t : TableMetadata) :
    Option String → Prop
  | none => ∀ u, OnlyIn new old u → similarity std t u < renameSimilarityThreshold
  | some name => (∃ u, OnlyIn new old u ∧ u.qualifiedName = name) ∧
      ∀ u, OnlyIn new old u → u.qualifiedName = name →
        renameSimilarityThreshold ≤ similarity std t u ∧
          ∀ v, OnlyIn new old v → v.qualifiedName ≠ name → similarity std t v < similarity std t u

/-- Every removed table has one target at most. Where several tables have one name, or several
columns of a table, it makes no difference which of them is taken. -/
structure Unambiguous (std : Stdlib) (old new : SchemaIntrospectionResult) : Prop where
  target : ∀ name ∈ namesOnlyIn old new, ∃ target, ∀ t ∈ old.tables, t.qualifiedName = name →
    SoleTarget std old new t target
  common : ∀ name t t' u u', Taken old name t → Taken old name t' → Taken new name u →
    Taken new name u' → tableEvents name t u = tableEvents name t' u'

/-- The name of the target of a removed name. -/
def targetOf (std : Stdlib) (old new : SchemaIntrospectionResult) (name : String) : Option String :=
  ((tablesByName old).get? name).bind fun t =>
    (Best.best (similarity std t) renameSimilarityThreshold (addedTables std old new)).map
      (·.qualifiedName)

section

variable {std : Stdlib} {o o' : SetOrder} {old new old' new' result result' : SchemaIntrospectionResult}
  {name : String} {t t' u u' : TableMetadata}

/-! ## Rearrangements -/

theorem ReorderedColumns.refl (t : TableMetadata) : ReorderedColumns t t :=
  ⟨t.columns, .refl _, rfl⟩

theorem ReorderedColumns.qualifiedName_eq (h : ReorderedColumns t u) :
    t.qualifiedName = u.qualifiedName := by
  obtain ⟨columns, -, rfl⟩ := h
  rfl

theorem ReorderedColumns.fingerprintSet_eq (h : ReorderedColumns t u) :
    columnFingerprintSet std t = columnFingerprintSet std u := by
  obtain ⟨columns, hperm, rfl⟩ := h
  exact List.toFinset_eq_of_perm _ _ (hperm.map _)

theorem similarity_reordered (ht : ReorderedColumns t t') (hu : ReorderedColumns u u') :
    similarity std t u = similarity std t' u' := by
  rw [similarity, similarity, ht.fingerprintSet_eq, hu.fingerprintSet_eq]

theorem Rearranged.refl (result : SchemaIntrospectionResult) : Rearranged result result :=
  ⟨rfl, Reordered.refl ReorderedColumns.refl _⟩

theorem Rearranged.names (h : Rearranged result result') :
    name ∈ result'.tables.map (·.qualifiedName) ↔ name ∈ result.tables.map (·.qualifiedName) := by
  have hperm := h.tables.map_perm (f := (·.qualifiedName)) fun t u htu => htu.qualifiedName_eq
  exact hperm.symm.mem_iff

theorem Rearranged.taken (h : Rearranged result result')
    (hget : (tablesByName result').get? name = some t) : Taken result name t := by
  obtain ⟨ht, rfl⟩ := table_of_get? hget
  obtain ⟨t₀, ht₀, hreordered⟩ := h.tables.exists_of_mem ht
  exact ⟨t₀, ht₀, hreordered.qualifiedName_eq, hreordered⟩

theorem exists_get? (h : name ∈ result.tables.map (·.qualifiedName)) :
    ∃ t, (tablesByName result).get? name = some t :=
  Dict.mem_keys.1 (mem_keys_tablesByName.2 h)

theorem namesOnlyIn_perm (hold : Rearranged old old') (hnew : Rearranged new new') :
    (namesOnlyIn old' new').Perm (namesOnlyIn old new) := by
  refine (List.perm_ext_iff_of_nodup nodup_namesOnlyIn nodup_namesOnlyIn).2 fun name => ?_
  rw [mem_namesOnlyIn, mem_namesOnlyIn, hold.names, hnew.names]

theorem commonNames_perm (hold : Rearranged old old') (hnew : Rearranged new new') :
    (commonNames old' new').Perm (commonNames old new) := by
  refine (List.perm_ext_iff_of_nodup nodup_commonNames nodup_commonNames).2 fun name => ?_
  simp only [commonNames, List.mem_filter, decide_eq_true_eq, mem_keys_tablesByName, hold.names,
    hnew.names]

theorem Taken.onlyIn (h : Taken new name u) (hname : name ∈ namesOnlyIn new old) :
    ∃ u₀, OnlyIn new old u₀ ∧ u₀.qualifiedName = name ∧ ReorderedColumns u₀ u := by
  obtain ⟨u₀, hu₀, rfl, hreordered⟩ := h
  exact ⟨u₀, ⟨hu₀, (mem_namesOnlyIn.1 hname).2⟩, rfl, hreordered⟩

/-- The last table of a name is taken for it. -/
theorem tablesByName_last {schemas : List String} {tables : List TableMetadata} :
    (tablesByName { schemas, tables := tables ++ [t] }).get? t.qualifiedName = some t := by
  rw [tablesByName, List.map_append, List.map_singleton, Dict.ofList_append_singleton,
    Dict.get?_set, if_pos rfl]

theorem tablesByName_last_two {schemas : List String} {tables : List TableMetadata}
    (hne : t.qualifiedName ≠ u.qualifiedName) :
    (tablesByName { schemas, tables := tables ++ [t, u] }).get? t.qualifiedName = some t := by
  have hsplit : tables ++ [t, u] = (tables ++ [t]) ++ [u] := by simp
  rw [tablesByName, hsplit, List.map_append, List.map_singleton, Dict.ofList_append_singleton,
    Dict.get?_set, if_neg hne]
  exact @tablesByName_last t schemas tables

/-- Any table of a name may be the one that is taken for it. -/
theorem exists_rearranged (h : Taken result name t) :
    ∃ result', Rearranged result result' ∧ (tablesByName result').get? name = some t := by
  obtain ⟨t₀, ht₀, rfl, hreordered⟩ := h
  refine ⟨{ result with tables := result.tables.erase t₀ ++ [t] },
    ⟨rfl, Reordered.last ReorderedColumns.refl ht₀ hreordered⟩, ?_⟩
  rw [hreordered.qualifiedName_eq]
  exact tablesByName_last

theorem exists_rearranged_two (ht : t ∈ result.tables) (hu : u ∈ result.tables)
    (hne : t.qualifiedName ≠ u.qualifiedName) :
    ∃ result', Rearranged result result' ∧
      (tablesByName result').get? t.qualifiedName = some t ∧
      (tablesByName result').get? u.qualifiedName = some u := by
  have htables : t ≠ u := fun heq => hne (heq ▸ rfl)
  refine ⟨{ result with tables := (result.tables.erase t).erase u ++ [t, u] },
    ⟨rfl, Reordered.last_two ReorderedColumns.refl ht hu htables (.refl t) (.refl u)⟩,
    tablesByName_last_two hne, ?_⟩
  have hsplit : (result.tables.erase t).erase u ++ [t, u] =
      ((result.tables.erase t).erase u ++ [t]) ++ [u] := by simp
  rw [hsplit]
  exact tablesByName_last

/-! ## The targets of renames -/

theorem renamedPairs_eq : renamedPairs std old new = (sortedStrs (namesOnlyIn old new)).filterMap
    fun name => (targetOf std old new name).map (name, ·) := by
  rw [renamedPairs]
  refine List.filterMap_congr fun name _ => ?_
  rw [targetOf]
  simp only [likelyRenameTarget_eq]
  cases (tablesByName old).get? name with
  | none => rfl
  | some t =>
    rw [Option.bind_some]
    show (Best.best (similarity std t) renameSimilarityThreshold (addedTables std old new)).bind
      (fun target => some (name, target.qualifiedName)) = _
    cases Best.best (similarity std t) renameSimilarityThreshold (addedTables std old new) <;> rfl

theorem mem_renamedPairs_iff {p : String × String} : p ∈ renamedPairs std old new ↔
    p.1 ∈ namesOnlyIn old new ∧ targetOf std old new p.1 = some p.2 := by
  obtain ⟨name, target⟩ := p
  rw [renamedPairs_eq, List.mem_filterMap]
  simp only [mem_sortedStrs, Option.map_eq_some_iff, Prod.mk.injEq]
  constructor
  · rintro ⟨name', hname, target', htarget, rfl, rfl⟩
    exact ⟨hname, htarget⟩
  · rintro ⟨hname, htarget⟩
    exact ⟨name, hname, target, htarget, rfl, rfl⟩

/-- The candidates of a search are the added tables, one of each name. -/
theorem mem_addedTables_rearranged (hold : Rearranged old old') (hnew : Rearranged new new') :
    u ∈ addedTables std old' new' ↔
      u.qualifiedName ∈ namesOnlyIn new old ∧
        (tablesByName new').get? u.qualifiedName = some u := by
  rw [mem_addedTables]
  simp only [(namesOnlyIn_perm hnew hold).mem_iff]
  constructor
  · rintro ⟨name, hname, hget⟩
    obtain ⟨-, rfl⟩ := table_of_get? hget
    exact ⟨hname, hget⟩
  · rintro ⟨hname, hget⟩
    exact ⟨_, hname, hget⟩

/-- A search with one answer finds it in every order. -/
theorem targetOf_sole (hold : Rearranged old old') (hnew : Rearranged new new') {target : Option String}
    (hname : name ∈ namesOnlyIn old new)
    (hsole : ∀ t ∈ old.tables, t.qualifiedName = name → SoleTarget std old new t target) :
    targetOf (withSetOrder std o) old' new' name = target := by
  obtain ⟨t', hget⟩ : ∃ t, (tablesByName old').get? name = some t :=
    exists_get? (hold.names.2 (mem_namesOnlyIn.1 hname).1)
  obtain ⟨t, ht, hqualified, hreordered⟩ := hold.taken hget
  have hsole := hsole t ht hqualified
  have hcandidate : ∀ u ∈ addedTables (withSetOrder std o) old' new', ∃ u₀, OnlyIn new old u₀ ∧
      u₀.qualifiedName = u.qualifiedName ∧ similarity std t' u = similarity std t u₀ := by
    intro u hu
    obtain ⟨hname, hget⟩ := (mem_addedTables_rearranged hold hnew).1 hu
    obtain ⟨u₀, honly, hqualified, hcolumns⟩ := (hnew.taken hget).onlyIn hname
    exact ⟨u₀, honly, hqualified, (similarity_reordered hreordered hcolumns).symm⟩
  rw [targetOf, hget, Option.bind_some]
  change (Best.best (similarity std t') renameSimilarityThreshold _).map _ = target
  cases target with
  | none =>
    rw [Option.map_eq_none_iff, Best.best_eq_none]
    intro u hu
    obtain ⟨u₀, honly, -, hsimilar⟩ := hcandidate u hu
    rw [hsimilar]
    exact hsole u₀ honly
  | some m =>
    obtain ⟨⟨w, hw, hwm⟩, hbest⟩ := hsole
    have hm : m ∈ namesOnlyIn new old := hwm ▸ hw.mem_names
    obtain ⟨c, hc⟩ : ∃ u, (tablesByName new').get? m = some u :=
      exists_get? (hnew.names.2 (mem_namesOnlyIn.1 hm).1)
    obtain ⟨-, rfl⟩ := table_of_get? hc
    have hmem : c ∈ addedTables (withSetOrder std o) old' new' :=
      (mem_addedTables_rearranged hold hnew).2 ⟨hm, hc⟩
    obtain ⟨c₀, hc₀, hqualified₀, hsimilar₀⟩ := hcandidate c hmem
    obtain ⟨hreaches, hlt⟩ := hbest c₀ hc₀ hqualified₀
    cases hresult : Best.best (similarity std t') renameSimilarityThreshold
        (addedTables (withSetOrder std o) old' new') with
    | none =>
      have hlow := Best.best_eq_none.1 hresult c hmem
      rw [hsimilar₀] at hlow
      exact absurd hreaches (not_le.2 hlow)
    | some b =>
      have hfirst := Best.best_some hresult
      obtain ⟨b₀, hb₀, hqualified', hsimilar'⟩ := hcandidate b hfirst.mem
      by_contra hne
      have hne : b₀.qualifiedName ≠ c.qualifiedName := fun heq => hne (by rw [← heq, hqualified']; rfl)
      have hless := hlt b₀ hb₀ hne
      have hle := hfirst.le hmem
      rw [hsimilar', hsimilar₀] at hle
      exact absurd hle (not_le.2 hless)

/-! ## What shows an order -/

/-- When no order shows, every order finds the same targets. -/
theorem OrderIndependent.targetOf_eq (h : OrderIndependent std old new) (hold : Rearranged old old')
    (hnew : Rearranged new new') (hname : name ∈ namesOnlyIn old new) :
    targetOf (withSetOrder std o') old' new' name = targetOf (withSetOrder std o) old new name := by
  have hevents := h o o' old' new' hold hnew
  ext m
  have hpair := @renameEvent_mem_iff (withSetOrder std o') old' new' name m
  rw [hevents, renameEvent_mem_iff, mem_renamedPairs_iff, mem_renamedPairs_iff] at hpair
  simpa [hname, (namesOnlyIn_perm hold hnew).mem_iff] using hpair.symm

/-- The order that puts one name first. -/
def frontOrder (name : String) : SetOrder where
  order l := if name ∈ l then name :: l.erase name else l
  perm l := by
    by_cases h : name ∈ l
    · simpa only [if_pos h] using (List.perm_cons_erase h).symm
    · simp only [if_neg h]
      exact .refl l

/-- A search starts with the table of the name that comes first. -/
theorem addedTables_front (h : name ∈ namesOnlyIn new old)
    (hget : (tablesByName new).get? name = some u) :
    ∃ rest, addedTables (withSetOrder std (frontOrder name)) old new = u :: rest := by
  refine ⟨((namesOnlyIn new old).erase name).filterMap (tablesByName new).get?, ?_⟩
  show ((if name ∈ namesOnlyIn new old then name :: (namesOnlyIn new old).erase name
    else namesOnlyIn new old)).filterMap _ = _
  rw [if_pos h, List.filterMap_cons_some hget]

/-- The answer of one order is the answer of every search for a table of the name, with the tables
of `new'` as candidates. -/
theorem OrderIndependent.search_eq (h : OrderIndependent std old new) (hold : Rearranged old old')
    (hget : (tablesByName old').get? name = some t) (hname : name ∈ namesOnlyIn old new)
    (hnew : Rearranged new new') (o' : SetOrder) :
    (Best.best (similarity std t) renameSimilarityThreshold
        (addedTables (withSetOrder std o') old' new')).map (·.qualifiedName) =
      targetOf (withSetOrder std o) old new name := by
  have htargets : targetOf (withSetOrder std o') old' new' name =
      targetOf (withSetOrder std o) old new name := h.targetOf_eq hold hnew hname
  rw [← htargets, targetOf, hget, Option.bind_some]
  rfl

/-- Of each name one table is a candidate. -/
theorem eq_of_mem_addedTables (hold : Rearranged old old') (hnew : Rearranged new new')
    (ht : t ∈ addedTables std old' new') (hget : (tablesByName new').get? u.qualifiedName = some u)
    (hqualified : t.qualifiedName = u.qualifiedName) : t = u := by
  have ht := ((mem_addedTables_rearranged hold hnew).1 ht).2
  rw [hqualified, hget] at ht
  exact (Option.some.inj ht).symm

/-- So every search has that one answer. -/
theorem OrderIndependent.soleTarget (h : OrderIndependent std old new)
    (hname : name ∈ namesOnlyIn old new) (ht : t ∈ old.tables) (hqualified : t.qualifiedName = name) :
    SoleTarget std old new t (targetOf (withSetOrder std o) old new name) := by
  obtain ⟨old', hold, hget⟩ := exists_rearranged ⟨t, ht, hqualified, .refl t⟩
  cases htarget : targetOf (withSetOrder std o) old new name with
  | none =>
    intro u hu
    obtain ⟨new', hnew, hgetu⟩ := exists_rearranged ⟨u, hu.1, rfl, .refl u⟩
    have hnone := (h.search_eq hold hget hname hnew o).trans htarget
    rw [Option.map_eq_none_iff, Best.best_eq_none] at hnone
    exact hnone u ((mem_addedTables_rearranged hold hnew).2 ⟨hu.mem_names, hgetu⟩)
  | some m =>
    refine ⟨?_, fun u hu hum => ⟨?_, fun v hv hvm => ?_⟩⟩
    · obtain ⟨b, hbest, hbm⟩ := Option.map_eq_some_iff.1
        ((h.search_eq hold hget hname (.refl new) o).trans htarget)
      obtain ⟨hbname, hgetb⟩ := (mem_addedTables_rearranged hold (.refl new)).1
        (Best.best_some hbest).mem
      exact ⟨b, ⟨(table_of_get? hgetb).1, (mem_namesOnlyIn.1 hbname).2⟩, hbm⟩
    · obtain ⟨new', hnew, hgetu⟩ := exists_rearranged ⟨u, hu.1, rfl, .refl u⟩
      obtain ⟨b, hbest, hbm⟩ := Option.map_eq_some_iff.1
        ((h.search_eq hold hget hname hnew o).trans htarget)
      have hfirst := Best.best_some hbest
      obtain rfl := eq_of_mem_addedTables hold hnew hfirst.mem hgetu (hbm.trans hum.symm)
      exact hfirst.reaches
    · -- with the other candidate at the front, only a higher similarity leads to `u`
      obtain ⟨new', hnew, hgetu, hgetv⟩ := exists_rearranged_two hu.1 hv.1
        fun heq => hvm (heq ▸ hum)
      obtain ⟨b, hbest, hbm⟩ := Option.map_eq_some_iff.1
        ((h.search_eq hold hget hname hnew (frontOrder v.qualifiedName)).trans htarget)
      have hfirst := Best.best_some hbest
      obtain rfl := eq_of_mem_addedTables hold hnew hfirst.mem hgetu (hbm.trans hum.symm)
      have hvname := (namesOnlyIn_perm hnew hold).mem_iff.2 hv.mem_names
      obtain ⟨rest, hrest⟩ := @addedTables_front std _ _ _ _ hvname hgetv
      rw [hrest] at hfirst
      exact hfirst.head_lt fun heq => hvm (heq ▸ hum)

/-- When no order shows, tables of one name lead to the same events. -/
theorem OrderIndependent.common (h : OrderIndependent std old new) (ht : Taken old name t)
    (ht' : Taken old name t') (hu : Taken new name u) (hu' : Taken new name u') :
    tableEvents name t u = tableEvents name t' u' := by
  have hevents : ∀ {t u}, Taken old name t → Taken new name u →
      eventsOn (compareSnapshots (withSetOrder std (frontOrder name)) old new) name =
        tableEvents name t u := by
    intro t u ht hu
    obtain ⟨old', hold, hgett⟩ := exists_rearranged ht
    obtain ⟨new', hnew, hgetu⟩ := exists_rearranged hu
    rw [← h (frontOrder name) (frontOrder name) old' new' hold hnew]
    exact eventsOn_common hgett hgetu
  exact (hevents ht hu).symm.trans (hevents ht' hu')

/-- With one answer for every search, no order shows. -/
theorem Unambiguous.orderIndependent (h : Unambiguous std old new) :
    OrderIndependent std old new := by
  intro o o' old' new' hold hnew
  have hrenamed : renamedPairs (withSetOrder std o') old' new' =
      renamedPairs (withSetOrder std o) old new := by
    rw [renamedPairs_eq, renamedPairs_eq, sortedStrs_eq_iff.2 (namesOnlyIn_perm hold hnew)]
    refine List.filterMap_congr fun name hname => ?_
    have hname := mem_sortedStrs.1 hname
    obtain ⟨target, hsole⟩ := h.target name hname
    rw [targetOf_sole hold hnew hname hsole, targetOf_sole (.refl old) (.refl new) hname hsole]
  have hcommon : commonEvents old' new' = commonEvents old new := by
    rw [commonEvents, commonEvents, sortedStrs_eq_iff.2 (commonNames_perm hold hnew)]
    refine List.flatMap_congr fun name hname => ?_
    have hname := List.mem_filter.1 (mem_sortedStrs.1 hname)
    have hinold := mem_keys_tablesByName.1 hname.1
    have hinnew := mem_keys_tablesByName.1 (of_decide_eq_true hname.2)
    obtain ⟨t, ht⟩ := exists_get? hinold
    obtain ⟨u, hu⟩ := exists_get? hinnew
    obtain ⟨t', ht'⟩ := exists_get? (hold.names.2 hinold)
    obtain ⟨u', hu'⟩ := exists_get? (hnew.names.2 hinnew)
    rw [eventsFor, eventsFor, ht, hu, ht', hu']
    exact h.common name t' t u' u (hold.taken ht') ((Rearranged.refl old).taken ht)
      (hnew.taken hu') ((Rearranged.refl new).taken hu)
  rw [compareSnapshots_eq, compareSnapshots_eq, hrenamed, hcommon,
    sortedStrs_eq_iff.2 ((namesOnlyIn_perm hold hnew).filter _),
    sortedStrs_eq_iff.2 ((namesOnlyIn_perm hnew hold).filter _)]

/-- When no order shows, every search has one answer. -/
theorem OrderIndependent.unambiguous (h : OrderIndependent std old new) :
    Unambiguous std old new := by
  refine ⟨fun name hname => ⟨targetOf (withSetOrder std (frontOrder name)) old new name,
    fun t ht hqualified => h.soleTarget hname ht hqualified⟩, ?_⟩
  intro name t t' u u' ht ht' hu hu'
  exact h.common ht ht' hu hu'

end

/-- No order shows in the events exactly if every removed table has one target at most, whatever is
taken for a name. -/
theorem order_independent_iff (std : Stdlib) (old new : SchemaIntrospectionResult) :
    OrderIndependent std old new ↔ Unambiguous std old new :=
  ⟨OrderIndependent.unambiguous, Unambiguous.orderIndependent⟩

/-! ## Distinct names -/

/-- No two added tables are the most similar ones to a removed table. -/
def NoTie (std : Stdlib) (old new : SchemaIntrospectionResult) : Prop :=
  ∀ t, OnlyIn old new t → ∀ u v, OnlyIn new old u → OnlyIn new old v →
    renameSimilarityThreshold ≤ similarity std t u → similarity std t u = similarity std t v →
    (∀ w, OnlyIn new old w → similarity std t w ≤ similarity std t u) → u = v

section

variable {std : Stdlib} {old new result : SchemaIntrospectionResult} {name : String}
  {t t' u u' : TableMetadata}

/-- Columns of distinct names may come in any order. -/
theorem columnsByName_reordered (h : ReorderedColumns t t')
    (hnodup : (t.columns.map (·.name)).Nodup) (c : String) :
    (columnsByName t).get? c = (columnsByName t').get? c := by
  obtain ⟨columns, hperm, rfl⟩ := h
  refine Dict.get?_ofList_of_perm ?_ (hperm.map _) c
  rwa [List.map_map]

theorem mem_keys_reordered (h : ReorderedColumns t t') {c : String} :
    c ∈ (columnsByName t).keys ↔ c ∈ (columnsByName t').keys := by
  obtain ⟨columns, hperm, rfl⟩ := h
  rw [mem_keys_columnsByName, mem_keys_columnsByName]
  exact (hperm.map _).mem_iff

theorem tableEvents_reordered (ht : ReorderedColumns t t') (hu : ReorderedColumns u u')
    (htc : (t.columns.map (·.name)).Nodup) (huc : (u.columns.map (·.name)).Nodup) :
    tableEvents name t u = tableEvents name t' u' := by
  have htc' : (t'.columns.map (·.name)).Nodup := by
    obtain ⟨columns, hperm, rfl⟩ := ht
    exact (hperm.map _).nodup_iff.1 htc
  have hrelationships : (relationshipSignature t = relationshipSignature u) =
      (relationshipSignature t' = relationshipSignature u') := by
    obtain ⟨columns, -, rfl⟩ := ht
    obtain ⟨columns', -, rfl⟩ := hu
    rfl
  have hkeys : ∀ {a a' b b' : TableMetadata}, ReorderedColumns a a' → ReorderedColumns b b' →
      columnsOnlyIn a b = columnsOnlyIn a' b' := by
    intro a a' b b' ha hb
    refine sortedStrs_eq_iff.2 ((List.perm_ext_iff_of_nodup
      ((columnsByName b).nodup_keys.filter _) ((columnsByName b').nodup_keys.filter _)).2 fun c => ?_)
    simp only [List.mem_filter, decide_eq_true_eq]
    exact and_congr (mem_keys_reordered hb) (not_congr (mem_keys_reordered ha))
  have hpairs : columnPairs t u = columnPairs t' u' := by
    have hnames : ((columnsByName t).keys.filter (· ∈ (columnsByName u).keys)).Perm
        ((columnsByName t').keys.filter (· ∈ (columnsByName u').keys)) := by
      refine (List.perm_ext_iff_of_nodup ((columnsByName t).nodup_keys.filter _)
        ((columnsByName t').nodup_keys.filter _)).2 fun c => ?_
      simp only [List.mem_filter, decide_eq_true_eq]
      exact and_congr (mem_keys_reordered ht) (mem_keys_reordered hu)
    rw [columnPairs, columnPairs, sortedStrs_eq_iff.2 hnames]
    refine List.filterMap_congr fun c _ => ?_
    rw [pairFor, pairFor, columnsByName_reordered ht htc, columnsByName_reordered hu huc]
  rw [tableEvents_eq htc, tableEvents_eq htc', hkeys ht hu, hkeys hu ht, hpairs]
  simp only [hrelationships]

theorem Taken.eq_of_nodup (hnames : (result.tables.map (·.qualifiedName)).Nodup)
    (h : Taken result name t) (h' : Taken result name t') :
    ∃ t₀ ∈ result.tables, ReorderedColumns t₀ t ∧ ReorderedColumns t₀ t' := by
  obtain ⟨t₀, ht₀, hname, hreordered⟩ := h
  obtain ⟨t₁, ht₁, hname', hreordered'⟩ := h'
  obtain rfl : t₀ = t₁ := List.inj_on_of_nodup_map hnames ht₀ ht₁ (hname.trans hname'.symm)
  exact ⟨t₀, ht₀, hreordered, hreordered'⟩

/-- A target that no other table ties with is the answer of every search. -/
theorem NoTie.soleTarget (h : NoTie std old new) (hnew : (new.tables.map (·.qualifiedName)).Nodup)
    (ht : OnlyIn old new t) : ∃ target, SoleTarget std old new t target := by
  cases hbest : Best.best (similarity std t) renameSimilarityThreshold
      (addedTables std old new) with
  | none =>
    refine ⟨none, fun u hu => ?_⟩
    exact Best.best_eq_none.1 hbest u ((mem_addedTables_iff hnew).2 hu)
  | some b =>
    have hfirst := Best.best_some hbest
    have hb : OnlyIn new old b := (mem_addedTables_iff hnew).1 hfirst.mem
    have hle : ∀ w, OnlyIn new old w → similarity std t w ≤ similarity std t b :=
      fun w hw => hfirst.le ((mem_addedTables_iff hnew).2 hw)
    refine ⟨some b.qualifiedName, ⟨b, hb, rfl⟩, fun u hu hub => ?_⟩
    obtain rfl : u = b := List.inj_on_of_nodup_map hnew hu.1 hb.1 hub
    refine ⟨hfirst.reaches, fun v hv hne => lt_of_le_of_ne (hle v hv) fun heq => ?_⟩
    exact hne (h t ht u v hu hv hfirst.reaches heq.symm hle ▸ rfl)

theorem SoleTarget.no_tie {target : Option String} (h : SoleTarget std old new t target)
    (hu : OnlyIn new old u) (hu' : OnlyIn new old u')
    (hreaches : renameSimilarityThreshold ≤ similarity std t u)
    (heq : similarity std t u = similarity std t u')
    (hmax : ∀ w, OnlyIn new old w → similarity std t w ≤ similarity std t u) :
    u.qualifiedName = u'.qualifiedName := by
  cases target with
  | none => exact absurd hreaches (not_le.2 (h u hu))
  | some m =>
    obtain ⟨⟨w, hw, hwm⟩, hbest⟩ := h
    have hum : u.qualifiedName = m := by
      by_contra hne
      exact absurd (hmax w hw) (not_le.2 ((hbest w hw hwm).2 u hu hne))
    by_contra hne
    have hlt := (hbest u hu hum).2 u' hu' fun hu'm => hne (hum.trans hu'm.symm)
    exact absurd heq (ne_of_gt hlt)

end

/-- For schemas in which no two tables have one name, and no two columns of a table, no order shows
exactly if no two added tables tie. -/
theorem order_independent_iff_no_tie (std : Stdlib) (old new : SchemaIntrospectionResult)
    (hold : (old.tables.map (·.qualifiedName)).Nodup)
    (hnew : (new.tables.map (·.qualifiedName)).Nodup) (holdc : DistinctColumns old)
    (hnewc : DistinctColumns new) : OrderIndependent std old new ↔ NoTie std old new := by
  constructor
  · intro h t ht u v hu hv hreaches heq hmax
    obtain ⟨target, hsole⟩ := h.unambiguous.target _ ht.mem_names
    have hname := (hsole t ht.1 rfl).no_tie hu hv hreaches heq hmax
    exact List.inj_on_of_nodup_map hnew hu.1 hv.1 hname
  · intro h
    refine Unambiguous.orderIndependent
      ⟨fun name hname => ?_, fun name t t' u u' ht ht' hu hu' => ?_⟩
    · obtain ⟨t, ht, rfl⟩ := List.mem_map.1 (mem_namesOnlyIn.1 hname).1
      have honly : OnlyIn old new t := ⟨ht, (mem_namesOnlyIn.1 hname).2⟩
      have honce : ∀ t' ∈ old.tables, t'.qualifiedName = t.qualifiedName → t' = t :=
        fun t' ht' hqualified => List.inj_on_of_nodup_map hold ht' ht hqualified
      obtain ⟨target, hsole⟩ := h.soleTarget hnew honly
      exact ⟨target, fun t' ht' hqualified => honce t' ht' hqualified ▸ hsole⟩
    · obtain ⟨t₀, ht₀, hr, hr'⟩ := ht.eq_of_nodup hold ht'
      obtain ⟨u₀, hu₀, hs, hs'⟩ := hu.eq_of_nodup hnew hu'
      have htc := holdc t₀ ht₀
      have huc := hnewc u₀ hu₀
      exact (tableEvents_reordered hr hs htc huc).symm.trans (tableEvents_reordered hr' hs' htc huc)

namespace Sample

def forwards : SetOrder := ⟨id, fun _ => .refl _⟩

def backwards : SetOrder := ⟨List.reverse, fun l => l.reverse_perm⟩

end Sample

/-- Of two new tables with the same columns, the one that the set yields first is the target. -/
theorem drift_shows_order :
    (compareSnapshots (withSetOrder HermesRpt.Sample.std Sample.forwards)
      (Sample.vehiclesAs ["vehicles"]) (Sample.vehiclesAs ["cars", "trucks"])).head? =
        some (renameEvent "fleet.vehicles" "fleet.cars") ∧
    (compareSnapshots (withSetOrder HermesRpt.Sample.std Sample.backwards)
      (Sample.vehiclesAs ["vehicles"]) (Sample.vehiclesAs ["cars", "trucks"])).head? =
        some (renameEvent "fleet.vehicles" "fleet.trucks") ∧
    ¬OrderIndependent HermesRpt.Sample.std (Sample.vehiclesAs ["vehicles"])
      (Sample.vehiclesAs ["cars", "trucks"]) := by
  have hforwards : (compareSnapshots (withSetOrder HermesRpt.Sample.std Sample.forwards)
      (Sample.vehiclesAs ["vehicles"]) (Sample.vehiclesAs ["cars", "trucks"])).head? =
        some (renameEvent "fleet.vehicles" "fleet.cars") := by decide +kernel
  have hbackwards : (compareSnapshots (withSetOrder HermesRpt.Sample.std Sample.backwards)
      (Sample.vehiclesAs ["vehicles"]) (Sample.vehiclesAs ["cars", "trucks"])).head? =
        some (renameEvent "fleet.vehicles" "fleet.trucks") := by decide +kernel
  refine ⟨hforwards, hbackwards, fun h => ?_⟩
  have heq := h Sample.forwards Sample.backwards _ _ (.refl _) (.refl _)
  rw [heq, hforwards] at hbackwards
  exact absurd (renameEvent_inj.1 (Option.some.inj hbackwards)).2 (by decide)

end Schemas

end HermesRpt
