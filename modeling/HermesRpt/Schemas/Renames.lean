import HermesRpt.Lib.Best
import HermesRpt.Schemas.Agreement
import Mathlib.Tactic.NormNum

/-!
# HermesRpt.Schemas.Renames

What a comparison of two discoveries reports of tables that only one of them has.

* `similarity`             : the share of columns that two tables have in common.
* `likelyRenameTarget_eq`  : the target of a rename is the first added table of the highest share.
* `reports`                : how often an event of a type is reported of a name.
* `TableAccounting`        : every such table is reported once.
* `table_accounting`       : this holds of every comparison.
-/

namespace HermesRpt

namespace Schemas

open Keyed (Dict)

/-- The common columns, as a part of the larger of the two sets; a table without columns has none in
common with any other. -/
def similarity (std : Stdlib) (removed candidate : TableMetadata) : ℚ :=
  let overlap := (columnFingerprintSet std removed ∩ columnFingerprintSet std candidate).card
  overlap / max (columnFingerprintSet std removed).card (columnFingerprintSet std candidate).card

/-- The event of a likely rename. -/
def renameEvent (removedName target : String) : DriftEvent :=
  ⟨.TABLE_RENAMED_LIKELY, removedName, "'" ++ removedName ++
    "' looks like it may have been renamed to '" ++ target ++
      "' (similar columns) — not auto-approved"⟩

/-- The old table of a name that the new schema has not, or the other way round. -/
def OnlyIn (result other : SchemaIntrospectionResult) (t : TableMetadata) : Prop :=
  t ∈ result.tables ∧ t.qualifiedName ∉ other.tables.map (·.qualifiedName)

/-- How often an event of this type is reported of the name. -/
def reports (events : List DriftEvent) (eventType : DriftEventType) (name : String) : Nat :=
  events.countP fun e => e.eventType = eventType ∧ e.table = name

/-- What the events say of tables that one schema only has. -/
structure TableAccounting (std : Stdlib) (old new : SchemaIntrospectionResult)
    (events : List DriftEvent) : Prop where
  /-- A table that is gone is reported once. -/
  gone : ∀ t, OnlyIn old new t →
    reports events .TABLE_REMOVED t.qualifiedName +
      reports events .TABLE_RENAMED_LIKELY t.qualifiedName = 1
  /-- A new table is reported once, unless it is the target of a rename. -/
  arrived : ∀ u, OnlyIn new old u →
    (reports events .TABLE_ADDED u.qualifiedName = 1 ∧
        ∀ name, renameEvent name u.qualifiedName ∉ events) ∨
      (reports events .TABLE_ADDED u.qualifiedName = 0 ∧
        ∃ name, renameEvent name u.qualifiedName ∈ events)
  /-- A rename is reported when a new table is similar enough. -/
  renamed : ∀ t, OnlyIn old new t →
    (reports events .TABLE_RENAMED_LIKELY t.qualifiedName = 1 ↔
      ∃ u, OnlyIn new old u ∧ renameSimilarityThreshold ≤ similarity std t u)
  /-- Its target is a new table, and no other is more similar. -/
  target : ∀ e ∈ events, e.eventType = .TABLE_RENAMED_LIKELY →
    ∃ t u, OnlyIn old new t ∧ OnlyIn new old u ∧ e = renameEvent t.qualifiedName u.qualifiedName ∧
      renameSimilarityThreshold ≤ similarity std t u ∧
      ∀ v, OnlyIn new old v → similarity std t v ≤ similarity std t u

section

variable {std : Stdlib} {old new result : SchemaIntrospectionResult} {t u : TableMetadata}

/-! ## The target of a rename -/

theorem similarity_of_empty {removed candidate : TableMetadata}
    (h : columnFingerprintSet std removed = ∅ ∨ columnFingerprintSet std candidate = ∅) :
    similarity std removed candidate < renameSimilarityThreshold := by
  have hzero : similarity std removed candidate = 0 := by
    rcases h with h | h <;> simp [similarity, h]
  rw [hzero]
  norm_num [renameSimilarityThreshold]

theorem likelyRenameStep_eq (removed : TableMetadata) :
    likelyRenameStep std (columnFingerprintSet std removed) =
      Best.improve (similarity std removed) renameSimilarityThreshold := by
  funext kept candidate
  rw [likelyRenameStep, Best.improve]
  by_cases hempty : columnFingerprintSet std candidate = ∅
  · have hlow : similarity std removed candidate < renameSimilarityThreshold :=
      similarity_of_empty (.inr hempty)
    rw [if_pos hempty, if_neg fun h => not_lt.2 h.1 hlow]
  · rw [if_neg hempty]
    rfl

/-- The search for a target is the pass over the added tables that keeps the best. -/
theorem likelyRenameTarget_eq (removed : TableMetadata) (addedTables : List TableMetadata) :
    likelyRenameTarget std removed addedTables =
      Best.best (similarity std removed) renameSimilarityThreshold addedTables := by
  rw [likelyRenameTarget]
  by_cases hempty : columnFingerprintSet std removed = ∅
  · rw [if_pos hempty]
    exact (Best.best_eq_none.2 fun candidate _ => similarity_of_empty (.inl hempty)).symm
  · rw [if_neg hempty, likelyRenameStep_eq]
    rfl

/-! ## Names -/

theorem mem_keys_tablesByName {name : String} :
    name ∈ (tablesByName result).keys ↔ name ∈ result.tables.map (·.qualifiedName) :=
  Dict.mem_keys_byKey

theorem tablesByName_eq_some (hnames : (result.tables.map (·.qualifiedName)).Nodup) {name : String} :
    (tablesByName result).get? name = some t ↔ t ∈ result.tables ∧ t.qualifiedName = name :=
  Dict.get?_byKey_eq_some hnames

/-- The names that only the first schema has. -/
def namesOnlyIn (result other : SchemaIntrospectionResult) : List String :=
  (tablesByName result).keys.filter (· ∉ (tablesByName other).keys)

theorem mem_namesOnlyIn {name : String} : name ∈ namesOnlyIn old new ↔
    name ∈ old.tables.map (·.qualifiedName) ∧ name ∉ new.tables.map (·.qualifiedName) := by
  simp only [namesOnlyIn, List.mem_filter, decide_eq_true_eq, mem_keys_tablesByName]

theorem OnlyIn.mem_names (h : OnlyIn old new t) : t.qualifiedName ∈ namesOnlyIn old new :=
  mem_namesOnlyIn.2 ⟨List.mem_map_of_mem h.1, h.2⟩

theorem nodup_namesOnlyIn : (namesOnlyIn old new).Nodup :=
  (tablesByName old).nodup_keys.filter _

theorem nodup_sortedStrs {xs : List String} (h : xs.Nodup) : (sortedStrs xs).Nodup :=
  (List.perm_insertionSort _ xs).nodup_iff.2 h

/-! ## The events of a comparison -/

/-- The tables that only the new schema has, in the order in which a set of their names is
iterated. -/
def addedTables (std : Stdlib) (old new : SchemaIntrospectionResult) : List TableMetadata :=
  (std.setOrder (namesOnlyIn new old)).filterMap (tablesByName new).get?

/-- The names that both schemas have. -/
def commonNames (old new : SchemaIntrospectionResult) : List String :=
  (tablesByName old).keys.filter (· ∈ (tablesByName new).keys)

/-- The events of the tables of a name. -/
def eventsFor (old new : SchemaIntrospectionResult) (name : String) : List DriftEvent :=
  match (tablesByName old).get? name, (tablesByName new).get? name with
  | some oldTable, some newTable => tableEvents name oldTable newTable
  | _, _ => []

/-- The events of the tables that both schemas have. -/
def commonEvents (old new : SchemaIntrospectionResult) : List DriftEvent :=
  (sortedStrs (commonNames old new)).flatMap (eventsFor old new)

theorem nodup_commonNames : (commonNames old new).Nodup := (tablesByName old).nodup_keys.filter _

theorem compareSnapshots_eq : compareSnapshots std old new =
    (renamedPairs std old new).map (fun p => renameEvent p.1 p.2) ++
    (sortedStrs ((namesOnlyIn old new).filter (· ∉ (renamedPairs std old new).map Prod.fst))).map
      (fun name => ⟨.TABLE_REMOVED, name, "Table removed"⟩) ++
    (sortedStrs ((namesOnlyIn new old).filter (· ∉ (renamedPairs std old new).map Prod.snd))).map
      (fun name => ⟨.TABLE_ADDED, name, "Table added"⟩) ++
    commonEvents old new := rfl

theorem mem_addedTables :
    u ∈ addedTables std old new ↔ ∃ name ∈ namesOnlyIn new old, (tablesByName new).get? name = some u := by
  simp only [addedTables, List.mem_filterMap, std.mem_setOrder]

theorem mem_addedTables_iff (hnew : (new.tables.map (·.qualifiedName)).Nodup) :
    u ∈ addedTables std old new ↔ OnlyIn new old u := by
  rw [mem_addedTables]
  constructor
  · rintro ⟨name, hname, hget⟩
    obtain ⟨hu, rfl⟩ := (tablesByName_eq_some hnew).1 hget
    exact ⟨hu, (mem_namesOnlyIn.1 hname).2⟩
  · intro hu
    exact ⟨_, hu.mem_names, (tablesByName_eq_some hnew).2 ⟨hu.1, rfl⟩⟩

theorem mem_renamedPairs {p : String × String} : p ∈ renamedPairs std old new ↔
    p.1 ∈ namesOnlyIn old new ∧ ∃ removed, (tablesByName old).get? p.1 = some removed ∧
      ∃ target, likelyRenameTarget std removed (addedTables std old new) = some target ∧
        target.qualifiedName = p.2 := by
  obtain ⟨name, target⟩ := p
  simp only [renamedPairs, List.mem_filterMap, mem_sortedStrs]
  constructor
  · rintro ⟨removedName, hname, h⟩
    obtain ⟨removed, hremoved, h⟩ := Option.bind_eq_some_iff.1 h
    obtain ⟨table, htable, h⟩ := Option.bind_eq_some_iff.1 h
    cases h
    exact ⟨hname, removed, hremoved, table, htable, rfl⟩
  · rintro ⟨hname, removed, hremoved, table, htable, rfl⟩
    refine ⟨name, hname, Option.bind_eq_some_iff.2 ⟨removed, hremoved, ?_⟩⟩
    exact Option.bind_eq_some_iff.2 ⟨table, htable, rfl⟩

/-- A name is renamed once at most. -/
theorem nodup_renamedPairs : ((renamedPairs std old new).map Prod.fst).Nodup := by
  have hsub : ∀ (f : String → Option (String × String)), (∀ name p, f name = some p → p.1 = name) →
      ∀ names : List String, ((names.filterMap f).map Prod.fst).Sublist names := by
    intro f hf names
    induction names with
    | nil => exact .slnil
    | cons name names ih =>
      cases hname : f name with
      | none =>
        rw [List.filterMap_cons_none hname]
        exact ih.cons name
      | some p =>
        rw [List.filterMap_cons_some hname, List.map_cons, hf name p hname]
        exact ih.cons_cons name
  refine (hsub _ ?_ _).nodup (nodup_sortedStrs nodup_namesOnlyIn)
  intro name p h
  obtain ⟨removed, -, h⟩ := Option.bind_eq_some_iff.1 h
  obtain ⟨table, -, h⟩ := Option.bind_eq_some_iff.1 h
  cases h
  rfl

/-! ## Counting -/

theorem reports_append {events events' : List DriftEvent} {eventType : DriftEventType}
    {name : String} : reports (events ++ events') eventType name =
      reports events eventType name + reports events' eventType name :=
  List.countP_append

theorem reports_eq_zero {events : List DriftEvent} {eventType : DriftEventType} {name : String}
    (h : ∀ e ∈ events, e.eventType ≠ eventType) : reports events eventType name = 0 := by
  refine List.countP_eq_zero.2 fun e he => ?_
  simp [h e he]

theorem reports_names {names : List String} {ofType eventType : DriftEventType}
    {detail name : String} :
    reports (names.map fun name => ⟨ofType, name, detail⟩) eventType name =
      if ofType = eventType then names.count name else 0 := by
  rw [reports, List.countP_map]
  by_cases h : ofType = eventType
  · rw [if_pos h]
    exact List.countP_congr fun n _ => by simp [h]
  · rw [if_neg h]
    exact List.countP_eq_zero.2 fun n _ => by simp [h]

theorem reports_renames {renamed : List (String × String)} {eventType : DriftEventType}
    {name : String} :
    reports (renamed.map fun p => renameEvent p.1 p.2) eventType name =
      if .TABLE_RENAMED_LIKELY = eventType then (renamed.map Prod.fst).count name else 0 := by
  rw [reports, List.countP_map, List.count, List.countP_map]
  by_cases h : .TABLE_RENAMED_LIKELY = eventType
  · rw [if_pos h]
    exact List.countP_congr fun p _ => by simp [renameEvent, h]
  · rw [if_neg h]
    exact List.countP_eq_zero.2 fun p _ => by simp [renameEvent, h]

/-- The events of one table are of columns and relationships. -/
theorem eventType_tableEvents {name : String} {e : DriftEvent} (h : e ∈ tableEvents name t u) :
    e.eventType ≠ .TABLE_ADDED ∧ e.eventType ≠ .TABLE_REMOVED ∧
      e.eventType ≠ .TABLE_RENAMED_LIKELY := by
  simp only [tableEvents, List.mem_append, List.mem_map, List.mem_flatMap] at h
  rcases h with ((⟨colName, -, rfl⟩ | ⟨colName, -, rfl⟩) | ⟨colName, -, h⟩) | h
  · simp
  · simp
  · split at h
    · rw [columnEvents] at h
      grind
    · cases h
  · grind

theorem eventType_commonEvents {e : DriftEvent} (h : e ∈ commonEvents old new) :
    e.eventType ≠ .TABLE_ADDED ∧ e.eventType ≠ .TABLE_REMOVED ∧
      e.eventType ≠ .TABLE_RENAMED_LIKELY := by
  obtain ⟨name, -, h⟩ := List.mem_flatMap.1 h
  rw [eventsFor] at h
  split at h
  · exact eventType_tableEvents h
  · cases h

theorem reports_renamed {name : String} :
    reports (compareSnapshots std old new) .TABLE_RENAMED_LIKELY name =
      if name ∈ (renamedPairs std old new).map Prod.fst then 1 else 0 := by
  rw [compareSnapshots_eq]
  simp only [reports_append, reports_renames, reports_names,
    reports_eq_zero fun e he => (eventType_commonEvents he).2.2]
  simp [nodup_renamedPairs.count]

theorem reports_removed {name : String} :
    reports (compareSnapshots std old new) .TABLE_REMOVED name =
      if name ∈ namesOnlyIn old new ∧ name ∉ (renamedPairs std old new).map Prod.fst then 1
      else 0 := by
  rw [compareSnapshots_eq]
  simp only [reports_append, reports_renames, reports_names,
    reports_eq_zero fun e he => (eventType_commonEvents he).2.1]
  simp only [reduceCtorEq, if_true, if_false, Nat.zero_add, Nat.add_zero]
  rw [(nodup_sortedStrs (nodup_namesOnlyIn.filter _)).count]
  simp only [mem_sortedStrs, List.mem_filter, decide_eq_true_eq]

theorem reports_added {name : String} :
    reports (compareSnapshots std old new) .TABLE_ADDED name =
      if name ∈ namesOnlyIn new old ∧ name ∉ (renamedPairs std old new).map Prod.snd then 1
      else 0 := by
  rw [compareSnapshots_eq]
  simp only [reports_append, reports_renames, reports_names,
    reports_eq_zero fun e he => (eventType_commonEvents he).1]
  simp only [reduceCtorEq, if_true, if_false, Nat.zero_add, Nat.add_zero]
  rw [(nodup_sortedStrs (nodup_namesOnlyIn.filter _)).count]
  simp only [mem_sortedStrs, List.mem_filter, decide_eq_true_eq]

/-- The text of a rename names its target. -/
theorem renameEvent_inj {name target name' target' : String} :
    renameEvent name target = renameEvent name' target' ↔ name = name' ∧ target = target' := by
  constructor
  · intro h
    obtain ⟨-, rfl, htext⟩ := DriftEvent.mk.inj h
    exact ⟨rfl, by simpa using htext⟩
  · rintro ⟨rfl, rfl⟩
    rfl

/-- A comparison reports the likely renames, and no others. -/
theorem rename_mem_iff {e : DriftEvent} :
    (e ∈ compareSnapshots std old new ∧ e.eventType = .TABLE_RENAMED_LIKELY) ↔
      ∃ p ∈ renamedPairs std old new, renameEvent p.1 p.2 = e := by
  rw [compareSnapshots_eq]
  simp only [List.mem_append, List.mem_map]
  constructor
  · rintro ⟨((h | ⟨name, -, rfl⟩) | ⟨name, -, rfl⟩) | h, htype⟩
    · exact h
    · cases htype
    · cases htype
    · exact absurd htype (eventType_commonEvents h).2.2
  · rintro ⟨p, hp, rfl⟩
    exact ⟨.inl (.inl (.inl ⟨p, hp, rfl⟩)), rfl⟩

theorem renameEvent_mem_iff {name target : String} :
    renameEvent name target ∈ compareSnapshots std old new ↔
      (name, target) ∈ renamedPairs std old new := by
  have h := @rename_mem_iff std old new (renameEvent name target)
  simp only [renameEvent_inj] at h
  constructor
  · intro hmem
    obtain ⟨⟨name', target'⟩, hp, rfl, rfl⟩ := h.1 ⟨hmem, rfl⟩
    exact hp
  · intro hp
    exact (h.2 ⟨_, hp, rfl, rfl⟩).1

/-- The old table of a pair, and its target. -/
theorem renamedPairs_tables (hold : (old.tables.map (·.qualifiedName)).Nodup) {p : String × String} :
    p ∈ renamedPairs std old new ↔ ∃ t target, OnlyIn old new t ∧ t.qualifiedName = p.1 ∧
      Best.best (similarity std t) renameSimilarityThreshold (addedTables std old new) =
        some target ∧ target.qualifiedName = p.2 := by
  simp only [mem_renamedPairs, tablesByName_eq_some hold, likelyRenameTarget_eq]
  constructor
  · rintro ⟨hname, t, ⟨ht, hp⟩, target, htarget, hp'⟩
    exact ⟨t, target, ⟨ht, hp ▸ (mem_namesOnlyIn.1 hname).2⟩, hp, htarget, hp'⟩
  · rintro ⟨t, target, ht, hp, htarget, hp'⟩
    exact ⟨hp ▸ ht.mem_names, t, ⟨ht.1, hp⟩, target, htarget, hp'⟩

end

/-- Every comparison of schemas whose tables have distinct names accounts for the tables that only
one of them has. -/
theorem table_accounting (std : Stdlib) (old new : SchemaIntrospectionResult)
    (hold : (old.tables.map (·.qualifiedName)).Nodup)
    (hnew : (new.tables.map (·.qualifiedName)).Nodup) :
    TableAccounting std old new (compareSnapshots std old new) where
  gone t ht := by
    rw [reports_removed, reports_renamed]
    have hname := ht.mem_names
    by_cases hrenamed : t.qualifiedName ∈ (renamedPairs std old new).map Prod.fst
    · simp [hrenamed]
    · simp [hrenamed, hname]
  arrived u hu := by
    rw [reports_added]
    have hname := hu.mem_names
    simp only [renameEvent_mem_iff]
    by_cases htarget : ∃ name, (name, u.qualifiedName) ∈ renamedPairs std old new
    · refine .inr ⟨if_neg fun h => h.2 ?_, htarget⟩
      obtain ⟨name, hp⟩ := htarget
      exact List.mem_map_of_mem hp
    · refine .inl ⟨if_pos ⟨hname, fun h => ?_⟩, fun name hp => htarget ⟨name, hp⟩⟩
      obtain ⟨⟨name, target⟩, hp, rfl⟩ := List.mem_map.1 h
      exact htarget ⟨name, hp⟩
  renamed t ht := by
    have hone : ∀ {P : Prop} [Decidable P], (if P then 1 else 0) = 1 ↔ P := by simp
    rw [reports_renamed, hone]
    have hadded : ∀ u, OnlyIn new old u ↔ u ∈ addedTables std old new :=
      fun u => (mem_addedTables_iff hnew).symm
    simp only [hadded]
    constructor
    · intro h
      obtain ⟨p, hp, hname⟩ := List.mem_map.1 h
      obtain ⟨t', target, ht', hname', htarget, -⟩ := (renamedPairs_tables hold).1 hp
      obtain rfl : t' = t := List.inj_on_of_nodup_map hold ht'.1 ht.1 (hname'.trans hname)
      have hfirst := Best.best_some htarget
      exact ⟨target, hfirst.mem, hfirst.reaches⟩
    · rintro ⟨u, hu, hsimilar⟩
      cases htarget : Best.best (similarity std t) renameSimilarityThreshold
          (addedTables std old new) with
      | none => exact absurd hsimilar (not_le.2 (Best.best_eq_none.1 htarget u hu))
      | some target =>
        exact List.mem_map.2 ⟨(t.qualifiedName, target.qualifiedName),
          (renamedPairs_tables hold).2 ⟨t, target, ht, rfl, htarget, rfl⟩, rfl⟩
  target e he htype := by
    obtain ⟨p, hp, rfl⟩ := rename_mem_iff.1 ⟨he, htype⟩
    obtain ⟨t, u, ht, hname, htarget, hname'⟩ := (renamedPairs_tables hold).1 hp
    have hfirst := Best.best_some htarget
    refine ⟨t, u, ht, (mem_addedTables_iff hnew).1 hfirst.mem, by rw [hname, hname'],
      hfirst.reaches, fun v hv => hfirst.le ((mem_addedTables_iff hnew).2 hv)⟩

namespace Sample

/-- The vehicles under other names. -/
def vehiclesAs (names : List String) : SchemaIntrospectionResult :=
  { schemas := ["fleet"], tables := names.map fun name => { HermesRpt.Sample.vehicles with name } }

end Sample

theorem table_accounting_sample : TableAccounting HermesRpt.Sample.std (Sample.vehiclesAs ["vehicles"])
    (Sample.vehiclesAs ["cars", "trucks"])
    (compareSnapshots HermesRpt.Sample.std (Sample.vehiclesAs ["vehicles"])
      (Sample.vehiclesAs ["cars", "trucks"])) :=
  table_accounting HermesRpt.Sample.std _ _ (by decide) (by decide)

end Schemas

end HermesRpt
