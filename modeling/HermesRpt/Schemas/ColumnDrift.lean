import HermesRpt.Schemas.Renames

/-!
# HermesRpt.Schemas.ColumnDrift

What a comparison of two discoveries reports of a table that both have.

* `eventsOn_common`  : its events are those of the two tables of its name.
* `columnPairs`      : the columns that both tables have.
* `Changes`          : one event for every change, and no other.
* `column_drift`     : when nothing is reported, and what the comparison the other way round reports.
-/

namespace HermesRpt

namespace Schemas

open Keyed (Dict)

/-- The events of a table. -/
def eventsOn (events : List DriftEvent) (table : String) : List DriftEvent :=
  events.filter (·.table = table)

/-- The events of one type of a table. -/
def ofKind (events : List DriftEvent) (eventType : DriftEventType) (table : String) :
    List DriftEvent := (eventsOn events table).filter (·.eventType = eventType)

def columnAdded (table colName : String) : DriftEvent :=
  ⟨.COLUMN_ADDED, table, "Column '" ++ colName ++ "' added"⟩

def columnRemoved (table colName : String) : DriftEvent :=
  ⟨.COLUMN_REMOVED, table, "Column '" ++ colName ++ "' removed"⟩

/-- The event of an old column and the new one of its name. -/
def typeChanged (table : String) (p : ColumnMetadata × ColumnMetadata) : DriftEvent :=
  ⟨.COLUMN_TYPE_CHANGED, table, "Column '" ++ p.1.name ++ "' type changed from '" ++
    p.1.sqlType ++ "' to '" ++ p.2.sqlType ++ "'"⟩

def nullabilityChanged (table : String) (p : ColumnMetadata × ColumnMetadata) : DriftEvent :=
  ⟨.COLUMN_NULLABILITY_CHANGED, table, "Column '" ++ p.1.name ++ "' nullability changed from " ++
    pyBool p.1.isNullable ++ " to " ++ pyBool p.2.isNullable⟩

def relationshipChanged (table : String) : DriftEvent :=
  ⟨.RELATIONSHIP_CHANGED, table, "Foreign key relationships changed"⟩

/-- From the name of a column to its type and whether it may be null. -/
def columnMap (t : TableMetadata) (colName : String) : Option (String × Bool) :=
  ((columnsByName t).get? colName).map fun c => (c.sqlType, c.isNullable)

/-- What is reported of a table when `t` becomes `u`: for every column that is added or removed one
event, for every pair of columns of one name and different types one, and likewise for their
nullability. -/
structure Changes (table : String) (t u : TableMetadata) (events : List DriftEvent)
    (added removed : List String) (retyped nullability : List (ColumnMetadata × ColumnMetadata)) :
    Prop where
  mem_added : ∀ c, c ∈ added ↔ c ∈ u.columns.map (·.name) ∧ c ∉ t.columns.map (·.name)
  mem_removed : ∀ c, c ∈ removed ↔ c ∈ t.columns.map (·.name) ∧ c ∉ u.columns.map (·.name)
  mem_retyped : ∀ p, p ∈ retyped ↔ p.1 ∈ t.columns ∧ p.2 ∈ u.columns ∧ p.1.name = p.2.name ∧
    p.1.sqlType ≠ p.2.sqlType
  mem_nullability : ∀ p, p ∈ nullability ↔ p.1 ∈ t.columns ∧ p.2 ∈ u.columns ∧
    p.1.name = p.2.name ∧ p.1.isNullable ≠ p.2.isNullable
  nodup : added.Nodup ∧ removed.Nodup ∧ retyped.Nodup ∧ nullability.Nodup
  addedEvents : ofKind events .COLUMN_ADDED table = added.map (columnAdded table)
  removedEvents : ofKind events .COLUMN_REMOVED table = removed.map (columnRemoved table)
  typeEvents : ofKind events .COLUMN_TYPE_CHANGED table = retyped.map (typeChanged table)
  nullabilityEvents : ofKind events .COLUMN_NULLABILITY_CHANGED table =
    nullability.map (nullabilityChanged table)
  relationshipEvents : ofKind events .RELATIONSHIP_CHANGED table =
    if relationshipSignature t = relationshipSignature u then [] else [relationshipChanged table]

/-- The names of the columns that only the second table has. -/
def columnsOnlyIn (t u : TableMetadata) : List String :=
  sortedStrs ((columnsByName u).keys.filter (· ∉ (columnsByName t).keys))

/-- The columns of one name. -/
def pairFor (t u : TableMetadata) (colName : String) : Option (ColumnMetadata × ColumnMetadata) :=
  match (columnsByName t).get? colName, (columnsByName u).get? colName with
  | some oldCol, some newCol => some (oldCol, newCol)
  | _, _ => none

def columnPairs (t u : TableMetadata) : List (ColumnMetadata × ColumnMetadata) :=
  (sortedStrs ((columnsByName t).keys.filter (· ∈ (columnsByName u).keys))).filterMap (pairFor t u)

section

variable {std : Stdlib} {old new : SchemaIntrospectionResult} {name : String} {t u : TableMetadata}

/-! ## The events of one table -/

theorem table_tableEvents {e : DriftEvent} (h : e ∈ tableEvents name t u) : e.table = name := by
  simp only [tableEvents, List.mem_append, List.mem_map, List.mem_flatMap] at h
  rcases h with ((⟨colName, -, rfl⟩ | ⟨colName, -, rfl⟩) | ⟨colName, -, h⟩) | h
  · rfl
  · rfl
  · split at h
    · rw [columnEvents] at h
      grind
    · cases h
  · grind

/-- Of blocks for different names, one is of this name. -/
theorem eventsOn_flatMap {names : List String} {block : String → List DriftEvent}
    (hnodup : names.Nodup) (hname : name ∈ names) (hblock : ∀ n, ∀ e ∈ block n, e.table = n) :
    eventsOn (names.flatMap block) name = block name := by
  have hself : ∀ n, eventsOn (block n) n = block n := fun n =>
    List.filter_eq_self.2 fun e he => decide_eq_true (hblock n e he)
  have hother : ∀ n, n ≠ name → eventsOn (block n) name = [] := fun n hne =>
    List.filter_eq_nil_iff.2 fun e he => by simp [hblock n e he, hne]
  induction names with
  | nil => cases hname
  | cons n names ih =>
    obtain ⟨hnot, hrest⟩ := List.nodup_cons.1 hnodup
    rw [List.flatMap_cons, eventsOn, List.filter_append]
    rcases List.mem_cons.1 hname with rfl | hmem
    · have hnil : eventsOn (names.flatMap block) name = [] := by
        refine List.filter_eq_nil_iff.2 fun e he => ?_
        obtain ⟨n, hn, he⟩ := List.mem_flatMap.1 he
        have hne : n ≠ name := fun heq => hnot (heq ▸ hn)
        simp [hblock n e he, hne]
      exact (congrArg₂ (· ++ ·) (hself name) hnil).trans (List.append_nil _)
    · have hne : n ≠ name := fun heq => hnot (heq ▸ hmem)
      exact (congrArg₂ (· ++ ·) (hother n hne) (ih hrest hmem)).trans (List.nil_append _)

theorem table_eventsFor (n : String) : ∀ e ∈ eventsFor old new n, e.table = n := by
  intro e he
  rw [eventsFor] at he
  split at he
  · exact table_tableEvents he
  · cases he

/-- What is reported of a table that both schemas have. -/
theorem eventsOn_common (ht : (tablesByName old).get? name = some t)
    (hu : (tablesByName new).get? name = some u) :
    eventsOn (compareSnapshots std old new) name = tableEvents name t u := by
  have hold : name ∈ (tablesByName old).keys := Dict.mem_keys.2 ⟨t, ht⟩
  have hnew : name ∈ (tablesByName new).keys := Dict.mem_keys.2 ⟨u, hu⟩
  have hnames : ∀ n, n ∈ namesOnlyIn old new ∨ n ∈ namesOnlyIn new old → n ≠ name := by
    rintro n hn rfl
    simp [namesOnlyIn, hold, hnew] at hn
  have hmem : name ∈ sortedStrs (commonNames old new) := by
    simp [mem_sortedStrs, commonNames, hold, hnew]
  have hcommon : eventsOn (commonEvents old new) name = tableEvents name t u := by
    rw [commonEvents, eventsOn_flatMap (nodup_sortedStrs nodup_commonNames) hmem table_eventsFor,
      eventsFor, ht, hu]
  rw [compareSnapshots_eq, eventsOn, List.filter_append, List.filter_append, List.filter_append,
    List.filter_eq_nil_iff.2, List.filter_eq_nil_iff.2, List.filter_eq_nil_iff.2]
  · exact hcommon
  · intro e he
    obtain ⟨n, hn, rfl⟩ := List.mem_map.1 he
    rw [mem_sortedStrs] at hn
    simpa using hnames n (.inr (List.mem_filter.1 hn).1)
  · intro e he
    obtain ⟨n, hn, rfl⟩ := List.mem_map.1 he
    rw [mem_sortedStrs] at hn
    simpa using hnames n (.inl (List.mem_filter.1 hn).1)
  · intro e he
    obtain ⟨p, hp, rfl⟩ := List.mem_map.1 he
    intro htable
    exact hnames p.1 (.inl (mem_renamedPairs.1 hp).1) (of_decide_eq_true htable)

/-! ## Columns -/

theorem mem_keys_columnsByName {c : String} :
    c ∈ (columnsByName t).keys ↔ c ∈ t.columns.map (·.name) :=
  Dict.mem_keys_byKey

theorem mem_columnsOnlyIn {c : String} :
    c ∈ columnsOnlyIn t u ↔ c ∈ u.columns.map (·.name) ∧ c ∉ t.columns.map (·.name) := by
  simp only [columnsOnlyIn, mem_sortedStrs, List.mem_filter, decide_eq_true_eq,
    mem_keys_columnsByName]

theorem nodup_columnsOnlyIn : (columnsOnlyIn t u).Nodup :=
  nodup_sortedStrs ((columnsByName u).nodup_keys.filter _)

theorem pairFor_eq_some {c : String} {p : ColumnMetadata × ColumnMetadata} :
    pairFor t u c = some p ↔
      (columnsByName t).get? c = some p.1 ∧ (columnsByName u).get? c = some p.2 := by
  obtain ⟨a, b⟩ := p
  rw [pairFor]
  cases (columnsByName t).get? c <;> cases (columnsByName u).get? c <;> simp

theorem mem_columnPairs (ht : (t.columns.map (·.name)).Nodup) (hu : (u.columns.map (·.name)).Nodup)
    {p : ColumnMetadata × ColumnMetadata} :
    p ∈ columnPairs t u ↔ p.1 ∈ t.columns ∧ p.2 ∈ u.columns ∧ p.1.name = p.2.name := by
  simp only [columnPairs, List.mem_filterMap, mem_sortedStrs, List.mem_filter, decide_eq_true_eq,
    pairFor_eq_some, columnsByName_eq_some ht, columnsByName_eq_some hu, mem_keys_columnsByName]
  constructor
  · rintro ⟨c, -, ⟨ha, hname⟩, hb, hname'⟩
    exact ⟨ha, hb, hname.trans hname'.symm⟩
  · rintro ⟨ha, hb, hname⟩
    exact ⟨p.1.name, ⟨List.mem_map_of_mem ha, hname ▸ List.mem_map_of_mem hb⟩, ⟨ha, rfl⟩, hb,
      hname.symm⟩

/-- From the other side, the pairs are the other way round. -/
theorem columnPairs_swap : columnPairs u t = (columnPairs t u).map Prod.swap := by
  have hkeys : ((columnsByName u).keys.filter (· ∈ (columnsByName t).keys)).Perm
      ((columnsByName t).keys.filter (· ∈ (columnsByName u).keys)) := by
    refine (List.perm_ext_iff_of_nodup ((columnsByName u).nodup_keys.filter _)
      ((columnsByName t).nodup_keys.filter _)).2 fun c => ?_
    simp only [List.mem_filter, decide_eq_true_eq]
    exact and_comm
  rw [columnPairs, columnPairs, sortedStrs_eq_iff.2 hkeys, List.map_filterMap]
  refine List.filterMap_congr fun c _ => ?_
  rw [pairFor, pairFor]
  cases (columnsByName t).get? c <;> cases (columnsByName u).get? c <;> rfl

theorem nodup_columnPairs (ht : (t.columns.map (·.name)).Nodup) : (columnPairs t u).Nodup := by
  refine List.Nodup.filterMap ?_ (nodup_sortedStrs ((columnsByName t).nodup_keys.filter _))
  intro c c' p hp hp'
  have hname := ((columnsByName_eq_some ht).1 (pairFor_eq_some.1 hp).1).2
  have hname' := ((columnsByName_eq_some ht).1 (pairFor_eq_some.1 hp').1).2
  exact hname.symm.trans hname'

/-- The events of two tables, by the columns that one or both of them have. -/
theorem tableEvents_eq (ht : (t.columns.map (·.name)).Nodup) :
    tableEvents name t u =
      (columnsOnlyIn t u).map (columnAdded name) ++ (columnsOnlyIn u t).map (columnRemoved name) ++
      (columnPairs t u).flatMap (fun p => columnEvents name p.1.name p.1 p.2) ++
      (if relationshipSignature t = relationshipSignature u then [] else
        [relationshipChanged name]) := by
  have hpairs : ∀ names : List String, (names.flatMap fun colName =>
      match (columnsByName t).get? colName, (columnsByName u).get? colName with
      | some oldCol, some newCol => columnEvents name colName oldCol newCol
      | _, _ => []) = (names.filterMap (pairFor t u)).flatMap
        fun p => columnEvents name p.1.name p.1 p.2 := by
    intro names
    induction names with
    | nil => rfl
    | cons c names ih =>
      rw [List.flatMap_cons, ih]
      cases hc : (columnsByName t).get? c with
      | none => simp [pairFor, hc]
      | some a =>
        cases hd : (columnsByName u).get? c with
        | none => simp [pairFor, hc, hd]
        | some b =>
          have hname : a.name = c := ((columnsByName_eq_some ht).1 hc).2
          simp [pairFor, hc, hd, hname]
  rw [columnPairs, ← hpairs]
  rfl

/-! ## Events of one type -/

theorem filter_map_kind {α : Type} {l : List α} {f : α → DriftEvent}
    {ofType eventType : DriftEventType} (hf : ∀ a, (f a).eventType = ofType) :
    (l.map f).filter (·.eventType = eventType) = if ofType = eventType then l.map f else [] := by
  by_cases h : ofType = eventType
  · rw [if_pos h]
    refine List.filter_eq_self.2 fun e he => ?_
    obtain ⟨a, -, rfl⟩ := List.mem_map.1 he
    simp [hf a, h]
  · rw [if_neg h]
    refine List.filter_eq_nil_iff.2 fun e he => ?_
    obtain ⟨a, -, rfl⟩ := List.mem_map.1 he
    simp [hf a, h]

/-- A pair of columns has one event of a type at most. -/
theorem filter_flatMap_kind {l : List (ColumnMetadata × ColumnMetadata)}
    {block : ColumnMetadata × ColumnMetadata → List DriftEvent} {eventType : DriftEventType}
    {changed : ColumnMetadata × ColumnMetadata → Bool}
    {event : ColumnMetadata × ColumnMetadata → DriftEvent}
    (hblock : ∀ p, (block p).filter (·.eventType = eventType) = if changed p then [event p] else []) :
    (l.flatMap block).filter (·.eventType = eventType) = (l.filter changed).map event := by
  induction l with
  | nil => rfl
  | cons p l ih =>
    rw [List.flatMap_cons, List.filter_append, ih, hblock]
    cases h : changed p <;> simp [h]

theorem typeEvents_columnEvents (p : ColumnMetadata × ColumnMetadata) :
    (columnEvents name p.1.name p.1 p.2).filter (·.eventType = .COLUMN_TYPE_CHANGED) =
      if decide (p.1.sqlType ≠ p.2.sqlType) then [typeChanged name p] else [] := by
  rw [columnEvents]
  by_cases h : p.1.sqlType = p.2.sqlType <;> by_cases h' : p.1.isNullable = p.2.isNullable <;>
    simp [h, h', typeChanged]

theorem nullabilityEvents_columnEvents (p : ColumnMetadata × ColumnMetadata) :
    (columnEvents name p.1.name p.1 p.2).filter (·.eventType = .COLUMN_NULLABILITY_CHANGED) =
      if decide (p.1.isNullable ≠ p.2.isNullable) then [nullabilityChanged name p] else [] := by
  rw [columnEvents]
  by_cases h : p.1.sqlType = p.2.sqlType <;> by_cases h' : p.1.isNullable = p.2.isNullable <;>
    simp [h, h', nullabilityChanged]

/-- Columns have events of two types. -/
theorem otherEvents_columnEvents {l : List (ColumnMetadata × ColumnMetadata)}
    {eventType : DriftEventType} (htype : eventType ≠ .COLUMN_TYPE_CHANGED)
    (hnullability : eventType ≠ .COLUMN_NULLABILITY_CHANGED) :
    (l.flatMap fun p => columnEvents name p.1.name p.1 p.2).filter (·.eventType = eventType) =
      [] := by
  refine List.filter_eq_nil_iff.2 fun e he => ?_
  obtain ⟨p, -, he⟩ := List.mem_flatMap.1 he
  rw [columnEvents] at he
  grind

theorem filter_tableEvents (ht : (t.columns.map (·.name)).Nodup) (eventType : DriftEventType) :
    (tableEvents name t u).filter (·.eventType = eventType) =
      (if .COLUMN_ADDED = eventType then (columnsOnlyIn t u).map (columnAdded name) else []) ++
      (if .COLUMN_REMOVED = eventType then (columnsOnlyIn u t).map (columnRemoved name) else []) ++
      ((columnPairs t u).flatMap fun p => columnEvents name p.1.name p.1 p.2).filter
        (·.eventType = eventType) ++
      (if .RELATIONSHIP_CHANGED = eventType then
        if relationshipSignature t = relationshipSignature u then [] else [relationshipChanged name]
      else []) := by
  have hrelationship : (if relationshipSignature t = relationshipSignature u then [] else
        [relationshipChanged name]).filter (·.eventType = eventType) =
      if .RELATIONSHIP_CHANGED = eventType then
        if relationshipSignature t = relationshipSignature u then [] else [relationshipChanged name]
      else [] := by
    by_cases h : relationshipSignature t = relationshipSignature u
    · simp [h]
    · simp [h, relationshipChanged, List.filter_cons]
  rw [tableEvents_eq ht, List.filter_append, List.filter_append, List.filter_append,
    filter_map_kind fun c => (rfl : (columnAdded name c).eventType = .COLUMN_ADDED),
    filter_map_kind fun c => (rfl : (columnRemoved name c).eventType = .COLUMN_REMOVED),
    hrelationship]

/-- One event for every change. -/
theorem changes_tableEvents (ht : (t.columns.map (·.name)).Nodup)
    (hu : (u.columns.map (·.name)).Nodup) {events : List DriftEvent}
    (hevents : eventsOn events name = tableEvents name t u) :
    Changes name t u events (columnsOnlyIn t u) (columnsOnlyIn u t)
      ((columnPairs t u).filter fun p => p.1.sqlType ≠ p.2.sqlType)
      ((columnPairs t u).filter fun p => p.1.isNullable ≠ p.2.isNullable) where
  mem_added c := mem_columnsOnlyIn
  mem_removed c := mem_columnsOnlyIn
  mem_retyped p := by
    rw [List.mem_filter, mem_columnPairs ht hu, decide_eq_true_eq]
    tauto
  mem_nullability p := by
    rw [List.mem_filter, mem_columnPairs ht hu, decide_eq_true_eq]
    tauto
  nodup := ⟨nodup_columnsOnlyIn, nodup_columnsOnlyIn, (nodup_columnPairs ht).filter _,
    (nodup_columnPairs ht).filter _⟩
  addedEvents := by
    rw [ofKind, hevents, filter_tableEvents ht, otherEvents_columnEvents (by decide) (by decide)]
    simp
  removedEvents := by
    rw [ofKind, hevents, filter_tableEvents ht, otherEvents_columnEvents (by decide) (by decide)]
    simp
  typeEvents := by
    rw [ofKind, hevents, filter_tableEvents ht, filter_flatMap_kind typeEvents_columnEvents]
    simp
  nullabilityEvents := by
    rw [ofKind, hevents, filter_tableEvents ht, filter_flatMap_kind nullabilityEvents_columnEvents]
    simp
  relationshipEvents := by
    rw [ofKind, hevents, filter_tableEvents ht, otherEvents_columnEvents (by decide) (by decide)]
    simp

theorem columnMap_eq_iff : columnMap t = columnMap u ↔
    ∀ c, Option.Rel (fun a b => (a.sqlType, a.isNullable) = (b.sqlType, b.isNullable))
      ((columnsByName t).get? c) ((columnsByName u).get? c) := by
  simp only [← rel_map_eq_iff]
  exact funext_iff

/-- Nothing is reported of tables with the same columns and relationships. -/
theorem tableEvents_eq_nil_iff (ht : (t.columns.map (·.name)).Nodup)
    (hu : (u.columns.map (·.name)).Nodup) :
    tableEvents name t u = [] ↔
      columnMap t = columnMap u ∧ relationshipSignature t = relationshipSignature u := by
  rw [tableEvents_eq_nil ht hu, sameColumns_iff ht hu, SameReferences, columnMap_eq_iff]
  refine and_congr_left' (forall_congr' fun c => ?_)
  cases hc : (columnsByName t).get? c with
  | none => cases (columnsByName u).get? c <;> simp
  | some a =>
    cases hd : (columnsByName u).get? c with
    | none => simp
    | some b =>
      have hname : a.name = b.name := ((columnsByName_eq_some ht).1 hc).2.trans
        ((columnsByName_eq_some hu).1 hd).2.symm
      simp [columnShape, hname]

end

/-- Of a table that both schemas have, nothing is reported exactly if its columns and relationships
are the same, every change of a column is one event, and the comparison the other way round reports
the same changes the other way round. -/
theorem column_drift (std : Stdlib) (old new : SchemaIntrospectionResult) (name : String)
    (t u : TableMetadata) (ht : (tablesByName old).get? name = some t)
    (hu : (tablesByName new).get? name = some u) (htc : (t.columns.map (·.name)).Nodup)
    (huc : (u.columns.map (·.name)).Nodup) :
    (eventsOn (compareSnapshots std old new) name = [] ↔
        columnMap t = columnMap u ∧ relationshipSignature t = relationshipSignature u) ∧
      ∃ added removed retyped nullability,
        Changes name t u (compareSnapshots std old new) added removed retyped nullability ∧
        Changes name u t (compareSnapshots std new old) removed added (retyped.map Prod.swap)
          (nullability.map Prod.swap) := by
  have hevents : eventsOn (compareSnapshots std old new) name = tableEvents name t u :=
    eventsOn_common ht hu
  refine ⟨hevents ▸ tableEvents_eq_nil_iff htc huc, _, _, _, _, changes_tableEvents htc huc hevents,
    ?_⟩
  have hevents' : eventsOn (compareSnapshots std new old) name = tableEvents name u t :=
    eventsOn_common hu ht
  have hback := changes_tableEvents huc htc hevents'
  rw [columnPairs_swap, List.filter_map, List.filter_map] at hback
  simpa only [Function.comp_def, Prod.fst_swap, Prod.snd_swap, ne_comm] using hback

namespace Sample

open HermesRpt.Sample (column vehicles)

/-- The vehicles with one column less, one of another type, and a new one. -/
def changedVehicles : TableMetadata :=
  { vehicles with columns := [column "vehicle_no", { column "plate" with sqlType := "uuid" },
      column "colour"] }

def changed : SchemaIntrospectionResult := { schemas := ["fleet"], tables := [changedVehicles] }

end Sample

theorem column_drift_sample :
    (eventsOn (compareSnapshots HermesRpt.Sample.std Sample.before Sample.changed)
        "fleet.vehicles" = [] ↔
      columnMap HermesRpt.Sample.vehicles = columnMap Sample.changedVehicles ∧
        relationshipSignature HermesRpt.Sample.vehicles =
          relationshipSignature Sample.changedVehicles) ∧
      ∃ added removed retyped nullability,
        Changes "fleet.vehicles" HermesRpt.Sample.vehicles Sample.changedVehicles
          (compareSnapshots HermesRpt.Sample.std Sample.before Sample.changed) added removed retyped
          nullability ∧
        Changes "fleet.vehicles" Sample.changedVehicles HermesRpt.Sample.vehicles
          (compareSnapshots HermesRpt.Sample.std Sample.changed Sample.before) removed added
          (retyped.map Prod.swap) (nullability.map Prod.swap) :=
  column_drift HermesRpt.Sample.std Sample.before Sample.changed "fleet.vehicles" _ _ rfl rfl
    (by decide) (by decide)

end Schemas

end HermesRpt
