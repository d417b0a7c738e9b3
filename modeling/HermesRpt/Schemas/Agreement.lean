import HermesRpt.Lib.JsonText
import HermesRpt.System

/-!
# HermesRpt.Schemas.Agreement

When the comparison of two introspection results finds nothing, and when their fingerprints are
equal. Both see the names of tables and the names, types and nullability of columns; of everything
else they look at different parts.

* `SameColumns`      : tables that both definitions take for equal in their columns.
* `SameShape`        : what only the fingerprint compares, referenced columns included.
* `SameReferences`   : what only the comparison compares, the names of foreign keys included.
* `drift_agrees_iff` : no event means one fingerprint, and the reverse, exactly if schemas with the
  same tables and columns have the same references when they have the same shapes, and the reverse.
-/

namespace HermesRpt

namespace Schemas

open Canonical
open Keyed (Dict)

/-! ## Fingerprints -/

section

variable {std : Stdlib}

theorem sortedStrs_eq_iff {xs ys : List String} : sortedStrs xs = sortedStrs ys ↔ xs.Perm ys := by
  constructor
  · intro h
    exact (List.perm_insertionSort _ xs).symm.trans
      ((List.Perm.of_eq h).trans (List.perm_insertionSort _ ys))
  · intro h
    refine List.Perm.eq_of_pairwise' (List.pairwise_insertionSort _ xs)
      (List.pairwise_insertionSort _ ys) ?_
    exact (List.perm_insertionSort _ xs).trans (h.trans (List.perm_insertionSort _ ys).symm)

theorem stableHash_eq_iff (hsha : Function.Injective std.sha256) {i j : Json}
    (hi : i.numberFree = true) (hj : j.numberFree = true) :
    stableHash std i = stableHash std j ↔ i.normal = j.normal := by
  rw [stableHash, stableHash, hsha.eq_iff, dumps_inj hi hj]

/-- What is hashed of a column. -/
def columnShape (c : ColumnMetadata) : String × String × Bool := (c.name, c.sqlType, c.isNullable)

/-- What is hashed of a foreign key. -/
def relationshipShape (fk : ForeignKeyMetadata) : List String × String × List String :=
  (sortedStrs fk.columns, fk.referencedTable, sortedStrs fk.referencedColumns)

theorem fingerprintColumn_injective (hsha : Function.Injective std.sha256) :
    Function.Injective fun c : String × String × Bool => fingerprintColumn std c.1 c.2.1 c.2.2 := by
  rintro ⟨n, t, b⟩ ⟨n', t', b'⟩ h
  have hshape := (stableHash_eq_iff hsha rfl rfl).1 h
  simp at hshape
  simp [hshape]

theorem fingerprintRelationship_injective (hsha : Function.Injective std.sha256) :
    Function.Injective fun r : List String × String × List String =>
      stableHash std (.obj [("columns", .strs r.1), ("referenced_table", .str r.2.1),
        ("referenced_columns", .strs r.2.2)]) := by
  rintro ⟨c, t, rc⟩ ⟨c', t', rc'⟩ h
  have hshape := (stableHash_eq_iff hsha (by simp [Json.numberFree, membersNumberFree])
    (by simp [Json.numberFree, membersNumberFree])).1 h
  simp at hshape
  simp [hshape]

theorem uniqueHash_injective (hsha : Function.Injective std.sha256) :
    Function.Injective fun ss : List String => stableHash std (.strs ss) := by
  intro ss ts h
  rw [stableHash_eq_iff hsha (numberFree_strs ss) (numberFree_strs ts)] at h
  simpa using h

/-- Two lists of hashes are sorted to one list when the hashed lists have the same elements. -/
theorem sorted_hashes_eq_iff {α : Type} {hash : α → String} (hinj : Function.Injective hash)
    (xs ys : List α) : sortedStrs (xs.map hash) = sortedStrs (ys.map hash) ↔ xs.Perm ys := by
  rw [sortedStrs_eq_iff, List.map_perm_map_iff hinj]

end

/-- Equal columns, in any order. -/
def SameColumns (t u : TableMetadata) : Prop :=
  (t.columns.map columnShape).Perm (u.columns.map columnShape)

/-- What the fingerprint of a table compares besides the columns. -/
structure SameShape (t u : TableMetadata) : Prop where
  schemaName : t.schemaName = u.schemaName
  name : t.name = u.name
  kind : t.kind = u.kind
  primaryKey : t.primaryKeyColumns.Perm u.primaryKeyColumns
  relationships : (t.foreignKeys.map relationshipShape).Perm (u.foreignKeys.map relationshipShape)
  uniqueConstraints : (t.uniqueConstraints.map fun uq => sortedStrs uq.columns).Perm
    (u.uniqueConstraints.map fun uq => sortedStrs uq.columns)

theorem fingerprintTable_eq_iff {std : Stdlib} (hsha : Function.Injective std.sha256)
    {t u : TableMetadata} :
    fingerprintTable std t = fingerprintTable std u ↔ SameColumns t u ∧ SameShape t u := by
  have hcolumns : sortedStrs (columnFingerprints std t) = sortedStrs (columnFingerprints std u) ↔
      SameColumns t u := by
    have h := sorted_hashes_eq_iff (fingerprintColumn_injective hsha)
      (t.columns.map columnShape) (u.columns.map columnShape)
    rwa [List.map_map, List.map_map] at h
  have hrelationships : sortedStrs (t.foreignKeys.map fun fk =>
        fingerprintRelationship std fk.columns fk.referencedTable fk.referencedColumns) =
      sortedStrs (u.foreignKeys.map fun fk =>
        fingerprintRelationship std fk.columns fk.referencedTable fk.referencedColumns) ↔
      (t.foreignKeys.map relationshipShape).Perm (u.foreignKeys.map relationshipShape) := by
    have h := sorted_hashes_eq_iff (fingerprintRelationship_injective hsha)
      (t.foreignKeys.map relationshipShape) (u.foreignKeys.map relationshipShape)
    rwa [List.map_map, List.map_map] at h
  have hunique : sortedStrs (t.uniqueConstraints.map fun uq =>
        stableHash std (.strs (sortedStrs uq.columns))) =
      sortedStrs (u.uniqueConstraints.map fun uq =>
        stableHash std (.strs (sortedStrs uq.columns))) ↔
      (t.uniqueConstraints.map fun uq => sortedStrs uq.columns).Perm
        (u.uniqueConstraints.map fun uq => sortedStrs uq.columns) := by
    have h := sorted_hashes_eq_iff (uniqueHash_injective hsha)
      (t.uniqueConstraints.map fun uq => sortedStrs uq.columns)
      (u.uniqueConstraints.map fun uq => sortedStrs uq.columns)
    rwa [List.map_map, List.map_map] at h
  have hfields : fingerprintTable std t = fingerprintTable std u ↔ SameColumns t u ∧
      t.kind = u.kind ∧ t.name = u.name ∧ t.primaryKeyColumns.Perm u.primaryKeyColumns ∧
      (t.foreignKeys.map relationshipShape).Perm (u.foreignKeys.map relationshipShape) ∧
      t.schemaName = u.schemaName ∧ (t.uniqueConstraints.map fun uq => sortedStrs uq.columns).Perm
        (u.uniqueConstraints.map fun uq => sortedStrs uq.columns) := by
    rw [fingerprintTable, fingerprintTable, stableHash_eq_iff hsha
      (by simp [Json.numberFree, membersNumberFree]) (by simp [Json.numberFree, membersNumberFree])]
    simp [hcolumns, hrelationships, hunique, sortedStrs_eq_iff]
  rw [hfields]
  constructor
  · rintro ⟨hc, hkind, hname, hkey, hrel, hschema, huq⟩
    exact ⟨hc, hschema, hname, hkind, hkey, hrel, huq⟩
  · rintro ⟨hc, hschema, hname, hkind, hkey, hrel, huq⟩
    exact ⟨hc, hkind, hname, hkey, hrel, hschema, huq⟩

/-- Two dictionaries have one canonical text when they map the same keys to the same values. -/
theorem sorted_members_eq_iff {d e : Dict String String} :
    ((d.rows.map fun p => (p.1, Json.str p.2)).insertionSort fun a b => a.1 ≤ b.1) =
        ((e.rows.map fun p => (p.1, Json.str p.2)).insertionSort fun a b => a.1 ≤ b.1) ↔
      ∀ k, d.get? k = e.get? k := by
  have hsort : ∀ d : Dict String String,
      ((d.rows.map fun p => (p.1, Json.str p.2)).insertionSort fun a b => a.1 ≤ b.1) =
        ((d.mapValues Json.str).rows.insertionSort fun a b => a.1 ≤ b.1) := fun _ => rfl
  have hstr : Function.Injective Json.str := fun _ _ h => Json.str.inj h
  rw [hsort, hsort, sorted_rows_eq_iff]
  simp only [Keyed.Dict.get?_mapValues, (Option.map_injective hstr).eq_iff]

/-- `R` holds of the tables of every name that either schema has, and both have it. -/
def Everywhere (R : TableMetadata → TableMetadata → Prop) (old new : SchemaIntrospectionResult) :
    Prop :=
  ∀ name, Option.Rel R ((tablesByName old).get? name) ((tablesByName new).get? name)

theorem rel_and_iff {α : Type} {R S : α → α → Prop} {x y : Option α} :
    Option.Rel (fun a b => R a b ∧ S a b) x y ↔ Option.Rel R x y ∧ Option.Rel S x y := by
  constructor
  · intro h
    cases h with
    | some h => exact ⟨.some h.1, .some h.2⟩
    | none => exact ⟨.none, .none⟩
  · rintro ⟨h, h'⟩
    cases h with
    | some h =>
      cases h' with
      | some h' => exact .some ⟨h, h'⟩
    | none => exact .none

theorem rel_map_eq_iff {α β : Type} {f : α → β} {x y : Option α} :
    x.map f = y.map f ↔ Option.Rel (fun a b => f a = f b) x y := by
  cases x <;> cases y <;> simp

theorem everywhere_and_iff {R S : TableMetadata → TableMetadata → Prop}
    {old new : SchemaIntrospectionResult} :
    Everywhere (fun t u => R t u ∧ S t u) old new ↔ Everywhere R old new ∧ Everywhere S old new := by
  simp only [Everywhere, rel_and_iff, forall_and]

/-- Of two schemas with one table each, of one name. -/
theorem everywhere_of_one {R : TableMetadata → TableMetadata → Prop}
    (schemas : List String) (t u : TableMetadata) (hname : t.qualifiedName = u.qualifiedName) :
    Everywhere R { schemas, tables := [t] } { schemas, tables := [u] } ↔ R t u := by
  simp only [Everywhere, tablesByName, List.map_cons, List.map_nil,
    Keyed.Dict.get?_ofList_singleton, hname]
  constructor
  · intro h
    simpa using h u.qualifiedName
  · intro h name
    split
    · exact .some h
    · exact .none

theorem schemaFingerprint_eq_iff {std : Stdlib} (hsha : Function.Injective std.sha256)
    {old new : SchemaIntrospectionResult} (hschemas : old.schemas = new.schemas) :
    (computeFingerprints std old).1 = (computeFingerprints std new).1 ↔
      Everywhere (fun t u => SameColumns t u ∧ SameShape t u) old new := by
  have htables : ∀ result : SchemaIntrospectionResult, ∀ name,
      (computeFingerprints std result).2.get? name =
        ((tablesByName result).get? name).map (fingerprintTable std) := by
    intro result name
    have h := Keyed.Dict.get?_ofList_map (fingerprintTable std)
      (result.tables.map fun t => (t.qualifiedName, t)) name
    rwa [List.map_map] at h
  have hfree : ∀ d : Dict String String,
      membersNumberFree (d.rows.map fun p => (p.1, Json.str p.2)) = true := by
    intro d
    rw [membersNumberFree_iff]
    intro p hp
    obtain ⟨q, -, rfl⟩ := List.mem_map.1 hp
    rfl
  have hschema : ∀ result : SchemaIntrospectionResult, (computeFingerprints std result).1 =
      stableHash std (.obj [("schemas", .strs (sortedStrs result.schemas)), ("tables",
        .obj ((computeFingerprints std result).2.rows.map fun p => (p.1, .str p.2)))]) := fun _ => rfl
  have hdicts : (computeFingerprints std old).1 = (computeFingerprints std new).1 ↔ ∀ name,
      (computeFingerprints std old).2.get? name = (computeFingerprints std new).2.get? name := by
    rw [hschema old, hschema new, stableHash_eq_iff hsha
      (by simp [Json.numberFree, membersNumberFree, hfree])
      (by simp [Json.numberFree, membersNumberFree, hfree]), ← sorted_members_eq_iff]
    simp [normalMembers_strs, hschemas]
  rw [hdicts]
  simp only [htables, rel_map_eq_iff, fingerprintTable_eq_iff hsha, Everywhere]

/-! ## Events -/

/-- What the comparison asks of two tables besides the columns. -/
def SameReferences (t u : TableMetadata) : Prop := relationshipSignature t = relationshipSignature u

def DistinctColumns (result : SchemaIntrospectionResult) : Prop :=
  ∀ t ∈ result.tables, (t.columns.map (·.name)).Nodup

instance (result : SchemaIntrospectionResult) : Decidable (DistinctColumns result) :=
  inferInstanceAs (Decidable (∀ t ∈ result.tables, _))

theorem table_of_get? {result : SchemaIntrospectionResult} {name : String} {t : TableMetadata}
    (h : (tablesByName result).get? name = some t) : t ∈ result.tables ∧ t.qualifiedName = name :=
  Keyed.Dict.mem_of_get?_byKey h

theorem columnsByName_eq_some {t : TableMetadata} (ht : (t.columns.map (·.name)).Nodup)
    {name : String} {c : ColumnMetadata} :
    (columnsByName t).get? name = some c ↔ c ∈ t.columns ∧ c.name = name :=
  Keyed.Dict.get?_byKey_eq_some ht

/-- The columns of two tables are the same when every name has the same column. -/
theorem sameColumns_iff {t u : TableMetadata} (ht : (t.columns.map (·.name)).Nodup)
    (hu : (u.columns.map (·.name)).Nodup) :
    SameColumns t u ↔ ∀ name, Option.Rel (fun c d => columnShape c = columnShape d)
      ((columnsByName t).get? name) ((columnsByName u).get? name) := by
  have hmem : ∀ {t : TableMetadata}, (t.columns.map (·.name)).Nodup → ∀ name shape,
      ((columnsByName t).get? name).map columnShape = some shape ↔
        shape ∈ t.columns.map columnShape ∧ shape.1 = name := by
    intro t ht name shape
    rw [List.mem_map, Option.map_eq_some_iff]
    constructor
    · rintro ⟨c, hc, rfl⟩
      obtain ⟨hmem, hname⟩ := (columnsByName_eq_some ht).1 hc
      exact ⟨⟨c, hmem, rfl⟩, hname⟩
    · rintro ⟨⟨c, hc, rfl⟩, hname⟩
      exact ⟨c, (columnsByName_eq_some ht).2 ⟨hc, hname⟩, rfl⟩
  have hnodup : ∀ {t : TableMetadata}, (t.columns.map (·.name)).Nodup →
      (t.columns.map columnShape).Nodup := by
    intro t ht
    refine List.Nodup.of_map Prod.fst ?_
    rwa [List.map_map]
  simp only [← rel_map_eq_iff]
  rw [SameColumns, List.perm_ext_iff_of_nodup (hnodup ht) (hnodup hu)]
  constructor
  · intro h name
    ext shape
    rw [hmem ht, hmem hu, h]
  · intro h shape
    have hname := (hmem ht shape.1 shape).symm.trans
      ((by rw [h shape.1] : _ ↔ _).trans (hmem hu shape.1 shape))
    simpa using hname

theorem sortedStrs_eq_nil {xs : List String} : sortedStrs xs = [] ↔ xs = [] := by
  have hperm := List.perm_insertionSort (· ≤ ·) xs
  constructor
  · intro h
    exact (h ▸ hperm : [].Perm xs).nil_eq.symm
  · rintro rfl
    rfl

theorem mem_sortedStrs {xs : List String} {x : String} : x ∈ sortedStrs xs ↔ x ∈ xs :=
  List.mem_insertionSort _

theorem columnEvents_eq_nil {table colName : String} {c d : ColumnMetadata} :
    columnEvents table colName c d = [] ↔ c.sqlType = d.sqlType ∧ c.isNullable = d.isNullable := by
  rw [columnEvents, List.append_eq_nil_iff]
  by_cases h : c.sqlType = d.sqlType <;> by_cases h' : c.isNullable = d.isNullable <;> simp [h, h']

/-- No key is added or removed and no common one has an event: the values of every key are alike. -/
theorem dict_alike_iff {α β : Type} {d e : Dict String α} {events : String → α → α → List β}
    {eventsOf : String → List β}
    (hof : ∀ k a b, d.get? k = some a → e.get? k = some b → eventsOf k = events k a b) :
    (e.keys.filter (· ∉ d.keys) = [] ∧ d.keys.filter (· ∉ e.keys) = [] ∧
      ∀ k ∈ d.keys.filter (· ∈ e.keys), eventsOf k = []) ↔
      ∀ k, Option.Rel (fun a b => events k a b = []) (d.get? k) (e.get? k) := by
  simp only [List.filter_eq_nil_iff, List.mem_filter, decide_eq_true_eq, not_not]
  constructor
  · rintro ⟨hadded, hremoved, hcommon⟩ k
    cases hd : d.get? k with
    | none =>
      cases he : e.get? k with
      | none => exact .none
      | some b =>
        have hk := hadded k (Keyed.Dict.mem_keys.2 ⟨b, he⟩)
        exact absurd hk (Keyed.Dict.get?_eq_none.1 hd)
    | some a =>
      have hk : k ∈ d.keys := Keyed.Dict.mem_keys.2 ⟨a, hd⟩
      obtain ⟨b, he⟩ := Keyed.Dict.mem_keys.1 (hremoved k hk)
      rw [he]
      exact .some ((hof k a b hd he).symm.trans (hcommon k ⟨hk, hremoved k hk⟩))
  · intro h
    refine ⟨fun k hk => ?_, fun k hk => ?_, fun k hk => ?_⟩
    · obtain ⟨b, he⟩ := Keyed.Dict.mem_keys.1 hk
      have hrel := h k
      rw [he] at hrel
      cases hd : d.get? k with
      | none =>
        rw [hd] at hrel
        cases hrel
      | some a => exact Keyed.Dict.mem_keys.2 ⟨a, hd⟩
    · obtain ⟨a, hd⟩ := Keyed.Dict.mem_keys.1 hk
      have hrel := h k
      rw [hd] at hrel
      cases he : e.get? k with
      | none =>
        rw [he] at hrel
        cases hrel
      | some b => exact Keyed.Dict.mem_keys.2 ⟨b, he⟩
    · obtain ⟨a, hd⟩ := Keyed.Dict.mem_keys.1 hk.1
      obtain ⟨b, he⟩ := Keyed.Dict.mem_keys.1 hk.2
      have hrel := h k
      rw [hd, he] at hrel
      cases hrel with
      | some hevents => exact (hof k a b hd he).trans hevents

theorem tableEvents_eq_nil {name : String} {t u : TableMetadata}
    (ht : (t.columns.map (·.name)).Nodup) (hu : (u.columns.map (·.name)).Nodup) :
    tableEvents name t u = [] ↔ SameColumns t u ∧ SameReferences t u := by
  have hcolumns : ∀ colName, Option.Rel (fun c d => columnEvents name colName c d = [])
        ((columnsByName t).get? colName) ((columnsByName u).get? colName) ↔
      Option.Rel (fun c d => columnShape c = columnShape d)
        ((columnsByName t).get? colName) ((columnsByName u).get? colName) := by
    intro colName
    cases hc : (columnsByName t).get? colName with
    | none => cases (columnsByName u).get? colName <;> simp
    | some c =>
      cases hd : (columnsByName u).get? colName with
      | none => simp
      | some d =>
        have hname : c.name = d.name := ((columnsByName_eq_some ht).1 hc).2.trans
          ((columnsByName_eq_some hu).1 hd).2.symm
        simp [columnEvents_eq_nil, columnShape, hname]
  have hreferences : (if relationshipSignature t = relationshipSignature u then
      ([] : List DriftEvent) else [⟨.RELATIONSHIP_CHANGED, name, "Foreign key relationships changed"⟩]) =
        [] ↔ SameReferences t u := by
    unfold SameReferences
    split <;> simp [*]
  rw [sameColumns_iff ht hu]
  simp only [← hcolumns]
  simp only [tableEvents, List.append_eq_nil_iff, List.map_eq_nil_iff, sortedStrs_eq_nil,
    hreferences, List.flatMap_eq_nil_iff, mem_sortedStrs]
  refine and_congr (and_assoc.trans (dict_alike_iff ?_)) Iff.rfl
  intro k a b ha hb
  simp only [ha, hb]

/-- The comparison finds nothing when every table has its counterpart. -/
theorem compareSnapshots_eq_nil {std : Stdlib} {old new : SchemaIntrospectionResult}
    (hold : DistinctColumns old) (hnew : DistinctColumns new) :
    compareSnapshots std old new = [] ↔
      Everywhere (fun t u => SameColumns t u ∧ SameReferences t u) old new := by
  have htables : ∀ name, Option.Rel (fun t u => tableEvents name t u = [])
        ((tablesByName old).get? name) ((tablesByName new).get? name) ↔
      Option.Rel (fun t u => SameColumns t u ∧ SameReferences t u)
        ((tablesByName old).get? name) ((tablesByName new).get? name) := by
    intro name
    cases ht : (tablesByName old).get? name with
    | none => cases (tablesByName new).get? name <;> simp
    | some t =>
      cases hu : (tablesByName new).get? name with
      | none => simp
      | some u =>
        simp [tableEvents_eq_nil (hold t (table_of_get? ht).1) (hnew u (table_of_get? hu).1)]
  have hnames : (((renamedPairs std old new = [] ∧
        ((tablesByName old).keys.filter (· ∉ (tablesByName new).keys)).filter
          (· ∉ (renamedPairs std old new).map Prod.fst) = []) ∧
        ((tablesByName new).keys.filter (· ∉ (tablesByName old).keys)).filter
          (· ∉ (renamedPairs std old new).map Prod.snd) = []) ↔
      (tablesByName new).keys.filter (· ∉ (tablesByName old).keys) = [] ∧
        (tablesByName old).keys.filter (· ∉ (tablesByName new).keys) = []) := by
    constructor
    · rintro ⟨⟨hnone, hremoved⟩, hadded⟩
      rw [hnone, List.map_nil] at hremoved hadded
      simp only [List.not_mem_nil, not_false_eq_true, decide_true, List.filter_true] at hremoved hadded
      exact ⟨hadded, hremoved⟩
    · rintro ⟨hadded, hremoved⟩
      have hnone : renamedPairs std old new = [] := by
        simp only [renamedPairs, hremoved]
        rfl
      rw [hadded, hremoved, hnone]
      exact ⟨⟨rfl, rfl⟩, rfl⟩
  unfold Everywhere
  simp only [← htables, compareSnapshots, List.append_eq_nil_iff, List.map_eq_nil_iff,
    sortedStrs_eq_nil, List.flatMap_eq_nil_iff, mem_sortedStrs]
  refine (and_congr_left' hnames).trans (and_assoc.trans (dict_alike_iff ?_))
  intro k a b ha hb
  simp only [ha, hb]

/-- The comparison and the fingerprint agree on two results for one list of schemas exactly if, given
the same tables with the same columns, they agree on everything else. -/
theorem drift_agrees_iff (std : Stdlib) (hsha : Function.Injective std.sha256)
    (old new : SchemaIntrospectionResult) (hschemas : old.schemas = new.schemas)
    (hold : DistinctColumns old) (hnew : DistinctColumns new) :
    (compareSnapshots std old new = [] ↔
        (computeFingerprints std old).1 = (computeFingerprints std new).1) ↔
      (Everywhere SameColumns old new →
        (Everywhere SameReferences old new ↔ Everywhere SameShape old new)) := by
  rw [compareSnapshots_eq_nil hold hnew, schemaFingerprint_eq_iff hsha hschemas, everywhere_and_iff,
    everywhere_and_iff]
  tauto

namespace Sample

open HermesRpt.Sample (vehicles)

def before : SchemaIntrospectionResult := { schemas := ["fleet"], tables := [vehicles] }

/-- The table with a primary key. -/
def keyed : SchemaIntrospectionResult :=
  { schemas := ["fleet"], tables := [{ vehicles with primaryKeyColumns := ["vehicle_no"] }] }

/-- The table with a foreign key of that name. -/
def referringTable (constraintName : String) : TableMetadata :=
  { vehicles with foreignKeys := [
    { constraintName, columns := ["plate"], referencedSchema := "fleet", referencedTable := "plates",
      referencedColumns := ["plate"] }] }

def referring (constraintName : String) : SchemaIntrospectionResult :=
  { schemas := ["fleet"], tables := [referringTable constraintName] }

theorem sha256_injective : Function.Injective HermesRpt.Sample.std.sha256 := fun _ _ h => h

theorem qualifiedName_keyed : vehicles.qualifiedName =
    ({ vehicles with primaryKeyColumns := ["vehicle_no"] } : TableMetadata).qualifiedName := rfl

/-- A key that is added is in the fingerprint. -/
theorem fingerprint_keyed : (computeFingerprints HermesRpt.Sample.std before).1 ≠
    (computeFingerprints HermesRpt.Sample.std keyed).1 := by
  intro h
  have hall := (@schemaFingerprint_eq_iff _ sha256_injective before keyed rfl).1 h
  have hshape := (everywhere_of_one ["fleet"] _ _ qualifiedName_keyed).1 hall
  exact absurd hshape.2.primaryKey.length_eq (by decide)

/-- The name of a foreign key is not. -/
theorem fingerprint_referring (constraintName constraintName' : String) :
    (computeFingerprints HermesRpt.Sample.std (referring constraintName)).1 =
      (computeFingerprints HermesRpt.Sample.std (referring constraintName')).1 := by
  refine (@schemaFingerprint_eq_iff _ sha256_injective (referring constraintName)
    (referring constraintName') rfl).2 ?_
  refine (everywhere_of_one ["fleet"] (referringTable constraintName)
    (referringTable constraintName') rfl).2 ?_
  exact ⟨List.Perm.refl _, rfl, rfl, rfl, .refl _, .refl _, .refl _⟩

end Sample

theorem drift_agrees_iff_sample :
    (compareSnapshots HermesRpt.Sample.std Sample.before Sample.keyed = [] ↔
        (computeFingerprints HermesRpt.Sample.std Sample.before).1 =
          (computeFingerprints HermesRpt.Sample.std Sample.keyed).1) ↔
      (Everywhere SameColumns Sample.before Sample.keyed →
        (Everywhere SameReferences Sample.before Sample.keyed ↔
          Everywhere SameShape Sample.before Sample.keyed)) :=
  drift_agrees_iff HermesRpt.Sample.std Sample.sha256_injective Sample.before Sample.keyed rfl
    (by decide +kernel) (by decide +kernel)

/-- A primary key changes the fingerprint and is no event; a renamed foreign key is an event and
leaves the fingerprint. -/
theorem drift_disagrees :
    (compareSnapshots HermesRpt.Sample.std Sample.before Sample.keyed = [] ∧
      (computeFingerprints HermesRpt.Sample.std Sample.before).1 ≠
        (computeFingerprints HermesRpt.Sample.std Sample.keyed).1) ∧
    compareSnapshots HermesRpt.Sample.std (Sample.referring "fk_plate") (Sample.referring "fk_plates") =
      [⟨.RELATIONSHIP_CHANGED, "fleet.vehicles", "Foreign key relationships changed"⟩] ∧
    (computeFingerprints HermesRpt.Sample.std (Sample.referring "fk_plate")).1 =
      (computeFingerprints HermesRpt.Sample.std (Sample.referring "fk_plates")).1 := by
  refine ⟨⟨?_, Sample.fingerprint_keyed⟩, ?_, Sample.fingerprint_referring _ _⟩
  · decide +kernel
  · decide +kernel

end Schemas

end HermesRpt
