import HermesRpt.Lib.Reordered
import HermesRpt.Schemas.Agreement

/-!
# HermesRpt.Schemas.Reordering

Fingerprints do not depend on the order in which a database lists what it has.

* `ReorderedTable`         : a table with its parts, and the columns of its parts, in other orders.
* `ReorderedResult`        : likewise for the schemas and tables of a discovery.
* `fingerprints_reordered` : neither changes a fingerprint.
-/

namespace HermesRpt

namespace Schemas

open Canonical Reordering
open Keyed (Dict)

/-- A unique constraint with its columns in another order. -/
structure ReorderedUnique (uq uq' : UniqueConstraintMetadata) : Prop where
  constraintName : uq.constraintName = uq'.constraintName
  columns : uq.columns.Perm uq'.columns

/-- A foreign key with its columns, and with the columns they refer to, in another order. -/
structure ReorderedForeignKey (fk fk' : ForeignKeyMetadata) : Prop where
  constraintName : fk.constraintName = fk'.constraintName
  columns : fk.columns.Perm fk'.columns
  referencedSchema : fk.referencedSchema = fk'.referencedSchema
  referencedTable : fk.referencedTable = fk'.referencedTable
  referencedColumns : fk.referencedColumns.Perm fk'.referencedColumns

/-- A table with its parts in another order. What is not hashed may be anything. -/
structure ReorderedTable (t u : TableMetadata) : Prop where
  schemaName : t.schemaName = u.schemaName
  name : t.name = u.name
  kind : t.kind = u.kind
  columns : t.columns.Perm u.columns
  primaryKeyColumns : t.primaryKeyColumns.Perm u.primaryKeyColumns
  foreignKeys : Reordered ReorderedForeignKey t.foreignKeys u.foreignKeys
  uniqueConstraints : Reordered ReorderedUnique t.uniqueConstraints u.uniqueConstraints

structure ReorderedResult (result result' : SchemaIntrospectionResult) : Prop where
  schemas : result.schemas.Perm result'.schemas
  tables : Reordered ReorderedTable result.tables result'.tables

section

variable {std : Stdlib} {t u : TableMetadata} {fk fk' : ForeignKeyMetadata}
  {uq uq' : UniqueConstraintMetadata} {result result' : SchemaIntrospectionResult}

theorem ReorderedForeignKey.fingerprint_eq (h : ReorderedForeignKey fk fk') :
    fingerprintRelationship std fk.columns fk.referencedTable fk.referencedColumns =
      fingerprintRelationship std fk'.columns fk'.referencedTable fk'.referencedColumns := by
  rw [fingerprintRelationship, fingerprintRelationship, sortedStrs_eq_iff.2 h.columns,
    h.referencedTable, sortedStrs_eq_iff.2 h.referencedColumns]

theorem ReorderedUnique.hash_eq (h : ReorderedUnique uq uq') :
    stableHash std (.strs (sortedStrs uq.columns)) =
      stableHash std (.strs (sortedStrs uq'.columns)) := by
  rw [sortedStrs_eq_iff.2 h.columns]

theorem ReorderedTable.qualifiedName_eq (h : ReorderedTable t u) :
    t.qualifiedName = u.qualifiedName := by
  rw [TableMetadata.qualifiedName, TableMetadata.qualifiedName, h.schemaName, h.name]

/-- The hashes of the parts are sorted, so their order is lost. -/
theorem ReorderedTable.fingerprint_eq (h : ReorderedTable t u) :
    fingerprintTable std t = fingerprintTable std u := by
  have hcolumns : sortedStrs (columnFingerprints std t) = sortedStrs (columnFingerprints std u) :=
    sortedStrs_eq_iff.2 (h.columns.map _)
  have hrelationships := sortedStrs_eq_iff.2 (h.foreignKeys.map_perm
    fun fk fk' hfk => @ReorderedForeignKey.fingerprint_eq std fk fk' hfk)
  have hunique := sortedStrs_eq_iff.2 (h.uniqueConstraints.map_perm
    fun uq uq' huq => @ReorderedUnique.hash_eq std uq uq' huq)
  simp only [fingerprintTable]
  rw [h.schemaName, h.name, h.kind, hcolumns, sortedStrs_eq_iff.2 h.primaryKeyColumns,
    hrelationships, hunique]

/-- Every table has the same fingerprint, whatever the order of the tables. -/
theorem tableFingerprint_reordered (hnames : (result.tables.map (·.qualifiedName)).Nodup)
    (h : ReorderedResult result result') (name : String) :
    (computeFingerprints std result).2.get? name =
      (computeFingerprints std result').2.get? name := by
  have hperm := h.tables.map_perm (f := fun t => (t.qualifiedName, fingerprintTable std t))
    fun t u htu => by rw [htu.qualifiedName_eq, htu.fingerprint_eq]
  refine Dict.get?_ofList_of_perm ?_ hperm name
  rwa [List.map_map]

end

/-- The order of schemas, tables, columns, keys and constraints shows in no fingerprint. -/
theorem fingerprints_reordered (std : Stdlib) (result result' : SchemaIntrospectionResult)
    (hnames : (result.tables.map (·.qualifiedName)).Nodup) (h : ReorderedResult result result') :
    (computeFingerprints std result).1 = (computeFingerprints std result').1 ∧
      ∀ name, (computeFingerprints std result).2.get? name =
        (computeFingerprints std result').2.get? name := by
  have htables : ∀ name, (computeFingerprints std result).2.get? name =
      (computeFingerprints std result').2.get? name := tableFingerprint_reordered hnames h
  refine ⟨?_, htables⟩
  have hmembers := sorted_members_eq_iff.2 htables
  simp only [computeFingerprints] at hmembers
  simp only [computeFingerprints, stableHash]
  refine congrArg std.sha256 (dumps_eq_of_normal ?_)
  simp only [normal_obj, normalMembers_cons, normalMembers_nil, normal_strs, normalMembers_strs,
    sortedStrs_eq_iff.2 h.schemas, hmembers]

namespace Sample

open HermesRpt.Sample (column vehicles)

/-- Depots with a composite foreign key. -/
def depots (columns : List ColumnMetadata) (foreignColumns referencedColumns : List String) :
    TableMetadata where
  schemaName := "fleet"
  name := "depots"
  kind := "table"
  columns := columns
  foreignKeys := [
    { constraintName := "fk_town", columns := foreignColumns, referencedSchema := "fleet",
      referencedTable := "towns", referencedColumns }]

def listed : SchemaIntrospectionResult where
  schemas := ["fleet", "archive"]
  tables := [vehicles, depots [column "town", column "land"] ["town", "land"] ["name", "land"]]

/-- The same, with every list the other way round. -/
def listedBackwards : SchemaIntrospectionResult where
  schemas := ["archive", "fleet"]
  tables := [depots [column "land", column "town"] ["land", "town"] ["land", "name"], vehicles]

theorem reordered_refl (t : TableMetadata) : ReorderedTable t t :=
  ⟨rfl, rfl, rfl, .refl _, .refl _,
    Reordered.refl (fun _ => ⟨rfl, .refl _, rfl, rfl, .refl _⟩) _,
    Reordered.refl (fun _ => ⟨rfl, .refl _⟩) _⟩

theorem listed_backwards : ReorderedResult listed listedBackwards where
  schemas := .swap _ _ _
  tables := by
    refine ⟨_, .swap _ _ _, .cons ?_ (.cons (reordered_refl _) .nil)⟩
    exact ⟨rfl, rfl, rfl, .swap _ _ _, .refl _,
      ⟨_, .refl _, .cons ⟨rfl, .swap _ _ _, rfl, rfl, .swap _ _ _⟩ .nil⟩,
      .refl (fun _ => ⟨rfl, .refl _⟩) _⟩

end Sample

theorem fingerprints_reordered_sample :
    (computeFingerprints HermesRpt.Sample.std Sample.listed).1 =
        (computeFingerprints HermesRpt.Sample.std Sample.listedBackwards).1 ∧
      ∀ name, (computeFingerprints HermesRpt.Sample.std Sample.listed).2.get? name =
        (computeFingerprints HermesRpt.Sample.std Sample.listedBackwards).2.get? name :=
  fingerprints_reordered HermesRpt.Sample.std Sample.listed Sample.listedBackwards (by decide)
    Sample.listed_backwards

end Schemas

end HermesRpt
