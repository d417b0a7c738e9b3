import HermesRpt.Schemas.Agreement
import Mathlib.Data.Multiset.Basic

/-!
# HermesRpt.Schemas.Faithfulness

What a table's fingerprint says of the table. The columns of a foreign key and its referenced
columns are sorted apart from each other, and the schema it refers to is not hashed.

* `reference`            : what a foreign key says.
* `SameTable`            : the tables that may have one fingerprint.
* `Confused`             : tables that have one although they differ.
* `fingerprint_faithful` : equal fingerprints are of the same table exactly if nothing is lost.
-/

namespace HermesRpt

namespace Schemas

/-- Which column refers to which one, and in which table of which schema. -/
def reference (fk : ForeignKeyMetadata) : Multiset (String × String) × String × String :=
  (fk.columns.zip fk.referencedColumns, fk.referencedSchema, fk.referencedTable)

/-- The tables have one shape. -/
structure SameTable (t u : TableMetadata) : Prop where
  schemaName : t.schemaName = u.schemaName
  name : t.name = u.name
  kind : t.kind = u.kind
  columns : SameColumns t u
  primaryKey : t.primaryKeyColumns.toFinset = u.primaryKeyColumns.toFinset
  uniqueConstraints : (t.uniqueConstraints.map fun uq => uq.columns.toFinset).Perm
    (u.uniqueConstraints.map fun uq => uq.columns.toFinset)
  foreignKeys : (t.foreignKeys.map reference).Perm (u.foreignKeys.map reference)

/-- The tables are alike in everything but what their foreign keys refer to: there the same columns
are paired in another way, or a table of the same name is meant in another schema. -/
structure Confused (t u : TableMetadata) : Prop where
  columns : SameColumns t u
  shape : SameShape t u
  references : ¬(t.foreignKeys.map reference).Perm (u.foreignKeys.map reference)

section

variable {t u : TableMetadata}

theorem toFinset_sortedStrs (xs : List String) : (sortedStrs xs).toFinset = xs.toFinset := by
  ext x
  simp [mem_sortedStrs]

/-- Of equal sorted lists of columns the sets are equal, too. -/
theorem SameShape.uniqueSets (h : SameShape t u) :
    (t.uniqueConstraints.map fun uq => uq.columns.toFinset).Perm
      (u.uniqueConstraints.map fun uq => uq.columns.toFinset) := by
  have hsets := h.uniqueConstraints.map List.toFinset
  simpa only [List.map_map, Function.comp_def, toFinset_sortedStrs] using hsets

theorem SameShape.sameTable (h : SameShape t u) (hcolumns : SameColumns t u)
    (hreferences : (t.foreignKeys.map reference).Perm (u.foreignKeys.map reference)) :
    SameTable t u where
  schemaName := h.schemaName
  name := h.name
  kind := h.kind
  columns := hcolumns
  primaryKey := List.toFinset_eq_of_perm _ _ h.primaryKey
  uniqueConstraints := h.uniqueSets
  foreignKeys := hreferences

end

/-- Tables with one fingerprint are the same table exactly if they are not confused. -/
theorem fingerprint_faithful (std : Stdlib) (hsha : Function.Injective std.sha256)
    (t u : TableMetadata) :
    (fingerprintTable std t = fingerprintTable std u → SameTable t u) ↔ ¬Confused t u := by
  rw [fingerprintTable_eq_iff hsha]
  constructor
  · intro h hconfused
    exact hconfused.references (h ⟨hconfused.columns, hconfused.shape⟩).foreignKeys
  · rintro h ⟨hcolumns, hshape⟩
    refine hshape.sameTable hcolumns ?_
    by_contra hreferences
    exact h ⟨hcolumns, hshape, hreferences⟩

namespace Sample

/-- A table with a composite foreign key. -/
def composite (referencedSchema : String) (referencedColumns : List String) : TableMetadata :=
  { HermesRpt.Sample.vehicles with foreignKeys := [
    { constraintName := "fk_plate", columns := ["plate", "in_use"], referencedSchema,
      referencedTable := "plates", referencedColumns }] }

end Sample

theorem fingerprint_faithful_sample :
    (fingerprintTable HermesRpt.Sample.std (Sample.composite "fleet" ["plate", "valid"]) =
        fingerprintTable HermesRpt.Sample.std (Sample.composite "fleet" ["plate", "kind"]) →
      SameTable (Sample.composite "fleet" ["plate", "valid"])
        (Sample.composite "fleet" ["plate", "kind"])) ↔
      ¬Confused (Sample.composite "fleet" ["plate", "valid"])
        (Sample.composite "fleet" ["plate", "kind"]) :=
  fingerprint_faithful HermesRpt.Sample.std Sample.sha256_injective _ _

/-- The pairing of the columns is lost, and so is the schema. -/
theorem references_lost :
    (fingerprintTable HermesRpt.Sample.std (Sample.composite "fleet" ["plate", "valid"]) =
        fingerprintTable HermesRpt.Sample.std (Sample.composite "fleet" ["valid", "plate"]) ∧
      ¬SameTable (Sample.composite "fleet" ["plate", "valid"])
        (Sample.composite "fleet" ["valid", "plate"])) ∧
    fingerprintTable HermesRpt.Sample.std (Sample.composite "fleet" ["plate", "valid"]) =
        fingerprintTable HermesRpt.Sample.std (Sample.composite "archive" ["plate", "valid"]) ∧
      ¬SameTable (Sample.composite "fleet" ["plate", "valid"])
        (Sample.composite "archive" ["plate", "valid"]) := by
  have hsame : ∀ {s s' : String} {columns columns' : List String}, columns.Perm columns' →
      fingerprintTable HermesRpt.Sample.std (Sample.composite s columns) =
        fingerprintTable HermesRpt.Sample.std (Sample.composite s' columns') := by
    intro s s' columns columns' h
    refine (fingerprintTable_eq_iff Sample.sha256_injective).2 ⟨.refl _, rfl, rfl, rfl, .refl _, ?_,
      .refl _⟩
    simp [Sample.composite, relationshipShape, sortedStrs_eq_iff.2 h]
  refine ⟨⟨hsame (.swap _ _ _), fun h => ?_⟩, hsame (.refl _), fun h => ?_⟩
  · have hreference := List.singleton_perm_singleton.1 h.foreignKeys
    revert hreference
    decide
  · have hreference := List.singleton_perm_singleton.1 h.foreignKeys
    revert hreference
    decide

end Schemas

end HermesRpt
