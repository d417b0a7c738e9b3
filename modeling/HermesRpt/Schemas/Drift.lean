import HermesRpt.Schemas.Fingerprint
import Mathlib.Data.Finset.Card

/-!
# HermesRpt.Schemas.Drift

Comparison of two introspection results. A renamed-looking table is flagged, never resolved.
-/

namespace HermesRpt

namespace Schemas

open Keyed (Dict)

inductive DriftEventType where
  | TABLE_ADDED | TABLE_REMOVED | TABLE_RENAMED_LIKELY | COLUMN_ADDED | COLUMN_REMOVED
  | COLUMN_TYPE_CHANGED | COLUMN_NULLABILITY_CHANGED | RELATIONSHIP_CHANGED
  deriving DecidableEq, Repr

structure DriftEvent where
  eventType : DriftEventType
  table : String
  detail : String
  deriving DecidableEq, Repr

/-- `_RENAME_SIMILARITY_THRESHOLD` -/
def renameSimilarityThreshold : ℚ := 7 / 10

/-- `_column_fingerprint_set` -/
def columnFingerprintSet (std : Stdlib) (table : TableMetadata) : Finset String :=
  (columnFingerprints std table).toFinset

/-- `_relationship_signature` -/
def relationshipSignature (table : TableMetadata) : Finset (String × List String × String) :=
  (table.foreignKeys.map fun fk =>
    (fk.constraintName, sortedStrs fk.columns, fk.referencedTable)).toFinset

/-- The candidate after the comparison with one more added table. -/
def likelyRenameStep (std : Stdlib) (removedColumns : Finset String)
    (best : Option (ℚ × TableMetadata)) (candidate : TableMetadata) : Option (ℚ × TableMetadata) :=
  let candidateColumns := columnFingerprintSet std candidate
  if candidateColumns = ∅ then best
  else
    let overlap := (removedColumns ∩ candidateColumns).card
    let similarity : ℚ := overlap / max removedColumns.card candidateColumns.card
    if similarity ≥ renameSimilarityThreshold ∧ best.all (fun b => similarity > b.1) then
      some (similarity, candidate)
    else best

/-- `_likely_rename_target` -/
def likelyRenameTarget (std : Stdlib) (removed : TableMetadata) (addedTables : List TableMetadata) :
    Option TableMetadata :=
  let removedColumns := columnFingerprintSet std removed
  if removedColumns = ∅ then none
  else (addedTables.foldl (likelyRenameStep std removedColumns) none).map Prod.snd

/-- `{t.qualified_name: t for t in result.tables}` -/
def tablesByName (result : SchemaIntrospectionResult) : Dict String TableMetadata :=
  Keyed.Dict.ofList (result.tables.map fun t => (t.qualifiedName, t))

/-- `{c.name: c for c in table.columns}` -/
def columnsByName (table : TableMetadata) : Dict String ColumnMetadata :=
  Keyed.Dict.ofList (table.columns.map fun c => (c.name, c))

def pyBool (b : Bool) : String := if b then "True" else "False"

/-- The events of one column both tables have. -/
def columnEvents (table colName : String) (oldCol newCol : ColumnMetadata) : List DriftEvent :=
  (if oldCol.sqlType = newCol.sqlType then [] else
    [⟨.COLUMN_TYPE_CHANGED, table, "Column '" ++ colName ++ "' type changed from '" ++
      oldCol.sqlType ++ "' to '" ++ newCol.sqlType ++ "'"⟩]) ++
  (if oldCol.isNullable = newCol.isNullable then [] else
    [⟨.COLUMN_NULLABILITY_CHANGED, table, "Column '" ++ colName ++ "' nullability changed from " ++
      pyBool oldCol.isNullable ++ " to " ++ pyBool newCol.isNullable⟩])

/-- The events of one table both schemas have. -/
def tableEvents (name : String) (oldTable newTable : TableMetadata) : List DriftEvent :=
  let oldColumns := columnsByName oldTable
  let newColumns := columnsByName newTable
  (sortedStrs (newColumns.keys.filter (· ∉ oldColumns.keys))).map (fun colName =>
    (⟨.COLUMN_ADDED, name, "Column '" ++ colName ++ "' added"⟩ : DriftEvent)) ++
  (sortedStrs (oldColumns.keys.filter (· ∉ newColumns.keys))).map (fun colName =>
    (⟨.COLUMN_REMOVED, name, "Column '" ++ colName ++ "' removed"⟩ : DriftEvent)) ++
  (sortedStrs (oldColumns.keys.filter (· ∈ newColumns.keys))).flatMap (fun colName =>
    match oldColumns.get? colName, newColumns.get? colName with
    | some oldCol, some newCol => columnEvents name colName oldCol newCol
    | _, _ => []) ++
  (if relationshipSignature oldTable = relationshipSignature newTable then [] else
    [⟨.RELATIONSHIP_CHANGED, name, "Foreign key relationships changed"⟩])

/-- The likely renames, in the order of the removed names. -/
def renamedPairs (std : Stdlib) (old new : SchemaIntrospectionResult) : List (String × String) :=
  let oldByName := tablesByName old
  let newByName := tablesByName new
  let removedNames := oldByName.keys.filter (· ∉ newByName.keys)
  let addedNames := newByName.keys.filter (· ∉ oldByName.keys)
  let addedTables := (std.setOrder addedNames).filterMap newByName.get?
  (sortedStrs removedNames).filterMap fun removedName => do
    let removed ← oldByName.get? removedName
    let target ← likelyRenameTarget std removed addedTables
    return (removedName, target.qualifiedName)

def compareSnapshots (std : Stdlib) (old new : SchemaIntrospectionResult) : List DriftEvent :=
  let oldByName := tablesByName old
  let newByName := tablesByName new
  let removedNames := oldByName.keys.filter (· ∉ newByName.keys)
  let addedNames := newByName.keys.filter (· ∉ oldByName.keys)
  let commonNames := oldByName.keys.filter (· ∈ newByName.keys)
  let renamed := renamedPairs std old new
  renamed.map (fun p =>
    (⟨.TABLE_RENAMED_LIKELY, p.1, "'" ++ p.1 ++ "' looks like it may have been renamed to '" ++
      p.2 ++ "' (similar columns) — not auto-approved"⟩ : DriftEvent)) ++
  (sortedStrs (removedNames.filter (· ∉ renamed.map Prod.fst))).map (fun name =>
    (⟨.TABLE_REMOVED, name, "Table removed"⟩ : DriftEvent)) ++
  (sortedStrs (addedNames.filter (· ∉ renamed.map Prod.snd))).map (fun name =>
    (⟨.TABLE_ADDED, name, "Table added"⟩ : DriftEvent)) ++
  (sortedStrs commonNames).flatMap fun name =>
    match oldByName.get? name, newByName.get? name with
    | some oldTable, some newTable => tableEvents name oldTable newTable
    | _, _ => []

end Schemas

end HermesRpt
