import HermesRpt.Lib.Dict
import HermesRpt.Lib.Json
import HermesRpt.Schemas.Introspection

/-!
# HermesRpt.Schemas.Fingerprint

Deterministic fingerprints of tables and schemas: hashes of normalized, sorted metadata. They hash
shape only, never row data.
-/

namespace HermesRpt

namespace Schemas

open Canonical (Json dumps)
open Keyed (Dict)

/-- `sorted(xs)` -/
def sortedStrs (xs : List String) : List String := xs.insertionSort (· ≤ ·)

/-- `_stable_hash` -/
def stableHash (std : Stdlib) (value : Json) : String := std.sha256 (dumps value)

def fingerprintColumn (std : Stdlib) (columnName sqlType : String) (isNullable : Bool) : String :=
  stableHash std (.obj [("name", .str columnName), ("type", .str sqlType),
    ("nullable", .bool isNullable)])

def fingerprintRelationship (std : Stdlib) (columns : List String) (referencedTable : String)
    (referencedColumns : List String) : String :=
  stableHash std (.obj [("columns", .strs (sortedStrs columns)),
    ("referenced_table", .str referencedTable),
    ("referenced_columns", .strs (sortedStrs referencedColumns))])

def columnFingerprints (std : Stdlib) (table : TableMetadata) : List String :=
  table.columns.map fun c => fingerprintColumn std c.name c.sqlType c.isNullable

def fingerprintTable (std : Stdlib) (table : TableMetadata) : String :=
  let relationshipFingerprints := table.foreignKeys.map fun fk =>
    fingerprintRelationship std fk.columns fk.referencedTable fk.referencedColumns
  let uniqueConstraints := table.uniqueConstraints.map fun uq =>
    stableHash std (.strs (sortedStrs uq.columns))
  stableHash std (.obj [("schema", .str table.schemaName), ("name", .str table.name),
    ("kind", .str table.kind), ("columns", .strs (sortedStrs (columnFingerprints std table))),
    ("primary_key", .strs (sortedStrs table.primaryKeyColumns)),
    ("relationships", .strs (sortedStrs relationshipFingerprints)),
    ("unique_constraints", .strs (sortedStrs uniqueConstraints))])

/-- The schema's fingerprint and every table's, by qualified name. -/
def computeFingerprints (std : Stdlib) (result : SchemaIntrospectionResult) :
    String × Dict String String :=
  let tableFingerprints : Dict String String :=
    Keyed.Dict.ofList (result.tables.map fun t => (t.qualifiedName, fingerprintTable std t))
  let schemaFingerprint := stableHash std (.obj [("schemas", .strs (sortedStrs result.schemas)),
    ("tables", .obj (tableFingerprints.rows.map fun p => (p.1, .str p.2)))])
  (schemaFingerprint, tableFingerprints)

end Schemas

end HermesRpt
