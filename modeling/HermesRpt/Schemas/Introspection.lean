import HermesRpt.Common.Python

/-!
# HermesRpt.Schemas.Introspection

What schema discovery finds in a customer database: tables with their columns, keys and
relationships.
-/

namespace HermesRpt

namespace Schemas

structure ColumnMetadata where
  name : String
  sqlType : String
  isNullable : Bool
  ordinalPosition : Nat
  comment : Option String := none
  deriving DecidableEq, Repr

structure ForeignKeyMetadata where
  constraintName : String
  columns : List String
  referencedSchema : String
  referencedTable : String
  referencedColumns : List String
  deriving DecidableEq, Repr

structure UniqueConstraintMetadata where
  constraintName : String
  columns : List String
  deriving DecidableEq, Repr

structure IndexMetadata where
  name : String
  columns : List String
  isUnique : Bool
  deriving DecidableEq, Repr

structure TableMetadata where
  schemaName : String
  name : String
  kind : String
  comment : Option String := none
  columns : List ColumnMetadata := []
  primaryKeyColumns : List String := []
  foreignKeys : List ForeignKeyMetadata := []
  uniqueConstraints : List UniqueConstraintMetadata := []
  indexes : List IndexMetadata := []
  approximateRowCount : Option Nat := none
  deriving DecidableEq, Repr

def TableMetadata.qualifiedName (table : TableMetadata) : String :=
  table.schemaName ++ "." ++ table.name

structure SchemaIntrospectionResult where
  schemas : List String
  tables : List TableMetadata := []
  deriving DecidableEq, Repr

/-- The first table of a qualified name. -/
def SchemaIntrospectionResult.table? (result : SchemaIntrospectionResult)
    (qualifiedName : String) : Option TableMetadata :=
  result.tables.find? (·.qualifiedName = qualifiedName)

end Schemas

end HermesRpt
