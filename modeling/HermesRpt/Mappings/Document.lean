import HermesRpt.Lib.Dict
import HermesRpt.Mappings.Expressions

/-!
# HermesRpt.Mappings.Document

The declarative mapping document. Each model carries its validators as fields: a table whose name
is not a plain identifier, a value source of two kinds, or a document without an identity cannot
be built. A stored document was validated when it was parsed, and `model_validate` of its dump
gives it back, so the model stores the document itself.
-/

namespace HermesRpt

namespace Mappings

open Keyed (Dict)

def isIdentifierStart (c : Char) : Bool :=
  ('a' ≤ c && c ≤ 'z') || ('A' ≤ c && c ≤ 'Z') || c = '_'

def isIdentifierPart (c : Char) : Bool := isIdentifierStart c || ('0' ≤ c && c ≤ '9')

/-- `_IDENTIFIER_PATTERN.match(value)`. The pattern's `$` also matches before a final newline. -/
def isIdentifier (value : String) : Bool :=
  let cs := value.toList
  let body := if cs.getLast? = some '\n' then cs.dropLast else cs
  match body with
  | [] => false
  | c :: rest => isIdentifierStart c && rest.all isIdentifierPart

structure SourceTable where
  schemaName : String
  table : String
  schema_identifier : isIdentifier schemaName = true := by decide
  table_identifier : isIdentifier table = true := by decide

/-- `f"{source.schema_name}.{source.table}"` -/
def SourceTable.qualifiedName (source : SourceTable) : String :=
  source.schemaName ++ "." ++ source.table

/-- Python's truth value of an optional string. -/
def truthy (s : Option String) : Bool := s.any (· ≠ "")

/-- One candidate source for a field's value. -/
structure ValueSource where
  column : Option String := none
  static : ScalarValue := none
  derived : Option Expression := none
  sourceUnit : Option String := none
  sourceTimezone : Option String := none
  valueMap : Option (Dict String String) := none
  nullValues : List String := []
  /-- `_exactly_one_source_kind` -/
  one_kind : column.isSome.toNat + static.isSome.toNat + derived.isSome.toNat = 1 := by rfl
  column_identifier : column.all isIdentifier = true := by first | rfl | decide
  column_only : (truthy sourceUnit || truthy sourceTimezone || valueMap.any (!·.rows.isEmpty)) = true →
    column.isSome = true := by simp [truthy]

structure FieldMapping where
  sources : List ValueSource
  default : ScalarValue := none
  sources_ne : sources ≠ [] := by simp

/-- A single structured comparison. -/
structure FilterCondition where
  column : String
  equals : ScalarValue := none
  notEquals : ScalarValue := none
  isNull : Option Bool := none
  column_identifier : isIdentifier column = true := by decide
  one_comparison : equals.isSome.toNat + notEquals.isSome.toNat + isNull.isSome.toNat = 1 := by rfl

structure JoinDefinition where
  relationship : String
  schemaName : String
  table : String
  localColumn : String
  foreignColumn : String
  identifiers : [schemaName, table, localColumn, foreignColumn].all isIdentifier = true := by decide

structure MappingDocument where
  entity : String
  source : SourceTable
  identity : Dict String FieldMapping
  fields : Dict String FieldMapping := Keyed.Table.empty
  filters : List FilterCondition := []
  joins : List JoinDefinition := []
  identity_ne : identity.rows ≠ [] := by simp

/-- `{**document.identity, **document.fields}` -/
def MappingDocument.allFieldMappings (document : MappingDocument) : Dict String FieldMapping :=
  document.identity.merge document.fields

/-- The first source: the list is never empty. -/
def FieldMapping.firstSource (fieldMapping : FieldMapping) : ValueSource :=
  fieldMapping.sources.head fieldMapping.sources_ne

end Mappings

end HermesRpt
