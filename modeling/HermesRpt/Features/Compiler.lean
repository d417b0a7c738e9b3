import HermesRpt.Features.Derive
import HermesRpt.Features.Runtime
import HermesRpt.Ontology.V1

/-!
# HermesRpt.Features.Compiler

The query compiler: select statements built from a mapping document, each on an allowlisted table
and with a limit.

* `resolveColumn`        : the column of a field, from its first source.
* `fetchTargetRow`       : one row by its identity.
* `fetchRowsInRange`     : rows of a time range, for dataset building.
* `fetchRelatedRecords`  : whole records of a related entity.
* `compileAndRunRelatedFeature` : one recipe of a related feature.
-/

namespace HermesRpt

namespace Features

open Effect Connectors Mappings
open Keyed (Dict)
open FeatureKind ( RELATED_RATIO)

/-- A fetched row: the value of each selected field. -/
abbrev FieldRow := Dict String ScalarValue

/-- `row.get(field)` -/
def FieldRow.value (row : FieldRow) (fieldName : String) : ScalarValue :=
  (row.get? fieldName).getD none

def notDirectlyMapped (fieldName : String) : PyError :=
  ⟨.ColumnNotDirectlyMappedError, "Field " ++ reprStr fieldName ++
    " is not mapped to a plain column (mapped via static/derived)"⟩

def resolveColumn (document : MappingDocument) (fieldName : String) :
    Except PyError (Option String) :=
  match document.allFieldMappings.get? fieldName with
  | none => .ok none
  | some fieldMapping =>
    match fieldMapping.firstSource.column with
    | none => .error (notDirectlyMapped fieldName)
    | some column => .ok (some column)

/-- `_identity_column` -/
def identityColumn (document : MappingDocument) : Except PyError (String × String) :=
  match document.identity.keys with
  | [fieldName] => do
    match ← resolveColumn document fieldName with
    | none => .error ⟨.ColumnNotDirectlyMappedError,
        "Identity field " ++ reprStr fieldName ++ " has no column mapping"⟩
    | some column => return (fieldName, column)
  | keys => .error ⟨.ColumnNotDirectlyMappedError,
      "Expected exactly one identity field, found " ++ reprStrList keys⟩

def identityFieldName (document : MappingDocument) : Except PyError String := do
  return (← identityColumn document).1

/-- `_datetime_field_names` -/
def datetimeFieldNames (document : MappingDocument) : Except PyError (List String) := do
  let ontology ← Ontology.getOntology Ontology.defaultOntologyVersion
  let entity ← ontology.getEntity document.entity
  return (entity.fields.filter (·.logicalType = .datetime)).map (·.name)

/-- One value of `_coerce_row_datetimes`: a text becomes the datetime it spells. -/
def coerceValue (std : Stdlib) : ScalarValue → Except PyError ScalarValue
  | some (.str s) => do return some (.datetime (← parseDatetime std s))
  | v => .ok v

/-- `_coerce_row_datetimes` -/
def coerceRowDatetimes (std : Stdlib) (row : FieldRow) (datetimeFields : List String) :
    Except PyError FieldRow :=
  (std.setOrder datetimeFields).foldlM (fun coerced fieldName => do
    match coerced.get? fieldName with
    | none => return coerced
    | some value => return coerced.set fieldName (← coerceValue std value)) row

/-- `_check_allowlisted` -/
def checkAllowlisted (document : MappingDocument) (connection : CustomerDatabaseConnection) :
    Except PyError Unit :=
  assertObjectAllowed document.source.schemaName (some document.source.table)
    connection.schemaAllowlist connection.tableAllowlist

/-- The fields that are mapped to a column, added to `columns` in the order they come in. -/
def addColumns (document : MappingDocument) (columns : Dict String String)
    (fieldNames : List String) : Except PyError (Dict String String) :=
  fieldNames.foldlM (fun columns fieldName => do
    if fieldName ∈ columns.keys then return columns
    else match ← resolveColumn document fieldName with
      | none => return columns
      | some column => return columns.set fieldName column) columns

/-- A row under the fields' names. -/
def readRow (columns : Dict String String) (row : Sql.Row Value) : FieldRow :=
  columns.mapValues row

/-- `select(…).select_from(table)` on the document's source table. -/
def selectFrom (document : MappingDocument) (output : Sql.Output Value)
    (conditions : List (Sql.Condition Value)) (orderBy : Option Sql.Order := none)
    (limit : Option Nat := none) : Sql.Select Value :=
  { schemaName := document.source.schemaName, table := document.source.table, output, conditions,
    orderBy, limit }

/-- One row, not coerced. -/
def fetchTargetRow (env : Environment) (engine : Engine) (document : MappingDocument)
    (businessReference : String) (neededFields : List String)
    (connection : CustomerDatabaseConnection) : Extraction (Option FieldRow) := do
  Process.lift (checkAllowlisted document connection)
  let (identityField, identityColumn) ← Process.lift (identityColumn document)
  let columns ← Process.lift <| addColumns document
    (Dict.ofList [(identityField, identityColumn)]) (env.std.setOrder neededFields)
  let rows ← execute env engine <| selectFrom document (.columns columns.values)
    [⟨identityColumn, .eq, .str businessReference⟩] none (some 1)
  return rows.head?.map (readRow columns)

/-- The rows with a time in `[start, end)`, oldest first, coerced. -/
def fetchRowsInRange (env : Environment) (engine : Engine) (document : MappingDocument)
    (timeField : String) (rangeStart rangeEnd : DateTime) (neededFields : List String)
    (connection : CustomerDatabaseConnection) : Extraction (List FieldRow) := do
  Process.lift (checkAllowlisted document connection)
  let (identityField, identityColumn) ← Process.lift (identityColumn document)
  match ← Process.lift (resolveColumn document timeField) with
  | none => return []
  | some timeColumn =>
    let columns ← Process.lift <| addColumns document
      (Dict.ofList [(identityField, identityColumn)])
      (env.std.setOrder (neededFields ++ [timeField]))
    let datetimeFields ← Process.lift (datetimeFieldNames document)
    let rows ← execute env engine <| selectFrom document (.columns columns.values)
      [⟨timeColumn, .ge, .datetime rangeStart⟩, ⟨timeColumn, .lt, .datetime rangeEnd⟩]
      (some { column := timeColumn }) (some datasetBuildRowLimit)
    Process.lift <| rows.mapM fun row => coerceRowDatetimes env.std (readRow columns row) datetimeFields

/-- Whole records with `joinValue`, most recent first, coerced; before `predictionTime` when the
timestamp is mapped. -/
def fetchRelatedRecords (env : Environment) (engine : Engine) (document : MappingDocument)
    (joinField : String) (joinValue : Value) (timestampField : Option String)
    (predictionTime : Option DateTime) (limit : Nat) (connection : CustomerDatabaseConnection) :
    Extraction (List FieldRow) := do
  Process.lift (checkAllowlisted document connection)
  match ← Process.lift (resolveColumn document joinField) with
  | none => return []
  | some joinColumn =>
    let columns ← Process.lift <| addColumns document Keyed.Table.empty
      document.allFieldMappings.keys
    let timestampColumn ← Process.lift <| match given timestampField with
      | some timestampField => resolveColumn document timestampField
      | none => .ok none
    let cutoff := match timestampColumn, predictionTime with
      | some column, some time => [⟨column, .lt, .datetime time⟩]
      | _, _ => []
    let datetimeFields ← Process.lift (datetimeFieldNames document)
    let rows ← execute env engine <| selectFrom document (.columns columns.values)
      (⟨joinColumn, .eq, joinValue⟩ :: cutoff)
      (timestampColumn.map fun column => { column, descending := true }) (some limit)
    Process.lift <| rows.mapM fun row => coerceRowDatetimes env.std (readRow columns row) datetimeFields

/-- An `assert` without a text. -/
def assertionError : PyError := ⟨.AssertionError, ""⟩

/-- The column of a field that the recipe asserts to be given. -/
def assertedColumn (document : MappingDocument) (fieldName : Option String) :
    Except PyError (Option String) :=
  match fieldName with
  | none => .error assertionError
  | some fieldName => resolveColumn document fieldName

/-- The cutoff before `prediction_time` and the window, when the timestamp is mapped. -/
def timeConditions (feature : FeatureSpec) (timestampColumn : Option String)
    (predictionTime : DateTime) : Except PyError (List (Sql.Condition Value)) :=
  match timestampColumn with
  | none => .ok []
  | some column => do
    match ← enforceWindowLimit feature.historicalWindowDays with
    | none => return [⟨column, .lt, .datetime predictionTime⟩]
    | some days => return [⟨column, .lt, .datetime predictionTime⟩,
        ⟨column, .ge, .datetime (predictionTime.minusDays days)⟩]

/-- The filter of a count; a filter field without a column filters nothing. -/
def filterCondition (document : MappingDocument) (feature : FeatureSpec) :
    Except PyError (List (Sql.Condition Value)) :=
  match given feature.relatedFilterField, feature.relatedFilterEquals with
  | some filterField, some filterValue => do
    match ← resolveColumn document filterField with
    | none => return []
    | some filterColumn => return [⟨filterColumn, .eq, .str filterValue⟩]
  | _, _ => .ok []

/-- The days from the latest timestamp to `prediction_time`. -/
def recencyDays (std : Stdlib) (rawLatest : Option Value) (predictionTime : DateTime) :
    Except PyError (Option Value) := do
  match ← coerceDatetime std rawLatest with
  | none => return none
  | some latest => return some (.float (predictionTime.secondsSince latest / 86400))

def compileAndRunRelatedFeature (env : Environment) (engine : Engine) (feature : FeatureSpec)
    (document : MappingDocument) (joinValue : Value) (predictionTime : DateTime)
    (connection : CustomerDatabaseConnection) : Extraction (Option Value) := do
  Process.lift (checkAllowlisted document connection)
  match ← Process.lift (assertedColumn document feature.relatedFkFieldOnTarget) with
  | none => return none
  | some joinColumn =>
    let timestampColumn ← Process.lift <| match given feature.relatedTimestampField with
      | some timestampField => resolveColumn document timestampField
      | none => .ok none
    let times ← Process.lift (timeConditions feature timestampColumn predictionTime)
    let conditions := ⟨joinColumn, .eq, joinValue⟩ :: times
    match feature.kind with
    | .RELATED_COUNT =>
      let filter ← Process.lift (filterCondition document feature)
      let rows ← execute env engine (selectFrom document .count (conditions ++ filter))
      return some (.int rows.length)
    | RELATED_RATIO =>
      match ← Process.lift (assertedColumn document feature.relatedFilterField),
          feature.relatedFilterEquals with
      | some filterColumn, some filterValue =>
        let matched := ⟨filterColumn, .eq, .str filterValue⟩
        let rows ← execute env engine (selectFrom document (.countWhere matched) conditions)
        let count := Sql.countWhere (env.world engine).compare matched rows
        return if rows.length = 0 then none else some (.float ((count : ℚ) / rows.length))
      | _, _ => return none
    | .RELATED_RECENCY_DAYS =>
      match timestampColumn with
      | none => Process.raise assertionError
      | some timestampColumn =>
        let rows ← execute env engine (selectFrom document (.maximum timestampColumn) conditions)
        let rawLatest := Sql.maximum (env.world engine).compare timestampColumn rows
        Process.lift (recencyDays env.std rawLatest predictionTime)
    | .RELATED_LATEST_VALUE =>
      match ← Process.lift (assertedColumn document feature.relatedValueField) with
      | none => return none
      | some valueColumn =>
        let rows ← execute env engine <| selectFrom document (.columns [valueColumn]) conditions
          (timestampColumn.map fun column => { column, descending := true }) (some relatedRowLimit)
        return rows.head?.bind (· valueColumn)
    | kind => Process.raise ⟨.ValueError, "Unsupported feature kind: " ++ kind.value⟩

end Features

end HermesRpt
