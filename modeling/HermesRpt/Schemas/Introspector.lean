import HermesRpt.Lib.Dict
import HermesRpt.Schemas.Introspection
import Mathlib.Data.List.Sort
import Mathlib.Data.Prod.Lex
import Mathlib.Data.String.Basic

/-!
# HermesRpt.Schemas.Introspector

`PostgresSchemaIntrospector.introspect`: the catalog statements, each restricted to the allowed
schemas, and the result assembled from their rows.

* `Catalog`    : the catalog views of a server, as far as the statements look at them.
* `introspect` : the tables of the allowed schemas, sorted by qualified name.
-/

namespace HermesRpt

namespace Schemas

open Keyed (Dict)

/-! ## The catalog -/

/-- `information_schema.tables` -/
structure TablesRow where
  tableSchema : String
  tableName : String
  tableType : String

/-- `information_schema.columns` -/
structure ColumnsRow where
  tableSchema : String
  tableName : String
  columnName : String
  dataType : String
  isNullable : String
  ordinalPosition : Nat

/-- `information_schema.table_constraints` -/
structure TableConstraintsRow where
  tableSchema : String
  tableName : String
  constraintName : String
  constraintType : String

/-- `information_schema.key_column_usage` -/
structure KeyColumnUsageRow where
  tableSchema : String
  tableName : String
  constraintName : String
  columnName : String
  ordinalPosition : Nat

/-- `information_schema.constraint_column_usage` -/
structure ConstraintColumnUsageRow where
  tableSchema : String
  tableName : String
  constraintName : String
  columnName : String

/-- `pg_indexes` -/
structure IndexesRow where
  schemaName : String
  tableName : String
  indexName : String
  indexDef : String

/-- `pg_stat_user_tables` -/
structure StatRow where
  schemaName : String
  relName : String
  liveTuples : Nat

/-- `pg_class` with its namespace and its comment. -/
structure ClassRow where
  tableSchema : String
  tableName : String
  relkind : String
  comment : Option String

/-- `pg_attribute` with its class and its comment. -/
structure AttributeRow where
  tableSchema : String
  tableName : String
  columnName : String
  relkind : String
  attnum : Int
  isDropped : Bool
  comment : Option String

structure Catalog where
  tables : List TablesRow := []
  columns : List ColumnsRow := []
  tableConstraints : List TableConstraintsRow := []
  keyColumnUsage : List KeyColumnUsageRow := []
  constraintColumnUsage : List ConstraintColumnUsageRow := []
  indexes : List IndexesRow := []
  stats : List StatRow := []
  classes : List ClassRow := []
  attributes : List AttributeRow := []

/-! ## The statements -/

/-- `ORDER BY`, by the given keys in turn. -/
def orderBy {α κ : Type} [LinearOrder κ] (key : α → κ) (rows : List α) : List α :=
  rows.insertionSort fun a b => key a ≤ key b

/-- `_TABLES_SQL` -/
def tablesRows (catalog : Catalog) (schemas : List String) : List TablesRow :=
  orderBy (fun r => toLex (r.tableSchema, r.tableName)) <|
    catalog.tables.filter (·.tableSchema ∈ schemas)

/-- `_COLUMNS_SQL` -/
def columnsRows (catalog : Catalog) (schemas : List String) : List ColumnsRow :=
  orderBy (fun r => toLex (r.tableSchema, toLex (r.tableName, r.ordinalPosition))) <|
    catalog.columns.filter (·.tableSchema ∈ schemas)

/-- The constraints of a type with their key columns, joined by constraint name and schema. -/
def constraintColumns (catalog : Catalog) (schemas : List String) (constraintType : String) :
    List (TableConstraintsRow × KeyColumnUsageRow) :=
  (catalog.tableConstraints.filter fun tc =>
      tc.constraintType = constraintType ∧ tc.tableSchema ∈ schemas).flatMap fun tc =>
    (catalog.keyColumnUsage.filter fun kcu =>
      tc.constraintName = kcu.constraintName ∧ tc.tableSchema = kcu.tableSchema).map fun kcu =>
        (tc, kcu)

/-- `_PRIMARY_KEYS_SQL` -/
def primaryKeysRows (catalog : Catalog) (schemas : List String) :
    List (TableConstraintsRow × KeyColumnUsageRow) :=
  orderBy (fun r => toLex (r.1.tableSchema, toLex (r.1.tableName, r.2.ordinalPosition))) <|
    constraintColumns catalog schemas "PRIMARY KEY"

/-- `_UNIQUE_CONSTRAINTS_SQL` -/
def uniqueConstraintsRows (catalog : Catalog) (schemas : List String) :
    List (TableConstraintsRow × KeyColumnUsageRow) :=
  orderBy (fun r => toLex (r.1.tableSchema, toLex (r.1.tableName,
      toLex (r.1.constraintName, r.2.ordinalPosition)))) <|
    constraintColumns catalog schemas "UNIQUE"

/-- `_FOREIGN_KEYS_SQL`: also joined with the referenced columns, by constraint name and schema. -/
def foreignKeysRows (catalog : Catalog) (schemas : List String) :
    List (TableConstraintsRow × KeyColumnUsageRow × ConstraintColumnUsageRow) :=
  orderBy (fun r => toLex (r.1.tableSchema, toLex (r.1.tableName,
      toLex (r.1.constraintName, r.2.1.ordinalPosition)))) <|
    (constraintColumns catalog schemas "FOREIGN KEY").flatMap fun (tc, kcu) =>
      (catalog.constraintColumnUsage.filter fun ccu =>
        tc.constraintName = ccu.constraintName ∧ tc.tableSchema = ccu.tableSchema).map fun ccu =>
          (tc, kcu, ccu)

/-- `_INDEXES_SQL` -/
def indexesRows (catalog : Catalog) (schemas : List String) : List IndexesRow :=
  orderBy (fun r => toLex (r.schemaName, toLex (r.tableName, r.indexName))) <|
    catalog.indexes.filter (·.schemaName ∈ schemas)

/-- `_TABLE_COMMENTS_SQL` -/
def tableCommentRows (catalog : Catalog) (schemas : List String) : List ClassRow :=
  catalog.classes.filter fun r => r.tableSchema ∈ schemas ∧ r.relkind ∈ ["r", "v"]

/-- `_COLUMN_COMMENTS_SQL` -/
def columnCommentRows (catalog : Catalog) (schemas : List String) : List AttributeRow :=
  catalog.attributes.filter fun r =>
    r.tableSchema ∈ schemas ∧ r.relkind ∈ ["r", "v"] ∧ r.attnum > 0 ∧ ¬r.isDropped

/-! ## The result -/

abbrev TableKey := String × String

/-- The comments that are not empty. -/
def comments {κ : Type} [DecidableEq κ] (rows : List (κ × Option String)) : Dict κ String :=
  Dict.ofList (rows.filterMap fun (key, comment) => (comment.filter (· ≠ "")).map fun c => (key, c))

/-- `tables.get(key)`, changed when it is there. -/
def updateTable (tables : Dict TableKey TableMetadata) (key : TableKey)
    (f : TableMetadata → TableMetadata) : Dict TableKey TableMetadata :=
  match tables.get? key with
  | none => tables
  | some table => tables.set key (f table)

/-- The foreign keys of the rows, by table and constraint; the object in the dict is the one in the
table's list, so a later row still extends it. -/
def foreignKeyGroups
    (rows : List (TableConstraintsRow × KeyColumnUsageRow × ConstraintColumnUsageRow)) :
    Dict (String × String × String) ForeignKeyMetadata :=
  rows.foldl (fun groups (tc, kcu, ccu) =>
    let key := (tc.tableSchema, tc.tableName, tc.constraintName)
    let fk := (groups.get? key).getD
      { constraintName := tc.constraintName, columns := [], referencedSchema := ccu.tableSchema,
        referencedTable := ccu.tableName, referencedColumns := [] }
    groups.set key { fk with
      columns := fk.columns ++ [kcu.columnName],
      referencedColumns := fk.referencedColumns ++ [ccu.columnName] }) Keyed.Table.empty

def uniqueGroups (rows : List (TableConstraintsRow × KeyColumnUsageRow)) :
    Dict (String × String × String) UniqueConstraintMetadata :=
  rows.foldl (fun groups (tc, kcu) =>
    let key := (tc.tableSchema, tc.tableName, tc.constraintName)
    let uq := (groups.get? key).getD { constraintName := tc.constraintName, columns := [] }
    groups.set key { uq with columns := uq.columns ++ [kcu.columnName] }) Keyed.Table.empty

/-- The text between the first `(` and the last `)`. -/
def insideParentheses (indexDef : String) : Option String :=
  let cs := indexDef.toList
  if '(' ∈ cs ∧ ')' ∈ cs then
    let start := cs.idxOf '(' + 1
    let stop := cs.length - 1 - cs.reverse.idxOf ')'
    some (String.ofList ((cs.take stop).drop start))
  else none

/-- `_extract_index_columns` -/
def extractIndexColumns (std : Stdlib) (indexDef : String) : List String :=
  match insideParentheses indexDef with
  | none => []
  | some inner => ((inner.splitOn ",").map std.strip).filterMap fun part =>
      if part = "" then none else (part.splitOn " ").head?

/-- `"UNIQUE" in indexdef.split("(")[0].upper()` -/
def indexIsUnique (std : Stdlib) (indexDef : String) : Bool :=
  let head := (indexDef.splitOn "(").headD ""
  1 < ((std.upper head).splitOn "UNIQUE").length

/-- The tables of the rows, each with its comment and its row count. -/
def tableDict (catalog : Catalog) (schemas : List String) : Dict TableKey TableMetadata :=
  let tableComments := comments <| (tableCommentRows catalog schemas).map fun r =>
    ((r.tableSchema, r.tableName), r.comment)
  let rowCounts : Dict TableKey Nat := Dict.ofList <|
    (catalog.stats.filter (·.schemaName ∈ schemas)).map fun r =>
      ((r.schemaName, r.relName), r.liveTuples)
  Dict.ofList <| (tablesRows catalog schemas).map fun r =>
    let key := (r.tableSchema, r.tableName)
    (key, {
      schemaName := r.tableSchema, name := r.tableName,
      kind := if r.tableType = "VIEW" then "view" else "table",
      comment := tableComments.get? key, approximateRowCount := rowCounts.get? key })

abbrev Tables := Dict TableKey TableMetadata

def withColumns (catalog : Catalog) (schemas : List String) (tables : Tables) : Tables :=
  let columnComments := comments <| (columnCommentRows catalog schemas).map fun r =>
    ((r.tableSchema, r.tableName, r.columnName), r.comment)
  (columnsRows catalog schemas).foldl (fun tables r =>
    updateTable tables (r.tableSchema, r.tableName) fun table =>
      { table with columns := table.columns ++ [{
          name := r.columnName, sqlType := r.dataType, isNullable := r.isNullable = "YES",
          ordinalPosition := r.ordinalPosition,
          comment := columnComments.get? (r.tableSchema, r.tableName, r.columnName) }] }) tables

def withPrimaryKeys (catalog : Catalog) (schemas : List String) (tables : Tables) : Tables :=
  (primaryKeysRows catalog schemas).foldl (fun tables r =>
    updateTable tables (r.1.tableSchema, r.1.tableName) fun table =>
      { table with primaryKeyColumns := table.primaryKeyColumns ++ [r.2.columnName] }) tables

def withForeignKeys (catalog : Catalog) (schemas : List String) (tables : Tables) : Tables :=
  (foreignKeyGroups (foreignKeysRows catalog schemas)).rows.foldl (fun tables r =>
    updateTable tables (r.1.1, r.1.2.1) fun table =>
      { table with foreignKeys := table.foreignKeys ++ [r.2] }) tables

def withUniqueConstraints (catalog : Catalog) (schemas : List String) (tables : Tables) : Tables :=
  (uniqueGroups (uniqueConstraintsRows catalog schemas)).rows.foldl (fun tables r =>
    updateTable tables (r.1.1, r.1.2.1) fun table =>
      { table with uniqueConstraints := table.uniqueConstraints ++ [r.2] }) tables

def withIndexes (std : Stdlib) (catalog : Catalog) (schemas : List String) (tables : Tables) :
    Tables :=
  (indexesRows catalog schemas).foldl (fun tables r =>
    updateTable tables (r.schemaName, r.tableName) fun table =>
      { table with indexes := table.indexes ++ [{
          name := r.indexName, columns := extractIndexColumns std r.indexDef,
          isUnique := indexIsUnique std r.indexDef }] }) tables

/-- The tables with their columns, keys, constraints and indexes. -/
def describedTables (std : Stdlib) (catalog : Catalog) (schemas : List String) : Tables :=
  withIndexes std catalog schemas <| withUniqueConstraints catalog schemas <|
    withForeignKeys catalog schemas <| withPrimaryKeys catalog schemas <|
      withColumns catalog schemas (tableDict catalog schemas)

/-- An empty allowlist introspects nothing. -/
def introspect (std : Stdlib) (catalog : Catalog) (schemaAllowlist : List String) :
    SchemaIntrospectionResult :=
  if schemaAllowlist = [] then { schemas := [] }
  else {
    schemas := schemaAllowlist
    tables := orderBy (·.qualifiedName) (describedTables std catalog schemaAllowlist).values }

/-! ## What a pass over some rows does -/

section

variable {α β : Type} (key : α → TableKey) (f : α → TableMetadata → TableMetadata)

theorem get?_updateTable (tables : Tables) (k k' : TableKey) (g : TableMetadata → TableMetadata) :
    (updateTable tables k g).get? k' =
      if k' = k then (tables.get? k').map g else tables.get? k' := by
  unfold updateTable
  cases h : tables.get? k with
  | none =>
    by_cases hk : k' = k
    · simp [hk, h]
    · simp [hk]
  | some t =>
    rw [Dict.get?_set]
    by_cases hk : k' = k
    · simp [hk, h]
    · simp [hk]

/-- Each table is changed by its own rows, in their order. -/
theorem get?_pass (rows : List α) (tables : Tables) (k : TableKey) :
    (rows.foldl (fun tables r => updateTable tables (key r) (f r)) tables).get? k =
      (tables.get? k).map fun t => (rows.filter (key · = k)).foldl (fun t r => f r t) t := by
  induction rows generalizing tables with
  | nil => simp
  | cons r rows ih =>
    rw [List.foldl_cons, ih, get?_updateTable]
    by_cases hk : key r = k
    · simp [hk, Option.map_map, Function.comp_def]
    · simp [hk, Ne.symm hk]

/-- What no row changes is kept. -/
theorem map_get?_pass {view : TableMetadata → β} (hf : ∀ r t, view (f r t) = view t)
    (rows : List α) (tables : Tables) (k : TableKey) :
    ((rows.foldl (fun tables r => updateTable tables (key r) (f r)) tables).get? k).map view =
      (tables.get? k).map view := by
  have hfold : ∀ (l : List α) t, view (l.foldl (fun t r => f r t) t) = view t := by
    intro l
    induction l with
    | nil => intro t; rfl
    | cons r l ih => intro t; rw [List.foldl_cons, ih, hf]
  rw [get?_pass, Option.map_map]
  exact congrArg (Option.map · _) (funext fun t => hfold _ t)

end

/-! ## Which tables are in the result -/

section

variable {std : Stdlib} {catalog : Catalog} {schemas : List String}

/-- Every table of the dict is of an allowed schema. -/
def OfSchemas (schemas : List String) (tables : Dict TableKey TableMetadata) : Prop :=
  ∀ key table, tables.get? key = some table → table.schemaName ∈ schemas

theorem ofSchemas_set {tables : Dict TableKey TableMetadata} {key : TableKey}
    {table : TableMetadata} (h : OfSchemas schemas tables) (ht : table.schemaName ∈ schemas) :
    OfSchemas schemas (tables.set key table) := by
  intro k t hk
  rw [Dict.get?_set] at hk
  split at hk
  · cases hk; exact ht
  · exact h k t hk

theorem ofSchemas_updateTable {tables : Dict TableKey TableMetadata} {key : TableKey}
    {f : TableMetadata → TableMetadata} (hf : ∀ t, (f t).schemaName = t.schemaName)
    (h : OfSchemas schemas tables) : OfSchemas schemas (updateTable tables key f) := by
  unfold updateTable
  cases hk : tables.get? key with
  | none => exact h
  | some table => exact ofSchemas_set h (by rw [hf]; exact h key table hk)

/-- A pass over some rows changes tables, but adds none. -/
theorem ofSchemas_pass {α : Type} {rows : List α} {key : α → TableKey}
    {f : α → TableMetadata → TableMetadata} (hf : ∀ r t, (f r t).schemaName = t.schemaName)
    {tables : Tables} (h : OfSchemas schemas tables) :
    OfSchemas schemas (rows.foldl (fun tables r => updateTable tables (key r) (f r)) tables) := by
  induction rows generalizing tables with
  | nil => exact h
  | cons r rows ih => exact ih (ofSchemas_updateTable (hf r) h)

theorem ofSchemas_ofList {l : List (TableKey × TableMetadata)}
    (h : ∀ p ∈ l, p.2.schemaName ∈ schemas) : OfSchemas schemas (Dict.ofList l) := by
  suffices key : ∀ tables, OfSchemas schemas tables →
      OfSchemas schemas (l.foldl (fun acc p => Dict.set acc p.1 p.2) tables) from
    key _ fun _ _ h => by cases h
  induction l with
  | nil => exact fun _ h => h
  | cons p l ih =>
    exact fun tables ht => ih (fun q hq => h q (by simp [hq])) _ (ofSchemas_set ht (h p (by simp)))

theorem ofSchemas_tableDict : OfSchemas schemas (tableDict catalog schemas) := by
  refine ofSchemas_ofList fun p hp => ?_
  obtain ⟨row, hrow, rfl⟩ := List.mem_map.1 hp
  simp only [tablesRows, orderBy, List.mem_insertionSort, List.mem_filter,
    decide_eq_true_eq] at hrow
  exact hrow.2

theorem ofSchemas_describedTables : OfSchemas schemas (describedTables std catalog schemas) := by
  refine ofSchemas_pass (by intros; rfl) ?_
  refine ofSchemas_pass (by intros; rfl) ?_
  refine ofSchemas_pass (by intros; rfl) ?_
  refine ofSchemas_pass (by intros; rfl) ?_
  exact ofSchemas_pass (by intros; rfl) ofSchemas_tableDict

/-- Introspection finds only tables of the allowed schemas. -/
theorem schemaName_of_introspect {table : TableMetadata}
    (h : table ∈ (introspect std catalog schemas).tables) : table.schemaName ∈ schemas := by
  unfold introspect at h
  split at h
  · cases h
  · simp only [orderBy, List.mem_insertionSort, Dict.values, List.mem_map] at h
    obtain ⟨⟨key, t⟩, hmem, rfl⟩ := h
    exact ofSchemas_describedTables key t (Dict.get?_eq_some.2 hmem)

end

end Schemas

end HermesRpt
