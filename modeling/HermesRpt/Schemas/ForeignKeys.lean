import HermesRpt.Lib.Reordered
import HermesRpt.Schemas.Introspector
import HermesRpt.System

/-!
# HermesRpt.Schemas.ForeignKeys

Whether introspection finds the foreign keys of a database. The statement joins three catalog views
by the name of a constraint and the schema of a table, although a name is of one table only and the
referenced columns may be in another schema.

* `Database`           : tables and constraints; names of constraints differ within a table.
* `Shows`              : a catalog with the documented rows for a database.
* `foreignKeyRows_perm`: the rows of a foreign key, as a product.
* `Isolated`           : a foreign key that the join finds as it is.
* `foreign_keys_exact_iff` : introspection is exact if every foreign key is isolated, and only then.
-/

namespace HermesRpt

namespace Schemas

open Keyed (Dict)

/-! ## Databases -/

/-- What a foreign key refers to: pairs of a column and the referenced column. -/
structure Reference where
  referencedSchema : String
  referencedTable : String
  pairs : List (String × String)
  pairs_ne : pairs ≠ [] := by simp
  referenced_nodup : (pairs.map Prod.snd).Nodup := by decide

/-- What introspection should find of a foreign key of a name. -/
def Reference.metadata (reference : Reference) (name : String) : ForeignKeyMetadata where
  constraintName := name
  columns := reference.pairs.map Prod.fst
  referencedSchema := reference.referencedSchema
  referencedTable := reference.referencedTable
  referencedColumns := reference.pairs.map Prod.snd

inductive ConstraintBody where
  | primaryKey (columns : List String)
  | unique (columns : List String)
  | check (columns : List String)
  | foreignKey (reference : Reference)

/-- A constraint of a table. -/
structure TableConstraint where
  tableSchema : String
  tableName : String
  name : String
  body : ConstraintBody

namespace TableConstraint

def table (c : TableConstraint) : TableKey := (c.tableSchema, c.tableName)

def key (c : TableConstraint) : String × String × String := (c.tableSchema, c.tableName, c.name)

def constraintType (c : TableConstraint) : String :=
  match c.body with
  | .primaryKey _ => "PRIMARY KEY"
  | .unique _ => "UNIQUE"
  | .check _ => "CHECK"
  | .foreignKey _ => "FOREIGN KEY"

/-- The columns of a key, in its order; a check has none. -/
def keyColumns (c : TableConstraint) : List String :=
  match c.body with
  | .primaryKey columns => columns
  | .unique columns => columns
  | .check _ => []
  | .foreignKey reference => reference.pairs.map Prod.fst

/-- The row of `information_schema.table_constraints`. -/
def row (c : TableConstraint) : TableConstraintsRow where
  tableSchema := c.tableSchema
  tableName := c.tableName
  constraintName := c.name
  constraintType := c.constraintType

/-- The rows of `information_schema.key_column_usage`: every column of the key with its position. -/
def keyUsage (c : TableConstraint) : List KeyColumnUsageRow :=
  c.keyColumns.zipIdx.map fun p =>
    { tableSchema := c.tableSchema, tableName := c.tableName, constraintName := c.name,
      columnName := p.1, ordinalPosition := p.2 + 1 }

/-- The rows of `information_schema.constraint_column_usage`: the columns that a foreign key refers
to, each once, and the own columns of the other constraints. -/
def columnUsage (c : TableConstraint) : List ConstraintColumnUsageRow :=
  match c.body with
  | .foreignKey reference => reference.pairs.map fun p =>
      { tableSchema := reference.referencedSchema, tableName := reference.referencedTable,
        constraintName := c.name, columnName := p.2 }
  | .primaryKey columns | .unique columns | .check columns => columns.map fun column =>
      { tableSchema := c.tableSchema, tableName := c.tableName, constraintName := c.name,
        columnName := column }

theorem constraintName_of_mem_columnUsage {c : TableConstraint} {u : ConstraintColumnUsageRow}
    (h : u ∈ c.columnUsage) : u.constraintName = c.name := by
  unfold columnUsage at h
  split at h <;> obtain ⟨p, -, rfl⟩ := List.mem_map.1 h <;> rfl

/-- The metadata of a foreign key. -/
def foreignKey? (c : TableConstraint) : Option ForeignKeyMetadata :=
  match c.body with
  | .foreignKey reference => some (reference.metadata c.name)
  | _ => none

end TableConstraint

structure Database where
  tables : List TableKey
  constraints : List TableConstraint
  tables_nodup : tables.Nodup := by decide
  /-- The name of a constraint is unique within its table. -/
  names_nodup : (constraints.map TableConstraint.key).Nodup := by decide
  of_tables : ∀ c ∈ constraints, c.table ∈ tables := by decide

/-- The foreign keys of a table. -/
def Database.foreignKeysOf (db : Database) (table : TableKey) : List ForeignKeyMetadata :=
  (db.constraints.filter (·.table = table)).filterMap TableConstraint.foreignKey?

/-- The views of the catalog have the rows of the database, in any order. -/
structure Shows (catalog : Catalog) (db : Database) : Prop where
  tables : (catalog.tables.map fun r => (r.tableSchema, r.tableName)).Perm db.tables
  tableConstraints : catalog.tableConstraints.Perm (db.constraints.map TableConstraint.row)
  keyColumnUsage : catalog.keyColumnUsage.Perm (db.constraints.flatMap TableConstraint.keyUsage)
  constraintColumnUsage : catalog.constraintColumnUsage.Perm
    (db.constraints.flatMap TableConstraint.columnUsage)

/-- Introspection finds every allowed table, with its foreign keys. -/
def ForeignKeysExact (db : Database) (schemas : List String) (result : SchemaIntrospectionResult) :
    Prop :=
  ∀ table ∈ db.tables, table.1 ∈ schemas →
    (∃ t ∈ result.tables, (t.schemaName, t.name) = table) ∧
      ∀ t ∈ result.tables, (t.schemaName, t.name) = table →
        t.foreignKeys.Perm (db.foreignKeysOf table)

/-- The foreign key `c` has one column and refers to its own schema. No other table's constraint of
its name has key columns in the schema, or uses columns there. -/
structure Isolated (db : Database) (c : TableConstraint) (reference : Reference) : Prop where
  single : reference.pairs.length = 1
  ownSchema : reference.referencedSchema = c.tableSchema
  noOtherKey : ∀ d ∈ db.constraints, d.name = c.name → d.tableSchema = c.tableSchema →
    d.table ≠ c.table → d.keyColumns = []
  noOtherUse : ∀ d ∈ db.constraints, d.name = c.name → d.table ≠ c.table →
    ∀ u ∈ d.columnUsage, u.tableSchema ≠ c.tableSchema

section

variable {std : Stdlib} {catalog : Catalog} {db : Database} {schemas : List String}
  {c d : TableConstraint} {reference : Reference}

/-! ## The rows of a foreign key -/

abbrev ForeignKeyRow := TableConstraintsRow × KeyColumnUsageRow × ConstraintColumnUsageRow

/-- The table and the constraint of a row. -/
def rowKey (r : ForeignKeyRow) : String × String × String :=
  (r.1.tableSchema, r.1.tableName, r.1.constraintName)

/-- The foreign key that the rows of one key are made into. -/
def groupOf (rows : List ForeignKeyRow) : Option ForeignKeyMetadata :=
  match rows with
  | [] => none
  | (tc, _, ccu) :: _ => some {
      constraintName := tc.constraintName, columns := rows.map (·.2.1.columnName),
      referencedSchema := ccu.tableSchema, referencedTable := ccu.tableName,
      referencedColumns := rows.map (·.2.2.columnName) }

theorem groupOf_append (rows : List ForeignKeyRow) (r : ForeignKeyRow) :
    groupOf (rows ++ [r]) =
      let fk := (groupOf rows).getD
        { constraintName := r.1.constraintName, columns := [],
          referencedSchema := r.2.2.tableSchema, referencedTable := r.2.2.tableName,
          referencedColumns := [] }
      some { fk with
        columns := fk.columns ++ [r.2.1.columnName],
        referencedColumns := fk.referencedColumns ++ [r.2.2.columnName] } := by
  cases rows with
  | nil => rfl
  | cons r' rows => simp [groupOf]

theorem groupOf_eq_some {rows : List ForeignKeyRow} {fk : ForeignKeyMetadata}
    (h : groupOf rows = some fk) : ∃ r ∈ rows,
      fk.constraintName = r.1.constraintName ∧ fk.referencedSchema = r.2.2.tableSchema ∧
      fk.columns = rows.map (·.2.1.columnName) ∧
      fk.referencedColumns = rows.map (·.2.2.columnName) := by
  cases rows with
  | nil => cases h
  | cons r rows =>
    cases h
    exact ⟨r, List.mem_cons_self, rfl, rfl, rfl, rfl⟩

/-- A group is made of the rows of its key. -/
theorem get?_foreignKeyGroups (rows : List ForeignKeyRow) (key : String × String × String) :
    (foreignKeyGroups rows).get? key = groupOf (rows.filter (rowKey · = key)) := by
  let extend (fk? : Option ForeignKeyMetadata) (r : ForeignKeyRow) : ForeignKeyMetadata :=
    let fk := fk?.getD
      { constraintName := r.1.constraintName, columns := [],
        referencedSchema := r.2.2.tableSchema, referencedTable := r.2.2.tableName,
        referencedColumns := [] }
    { fk with columns := fk.columns ++ [r.2.1.columnName],
              referencedColumns := fk.referencedColumns ++ [r.2.2.columnName] }
  have hfold := Dict.get?_foldl_set rowKey extend rows Keyed.Table.empty key
  refine Eq.trans hfold ?_
  induction rows.filter (rowKey · = key) using List.reverseRecOn with
  | nil => rfl
  | append_singleton rows r ih =>
    rw [List.foldl_append, List.foldl_cons, List.foldl_nil, groupOf_append, ← ih]

/-- The key columns that the statement joins to a constraint. -/
def keyUsers (catalog : Catalog) (c : TableConstraint) : List KeyColumnUsageRow :=
  catalog.keyColumnUsage.filter fun kcu =>
    c.name = kcu.constraintName ∧ c.tableSchema = kcu.tableSchema

/-- The used columns that it joins to a constraint. -/
def columnUsers (catalog : Catalog) (c : TableConstraint) : List ConstraintColumnUsageRow :=
  catalog.constraintColumnUsage.filter fun ccu =>
    c.name = ccu.constraintName ∧ c.tableSchema = ccu.tableSchema

/-- The constraints of other tables, and those of other names. -/
def Database.others (db : Database) (c : TableConstraint) : List TableConstraint :=
  db.constraints.filter (·.key ≠ c.key)

/-- Every key column of its name and schema, with every used column of its name and schema. -/
def joined (catalog : Catalog) (tc : TableConstraintsRow) : List ForeignKeyRow :=
  (catalog.keyColumnUsage.filter fun kcu =>
      tc.constraintName = kcu.constraintName ∧ tc.tableSchema = kcu.tableSchema).flatMap fun kcu =>
    (catalog.constraintColumnUsage.filter fun ccu =>
      tc.constraintName = ccu.constraintName ∧ tc.tableSchema = ccu.tableSchema).map fun ccu =>
        (tc, kcu, ccu)

theorem rowKey_of_mem_joined {tc : TableConstraintsRow} {r : ForeignKeyRow}
    (h : r ∈ joined catalog tc) : r.1 = tc := by
  simp only [joined, List.mem_flatMap, List.mem_map] at h
  obtain ⟨kcu, -, ccu, -, rfl⟩ := h
  rfl

theorem foreignKeysRows_perm : (foreignKeysRows catalog schemas).Perm
    ((catalog.tableConstraints.filter fun tc =>
      tc.constraintType = "FOREIGN KEY" ∧ tc.tableSchema ∈ schemas).flatMap (joined catalog)) := by
  refine (List.perm_insertionSort _ _).trans (.of_eq ?_)
  rw [constraintColumns, List.flatMap_assoc]
  refine List.flatMap_congr fun tc _ => ?_
  rw [List.flatMap_map]
  rfl

/-- The rows of a foreign key, as a product. -/
theorem foreignKeyRows_perm (h : Shows catalog db) (hc : c ∈ db.constraints)
    (hfk : c.constraintType = "FOREIGN KEY") (hs : c.tableSchema ∈ schemas) :
    ((foreignKeysRows catalog schemas).filter (rowKey · = c.key)).Perm
      ((keyUsers catalog c).flatMap fun kcu =>
        (columnUsers catalog c).map fun ccu => (c.row, kcu, ccu)) := by
  refine (foreignKeysRows_perm.filter _).trans ?_
  have hperm : (catalog.tableConstraints.filter fun tc =>
      tc.constraintType = "FOREIGN KEY" ∧ tc.tableSchema ∈ schemas).Perm
      (c.row :: (((db.others c).map TableConstraint.row).filter fun tc =>
        tc.constraintType = "FOREIGN KEY" ∧ tc.tableSchema ∈ schemas)) := by
    refine (h.tableConstraints.filter _).trans ?_
    refine (((Reordering.perm_cons_filter_ne db.names_nodup hc).map _).filter _).trans (.of_eq ?_)
    rw [List.map_cons, List.filter_cons_of_pos]
    · rfl
    · exact decide_eq_true ⟨hfk, hs⟩
  refine ((hperm.flatMap_right _).filter _).trans (.of_eq ?_)
  rw [List.flatMap_cons, List.filter_append, List.filter_eq_self.2, List.filter_eq_nil_iff.2,
    List.append_nil]
  · rfl
  · intro r hr
    obtain ⟨tc, htc, hr⟩ := List.mem_flatMap.1 hr
    obtain ⟨d, hd, rfl⟩ := List.mem_map.1 (List.mem_of_mem_filter htc)
    have hne : d.key ≠ c.key := by simpa using (List.mem_filter.1 hd).2
    have hrow : rowKey r = d.key := by rw [rowKey, rowKey_of_mem_joined hr]; rfl
    simpa [hrow] using hne
  · intro r hr
    rw [decide_eq_true_eq, rowKey, rowKey_of_mem_joined hr]
    rfl

/-- The key columns of other tables' constraints of the same name and schema. -/
def otherKeyUsers (db : Database) (c : TableConstraint) : List KeyColumnUsageRow :=
  ((db.others c).flatMap TableConstraint.keyUsage).filter fun kcu =>
    c.name = kcu.constraintName ∧ c.tableSchema = kcu.tableSchema

def otherColumnUsers (db : Database) (c : TableConstraint) : List ConstraintColumnUsageRow :=
  ((db.others c).flatMap TableConstraint.columnUsage).filter fun ccu =>
    c.name = ccu.constraintName ∧ c.tableSchema = ccu.tableSchema

theorem length_keyUsage : c.keyUsage.length = c.keyColumns.length := by
  simp [TableConstraint.keyUsage]

/-- The join sees the own columns of a constraint, and those of its namesakes. -/
theorem keyUsers_perm (h : Shows catalog db) (hc : c ∈ db.constraints) :
    (keyUsers catalog c).Perm (c.keyUsage ++ otherKeyUsers db c) := by
  have hsplit := (Reordering.perm_cons_filter_ne db.names_nodup hc).flatMap_right
    TableConstraint.keyUsage
  refine ((h.keyColumnUsage.trans hsplit).filter _).trans (.of_eq ?_)
  rw [List.flatMap_cons, List.filter_append, List.filter_eq_self.2]
  · rfl
  · intro kcu hk
    obtain ⟨p, -, rfl⟩ := List.mem_map.1 hk
    simp

theorem columnUsers_perm (h : Shows catalog db) (hc : c ∈ db.constraints) :
    (columnUsers catalog c).Perm
      ((c.columnUsage.filter (c.tableSchema = ·.tableSchema)) ++ otherColumnUsers db c) := by
  have hsplit := (Reordering.perm_cons_filter_ne db.names_nodup hc).flatMap_right
    TableConstraint.columnUsage
  refine ((h.constraintColumnUsage.trans hsplit).filter _).trans (.of_eq ?_)
  rw [List.flatMap_cons, List.filter_append]
  congr 1
  refine List.filter_congr fun ccu hu => ?_
  simp [TableConstraint.constraintName_of_mem_columnUsage hu]

/-- Namesakes are constraints of other tables. -/
theorem table_ne_of_mem_others (hd : d ∈ db.others c) (hn : d.name = c.name) :
    d ∈ db.constraints ∧ d.table ≠ c.table := by
  obtain ⟨hmem, hne⟩ := List.mem_filter.1 hd
  refine ⟨hmem, fun ht => ?_⟩
  simp only [TableConstraint.table, Prod.mk.injEq] at ht
  simp [TableConstraint.key, hn, ht.1, ht.2] at hne

theorem mem_others_of_table_ne (hd : d ∈ db.constraints) (ht : d.table ≠ c.table) :
    d ∈ db.others c := by
  refine List.mem_filter.2 ⟨hd, decide_eq_true fun hk => ht ?_⟩
  simp only [TableConstraint.key, Prod.mk.injEq] at hk
  simp [TableConstraint.table, hk.1, hk.2.1]

theorem otherKeyUsers_eq_nil : otherKeyUsers db c = [] ↔
    ∀ d ∈ db.constraints, d.name = c.name → d.tableSchema = c.tableSchema → d.table ≠ c.table →
      d.keyColumns = [] := by
  unfold otherKeyUsers
  rw [List.filter_eq_nil_iff]
  constructor
  · intro h d hd hn hs ht
    have hother := mem_others_of_table_ne hd ht
    by_contra hne
    obtain ⟨kcu, hk⟩ := List.exists_mem_of_length_pos
      (length_keyUsage (c := d) ▸ List.length_pos_iff.2 hne)
    refine h kcu (List.mem_flatMap.2 ⟨d, hother, hk⟩) ?_
    obtain ⟨p, -, rfl⟩ := List.mem_map.1 hk
    simp [hn, hs]
  · intro h kcu hk hmatch
    obtain ⟨d, hd, hk⟩ := List.mem_flatMap.1 hk
    obtain ⟨p, hp, rfl⟩ := List.mem_map.1 hk
    simp only [decide_eq_true_eq] at hmatch
    obtain ⟨hmem, ht⟩ := table_ne_of_mem_others hd hmatch.1.symm
    rw [h d hmem hmatch.1.symm hmatch.2.symm ht] at hp
    simp at hp

theorem otherColumnUsers_eq_nil : otherColumnUsers db c = [] ↔
    ∀ d ∈ db.constraints, d.name = c.name → d.table ≠ c.table →
      ∀ u ∈ d.columnUsage, u.tableSchema ≠ c.tableSchema := by
  unfold otherColumnUsers
  rw [List.filter_eq_nil_iff]
  constructor
  · intro h d hd hn ht u hu hs
    have hother := mem_others_of_table_ne hd ht
    refine h u (List.mem_flatMap.2 ⟨d, hother, hu⟩) ?_
    simp [TableConstraint.constraintName_of_mem_columnUsage hu, hn, hs]
  · intro h u hu hmatch
    obtain ⟨d, hd, hu⟩ := List.mem_flatMap.1 hu
    simp only [decide_eq_true_eq, TableConstraint.constraintName_of_mem_columnUsage hu] at hmatch
    obtain ⟨hmem, ht⟩ := table_ne_of_mem_others hd hmatch.1.symm
    exact h d hmem hmatch.1.symm ht u hu hmatch.2.symm

/-! ## When a foreign key is found as it is -/

/-- A product of as many rows as the foreign key has columns takes each of them once. -/
theorem sizes_of_product {own other used : Nat} (hown : own ≠ 0)
    (h : (own + other) * used = own) : used = 1 ∧ other = 0 := by
  match used with
  | 0 => omega
  | 1 => exact ⟨rfl, by omega⟩
  | used + 2 =>
    rw [Nat.mul_add] at h
    omega

theorem get?_of_isolated (h : Shows catalog db) (hc : c ∈ db.constraints)
    (hbody : c.body = .foreignKey reference) (hs : c.tableSchema ∈ schemas)
    (hi : Isolated db c reference) :
    (foreignKeyGroups (foreignKeysRows catalog schemas)).get? c.key =
      some (reference.metadata c.name) := by
  obtain ⟨⟨a, b⟩, hpairs⟩ := List.length_eq_one_iff.1 hi.single
  have hfk : c.constraintType = "FOREIGN KEY" := by simp [TableConstraint.constraintType, hbody]
  have hkey := keyUsers_perm h hc
  rw [otherKeyUsers_eq_nil.2 hi.noOtherKey, List.append_nil] at hkey
  simp only [TableConstraint.keyUsage, TableConstraint.keyColumns, hbody, hpairs, List.map_cons,
    List.map_nil, List.zipIdx_cons, List.zipIdx_nil] at hkey
  have hused := columnUsers_perm h hc
  rw [otherColumnUsers_eq_nil.2 hi.noOtherUse, List.append_nil] at hused
  simp only [TableConstraint.columnUsage, hbody, hpairs, List.map_cons, List.map_nil,
    hi.ownSchema, decide_true, List.filter_cons_of_pos, List.filter_nil] at hused
  have hrows := foreignKeyRows_perm h hc hfk hs
  rw [List.perm_singleton.1 hkey, List.perm_singleton.1 hused] at hrows
  rw [get?_foreignKeyGroups, List.perm_singleton.1 hrows]
  simp [groupOf, Reference.metadata, TableConstraint.row, hpairs, hi.ownSchema]

/-- Where as many rows are joined as the foreign key has columns, no column is repeated: no other
key has one of them, and one used column is joined. -/
theorem sole_user (h : Shows catalog db) (hc : c ∈ db.constraints)
    (hbody : c.body = .foreignKey reference) {rows : List ForeignKeyRow}
    (hrows : rows.Perm ((keyUsers catalog c).flatMap fun kcu =>
      (columnUsers catalog c).map fun ccu => (c.row, kcu, ccu)))
    (hlength : rows.length = reference.pairs.length) :
    otherKeyUsers db c = [] ∧ ∃ u, columnUsers catalog c = [u] ∧ ∀ r ∈ rows, r.2.2 = u := by
  have hown : reference.pairs.length ≠ 0 := by
    simpa using reference.pairs_ne
  have hkeys : (keyUsers catalog c).length =
      reference.pairs.length + (otherKeyUsers db c).length := by
    rw [(keyUsers_perm h hc).length_eq, List.length_append, length_keyUsage]
    simp [TableConstraint.keyColumns, hbody]
  have hproduct : rows.length = (keyUsers catalog c).length * (columnUsers catalog c).length := by
    rw [hrows.length_eq]
    simp [List.length_flatMap]
  rw [hlength, hkeys] at hproduct
  obtain ⟨hused, hother⟩ := sizes_of_product hown hproduct.symm
  obtain ⟨u, hu⟩ := List.length_eq_one_iff.1 hused
  refine ⟨List.eq_nil_of_length_eq_zero hother, u, hu, ?_⟩
  intro r hr
  have hmem := hrows.mem_iff.1 hr
  rw [hu] at hmem
  simp only [List.mem_flatMap, List.mem_map, List.mem_singleton] at hmem
  obtain ⟨kcu, -, ccu, rfl, rfl⟩ := hmem
  rfl

theorem isolated_of_get? (h : Shows catalog db) (hc : c ∈ db.constraints)
    (hbody : c.body = .foreignKey reference) (hs : c.tableSchema ∈ schemas)
    (hget : (foreignKeyGroups (foreignKeysRows catalog schemas)).get? c.key =
      some (reference.metadata c.name)) : Isolated db c reference := by
  have hfk : c.constraintType = "FOREIGN KEY" := by simp [TableConstraint.constraintType, hbody]
  have hrows := foreignKeyRows_perm h hc hfk hs
  rw [get?_foreignKeyGroups] at hget
  generalize (foreignKeysRows catalog schemas).filter (rowKey · = c.key) = rows at hget hrows
  obtain ⟨r, hr, -, hreferencedSchema, hcolumns, hreferenced⟩ := groupOf_eq_some hget
  have hlength : rows.length = reference.pairs.length := by
    simpa [Reference.metadata] using (congrArg List.length hcolumns).symm
  obtain ⟨hother, u, hu, hrow⟩ := sole_user h hc hbody hrows hlength
  have hsingle : reference.pairs.length = 1 := by
    have hpos : reference.pairs.length ≠ 0 := by simpa using reference.pairs_ne
    have hnodup : (reference.metadata c.name).referencedColumns.Nodup := reference.referenced_nodup
    rw [hreferenced, List.map_congr_left fun r hr => congrArg _ (hrow r hr), List.map_const',
      List.nodup_replicate] at hnodup
    omega
  have hschema : reference.referencedSchema = c.tableSchema := by
    have hmem : u ∈ columnUsers catalog c := by rw [hu]; exact List.mem_singleton_self u
    have hjoin : c.tableSchema = u.tableSchema := (of_decide_eq_true (List.mem_filter.1 hmem).2).2
    rw [hjoin, ← hrow r hr]
    exact hreferencedSchema
  refine ⟨hsingle, hschema, otherKeyUsers_eq_nil.1 hother, otherColumnUsers_eq_nil.1 ?_⟩
  have hcount := (columnUsers_perm h hc).length_eq
  have hall : c.columnUsage.filter (c.tableSchema = ·.tableSchema) = c.columnUsage := by
    refine List.filter_eq_self.2 fun u hu => ?_
    simp only [TableConstraint.columnUsage, hbody, List.mem_map] at hu
    obtain ⟨p, -, rfl⟩ := hu
    simp [hschema]
  have hone : c.columnUsage.length = 1 := by simp [TableConstraint.columnUsage, hbody, hsingle]
  rw [hu, List.length_singleton, List.length_append, hall, hone] at hcount
  exact List.eq_nil_of_length_eq_zero (by omega)

/-! ## The tables of the result -/

/-- The foreign keys of a table, made of the rows of all of them. -/
def foundOf (catalog : Catalog) (schemas : List String) (table : TableKey) :
    List ForeignKeyMetadata :=
  ((foreignKeyGroups (foreignKeysRows catalog schemas)).rows.filter
    fun r => (r.1.1, r.1.2.1) = table).map Prod.snd

def keysView (t : TableMetadata) : TableKey × List ForeignKeyMetadata :=
  ((t.schemaName, t.name), t.foreignKeys)

theorem foreignKeys_of_pass (rows : List ((String × String × String) × ForeignKeyMetadata))
    (t : TableMetadata) :
    keysView (rows.foldl (fun t r => { t with foreignKeys := t.foreignKeys ++ [r.2] }) t) =
      ((t.schemaName, t.name), t.foreignKeys ++ rows.map Prod.snd) := by
  induction rows generalizing t with
  | nil => simp [keysView]
  | cons r rows ih =>
    rw [List.foldl_cons, ih]
    simp

theorem tableDict_get? {k : TableKey} {t : TableMetadata}
    (h : (tableDict catalog schemas).get? k = some t) : keysView t = (k, []) := by
  obtain ⟨row, -, hrow⟩ := List.mem_map.1 (Dict.mem_of_get?_ofList h)
  cases hrow
  rfl

theorem describedTables_get? (std : Stdlib) (catalog : Catalog) (schemas : List String)
    (k : TableKey) :
    ((describedTables std catalog schemas).get? k).map keysView =
      ((tableDict catalog schemas).get? k).map fun _ => (k, foundOf catalog schemas k) := by
  unfold describedTables withIndexes withUniqueConstraints
  rw [map_get?_pass _ _ (by intros; rfl), map_get?_pass _ _ (by intros; rfl), withForeignKeys,
    get?_pass, Option.map_map]
  have hbefore : ((withPrimaryKeys catalog schemas (withColumns catalog schemas
      (tableDict catalog schemas))).get? k).map keysView =
      ((tableDict catalog schemas).get? k).map keysView := by
    unfold withPrimaryKeys withColumns
    rw [map_get?_pass _ _ (by intros; rfl), map_get?_pass _ _ (by intros; rfl)]
  cases hy : (tableDict catalog schemas).get? k with
  | none =>
    rw [hy, Option.map_none, Option.map_eq_none_iff] at hbefore
    rw [hbefore]
    rfl
  | some t₀ =>
    rw [hy, Option.map_some, tableDict_get? hy, Option.map_eq_some_iff] at hbefore
    obtain ⟨t, ht, hview⟩ := hbefore
    simp only [keysView, Prod.mk.injEq] at hview
    rw [ht, Option.map_some, Option.map_some, Function.comp_apply, foreignKeys_of_pass]
    simp [hview, foundOf]

theorem foreignKeys_of_mem {t : TableMetadata}
    (ht : t ∈ (introspect std catalog schemas).tables) :
    t.foreignKeys = foundOf catalog schemas (t.schemaName, t.name) := by
  unfold introspect at ht
  split at ht
  · cases ht
  obtain ⟨k, hk⟩ := Dict.mem_values.1 ((List.mem_insertionSort _).1 ht)
  have hview := describedTables_get? std catalog schemas k
  rw [hk, Option.map_some] at hview
  obtain ⟨_, -, hview⟩ := Option.map_eq_some_iff.1 hview.symm
  have hkey : k = (t.schemaName, t.name) := congrArg Prod.fst hview
  rw [← hkey]
  exact (congrArg Prod.snd hview).symm

/-- Every table of the catalog that is allowed is in the result. -/
theorem exists_mem_introspect {table : TableKey} (hs : table.1 ∈ schemas)
    (h : table ∈ catalog.tables.map fun r => (r.tableSchema, r.tableName)) :
    ∃ t ∈ (introspect std catalog schemas).tables, (t.schemaName, t.name) = table := by
  have hne : schemas ≠ [] := List.ne_nil_of_mem hs
  obtain ⟨row, hrow, rfl⟩ := List.mem_map.1 h
  have hmem : row ∈ tablesRows catalog schemas :=
    (List.mem_insertionSort _).2 (List.mem_filter.2 ⟨hrow, decide_eq_true hs⟩)
  have hkey : (row.tableSchema, row.tableName) ∈ (tableDict catalog schemas).keys := by
    refine Dict.mem_keys_ofList.2 ?_
    rw [List.map_map]
    exact List.mem_map.2 ⟨row, hmem, rfl⟩
  obtain ⟨t₀, ht₀⟩ := Dict.mem_keys.1 hkey
  have hview := describedTables_get? std catalog schemas (row.tableSchema, row.tableName)
  rw [ht₀, Option.map_some] at hview
  obtain ⟨t, ht, hview⟩ := Option.map_eq_some_iff.1 hview
  refine ⟨t, ?_, congrArg Prod.fst hview⟩
  rw [introspect, if_neg hne]
  exact (List.mem_insertionSort _).2 (Dict.mem_values.2 ⟨_, ht⟩)

/-- Introspection is exact about an allowed table if the rows make exactly its foreign keys. -/
theorem foreignKeysExact_iff (h : Shows catalog db) :
    ForeignKeysExact db schemas (introspect std catalog schemas) ↔
      ∀ table ∈ db.tables, table.1 ∈ schemas →
        (foundOf catalog schemas table).Perm (db.foreignKeysOf table) := by
  refine forall₃_congr fun table htable hs => ?_
  obtain ⟨t, ht, hkey⟩ := @exists_mem_introspect std catalog schemas table hs
    (h.tables.mem_iff.2 htable)
  constructor
  · rintro ⟨-, hall⟩
    have hperm := hall t ht hkey
    rwa [foreignKeys_of_mem ht, hkey] at hperm
  · intro hperm
    refine ⟨⟨t, ht, hkey⟩, fun u hu hkey => ?_⟩
    rwa [foreignKeys_of_mem hu, hkey]

/-! ## The foreign keys of a table -/

/-- A group is of a foreign key of the database. -/
theorem constraint_of_group (h : Shows catalog db) {key : String × String × String}
    {fk : ForeignKeyMetadata}
    (hget : (foreignKeyGroups (foreignKeysRows catalog schemas)).get? key = some fk) :
    ∃ c ∈ db.constraints, c.key = key ∧ c.tableSchema ∈ schemas ∧ fk.constraintName = c.name ∧
      ∃ reference, c.body = .foreignKey reference := by
  rw [get?_foreignKeyGroups] at hget
  obtain ⟨r, hr, hname, -⟩ := groupOf_eq_some hget
  obtain ⟨hmem, hkey⟩ := List.mem_filter.1 hr
  obtain ⟨tc, htc, hjoin⟩ := List.mem_flatMap.1 (foreignKeysRows_perm.mem_iff.1 hmem)
  obtain ⟨htc, hcond⟩ := List.mem_filter.1 htc
  obtain ⟨c, hc, rfl⟩ := List.mem_map.1 (h.tableConstraints.mem_iff.1 htc)
  obtain ⟨htype, hs⟩ := of_decide_eq_true hcond
  rw [rowKey_of_mem_joined hjoin] at hname
  refine ⟨c, hc, ?_, hs, hname, ?_⟩
  · rw [← of_decide_eq_true hkey, rowKey, rowKey_of_mem_joined hjoin]
    rfl
  · change c.constraintType = "FOREIGN KEY" at htype
    unfold TableConstraint.constraintType at htype
    split at htype
    · simp at htype
    · simp at htype
    · simp at htype
    · exact ⟨_, ‹_›⟩

theorem mem_foundOf {table : TableKey} {fk : ForeignKeyMetadata} :
    fk ∈ foundOf catalog schemas table ↔ ∃ name,
      (foreignKeyGroups (foreignKeysRows catalog schemas)).get? (table.1, table.2, name) =
        some fk := by
  simp only [foundOf, List.mem_map, List.mem_filter, decide_eq_true_eq]
  constructor
  · rintro ⟨⟨key, fk⟩, ⟨hmem, rfl⟩, rfl⟩
    exact ⟨key.2.2, Dict.get?_eq_some.2 hmem⟩
  · rintro ⟨name, hget⟩
    exact ⟨_, ⟨Dict.get?_eq_some.1 hget, rfl⟩, rfl⟩

theorem mem_foreignKeysOf {table : TableKey} {fk : ForeignKeyMetadata} :
    fk ∈ db.foreignKeysOf table ↔ ∃ c ∈ db.constraints, c.table = table ∧
      ∃ reference, c.body = .foreignKey reference ∧ fk = reference.metadata c.name := by
  simp only [Database.foreignKeysOf, List.mem_filterMap, List.mem_filter, decide_eq_true_eq,
    TableConstraint.foreignKey?, and_assoc]
  refine exists_congr fun c => and_congr_right fun _ => and_congr_right fun _ => ?_
  cases c.body <;> simp [eq_comm]

theorem nodup_foundOf (h : Shows catalog db) (table : TableKey) :
    (foundOf catalog schemas table).Nodup := by
  refine List.Nodup.map_on ?_ (List.Nodup.filter _ (List.Nodup.of_map _ (Keyed.Table.nodup_keys _)))
  rintro ⟨key, fk⟩ hx ⟨key', fk'⟩ hy rfl
  simp only [List.mem_filter, decide_eq_true_eq] at hx hy
  obtain ⟨c, -, rfl, -, hname, -⟩ := constraint_of_group h (Dict.get?_eq_some.2 hx.1)
  obtain ⟨d, -, rfl, -, hname', -⟩ := constraint_of_group h (Dict.get?_eq_some.2 hy.1)
  have htable : c.table = d.table := hx.2.trans hy.2.symm
  simp only [TableConstraint.table, Prod.mk.injEq] at htable
  simp [TableConstraint.key, htable, ← hname, ← hname']

theorem nodup_foreignKeysOf (table : TableKey) : (db.foreignKeysOf table).Nodup := by
  refine List.pairwise_filterMap.2 ?_
  have hkeys : (db.constraints.filter (·.table = table)).Pairwise fun c d => c.key ≠ d.key :=
    (List.pairwise_map.1 db.names_nodup).filter _
  refine hkeys.imp_of_mem ?_
  intro c d hc hd hne fk hfk fk' hfk' heq
  have htable : c.table = d.table := by
    rw [of_decide_eq_true (List.mem_filter.1 hc).2, of_decide_eq_true (List.mem_filter.1 hd).2]
  have hname : ∀ e : TableConstraint, ∀ fk, e.foreignKey? = some fk → fk.constraintName = e.name := by
    intro e fk he
    unfold TableConstraint.foreignKey? at he
    split at he
    · cases he; rfl
    · cases he
  simp only [TableConstraint.table, Prod.mk.injEq] at htable
  refine hne ?_
  simp [TableConstraint.key, htable, ← hname c fk hfk, ← hname d fk' hfk', heq]

/-- Introspection is exact if every foreign key of an allowed table is isolated, and only then. -/
theorem foreign_keys_exact_iff (std : Stdlib) (catalog : Catalog) (db : Database)
    (schemas : List String) (h : Shows catalog db) :
    ForeignKeysExact db schemas (introspect std catalog schemas) ↔
      ∀ c ∈ db.constraints, ∀ reference, c.body = .foreignKey reference →
        c.tableSchema ∈ schemas → Isolated db c reference := by
  rw [foreignKeysExact_iff h]
  constructor
  · intro hexact c hc reference hbody hs
    have hmem : reference.metadata c.name ∈ foundOf catalog schemas c.table := by
      refine (hexact c.table (db.of_tables c hc) hs).mem_iff.2 (mem_foreignKeysOf.2 ?_)
      exact ⟨c, hc, rfl, reference, hbody, rfl⟩
    obtain ⟨name, hget⟩ := mem_foundOf.1 hmem
    obtain ⟨d, -, hkey, -, hname, -⟩ := constraint_of_group h hget
    simp only [TableConstraint.key, TableConstraint.table, Prod.mk.injEq] at hkey
    have hc' : name = c.name := by rw [← hkey.2.2, ← hname]; rfl
    rw [hc'] at hget
    exact isolated_of_get? h hc hbody hs hget
  · intro hall table htable hs
    rw [List.perm_ext_iff_of_nodup (nodup_foundOf h table) (nodup_foreignKeysOf table)]
    intro fk
    rw [mem_foundOf, mem_foreignKeysOf]
    constructor
    · rintro ⟨name, hget⟩
      obtain ⟨c, hc, hkey, hs, -, reference, hbody⟩ := constraint_of_group h hget
      have hown := get?_of_isolated h hc hbody hs (hall c hc reference hbody hs)
      rw [hkey, hget] at hown
      refine ⟨c, hc, ?_, reference, hbody, Option.some.inj hown⟩
      simp only [TableConstraint.key, Prod.mk.injEq] at hkey
      simp [TableConstraint.table, hkey]
    · rintro ⟨c, hc, rfl, reference, hbody, rfl⟩
      exact ⟨c.name, get?_of_isolated h hc hbody hs (hall c hc reference hbody hs)⟩

end

/-! ## The catalog of a database -/

/-- The views of a database. -/
def Database.catalog (db : Database) : Catalog where
  tables := db.tables.map fun table =>
    { tableSchema := table.1, tableName := table.2, tableType := "BASE TABLE" }
  tableConstraints := db.constraints.map TableConstraint.row
  keyColumnUsage := db.constraints.flatMap TableConstraint.keyUsage
  constraintColumnUsage := db.constraints.flatMap TableConstraint.columnUsage

theorem shows_catalog (db : Database) : Shows db.catalog db where
  tables := by
    rw [Database.catalog, List.map_map]
    exact .of_eq (List.map_id db.tables)
  tableConstraints := .refl _
  keyColumnUsage := .refl _
  constraintColumnUsage := .refl _

namespace Sample

/-- A trip refers to its vehicle by one column. -/
def tripsByVehicle : Database where
  tables := [("public", "trips"), ("public", "vehicles")]
  constraints := [
    { tableSchema := "public", tableName := "vehicles", name := "vehicles_pkey",
      body := .primaryKey ["id"] },
    { tableSchema := "public", tableName := "trips", name := "trips_vehicle_fkey",
      body := .foreignKey {
        referencedSchema := "public", referencedTable := "vehicles", pairs := [("vehicle", "id")] } }]

/-- A trip refers to its vehicle by the fleet and the number. -/
def tripsByFleet : Database where
  tables := [("public", "trips"), ("public", "vehicles")]
  constraints := [
    { tableSchema := "public", tableName := "vehicles", name := "vehicles_pkey",
      body := .primaryKey ["fleet", "number"] },
    { tableSchema := "public", tableName := "trips", name := "trips_vehicle_fkey",
      body := .foreignKey {
        referencedSchema := "public", referencedTable := "vehicles",
        pairs := [("vehicle_fleet", "fleet"), ("vehicle_number", "number")] } }]

end Sample

theorem foreign_keys_exact_iff_sample :
    ForeignKeysExact Sample.tripsByVehicle ["public"]
      (introspect HermesRpt.Sample.std Sample.tripsByVehicle.catalog ["public"]) := by
  refine (foreign_keys_exact_iff HermesRpt.Sample.std _ _ ["public"]
    (shows_catalog Sample.tripsByVehicle)).2 ?_
  intro c hc reference hbody _
  simp only [Sample.tripsByVehicle, List.mem_cons, List.not_mem_nil, or_false] at hc
  rcases hc with rfl | rfl
  · cases hbody
  · cases hbody
    exact ⟨rfl, rfl, by decide +kernel, by decide +kernel⟩

/-- The two columns of the foreign key are found as four. -/
theorem foreign_keys_multiplied :
    foundOf Sample.tripsByFleet.catalog ["public"] ("public", "trips") = [{
        constraintName := "trips_vehicle_fkey"
        columns := ["vehicle_fleet", "vehicle_fleet", "vehicle_number", "vehicle_number"]
        referencedSchema := "public", referencedTable := "vehicles"
        referencedColumns := ["fleet", "number", "fleet", "number"] }] ∧
      Shows Sample.tripsByFleet.catalog Sample.tripsByFleet ∧
      ¬ForeignKeysExact Sample.tripsByFleet ["public"]
        (introspect HermesRpt.Sample.std Sample.tripsByFleet.catalog ["public"]) := by
  have hfound : foundOf Sample.tripsByFleet.catalog ["public"] ("public", "trips") = [{
      constraintName := "trips_vehicle_fkey"
      columns := ["vehicle_fleet", "vehicle_fleet", "vehicle_number", "vehicle_number"]
      referencedSchema := "public", referencedTable := "vehicles"
      referencedColumns := ["fleet", "number", "fleet", "number"] }] := by decide +kernel
  refine ⟨hfound, shows_catalog _, fun hexact => ?_⟩
  have hperm := (foreignKeysExact_iff (shows_catalog _)).1 hexact ("public", "trips")
    (by decide +kernel) (by decide +kernel)
  rw [hfound] at hperm
  exact absurd (hperm.map (·.columns.length)) (by decide +kernel)

end Schemas

end HermesRpt
