import HermesRpt.Extraction.Statements

/-!
# HermesRpt.Extraction.Values

Which values of a source row the builders hand on.

* `valueUsed`      : the value of one field of a row, in one of the four places.
* `*_values`       : the records of each builder hold these values of rows of the table.
-/

namespace HermesRpt

namespace Extraction

open Effect Connectors Mappings Features
open Keyed (Dict)

/-- Where a value of a mapped field is used. -/
inductive Place where
  | targetRow | relatedRecipe | relatedRecord | datasetRow
  deriving DecidableEq, Repr

/-- Whether `_coerce_row_datetimes` runs there. -/
def Place.coerces : Place → Bool
  | .targetRow | .relatedRecipe => false
  | .relatedRecord | .datasetRow => true

/-- The value of a field: its column's, and a text in a datetime field coerced where the place
does so. -/
def valueUsed (std : Stdlib) (place : Place) (document : MappingDocument) (fieldName : String)
    (row : Sql.Row Value) : Except PyError ScalarValue := do
  match ← resolveColumn document fieldName with
  | none => return none
  | some column =>
    if place.coerces then
      let datetimeFields ← datetimeFieldNames document
      if fieldName ∈ datetimeFields then coerceValue std (row column) else return row column
    else return row column

section

variable {std : Stdlib} {document : MappingDocument}

/-! ## Columns of fields -/

theorem addColumns_cons (columns : Dict String String) (fieldName : String)
    (fieldNames : List String) :
    addColumns document columns (fieldName :: fieldNames) =
      (if fieldName ∈ columns.keys then addColumns document columns fieldNames
      else do
        match ← resolveColumn document fieldName with
        | none => addColumns document columns fieldNames
        | some column => addColumns document (columns.set fieldName column) fieldNames) := by
  unfold addColumns
  rw [List.foldlM_cons]
  by_cases h : fieldName ∈ columns.keys
  · simp only [h, if_true]; rfl
  · simp only [h, if_false]
    cases resolveColumn document fieldName with
    | error e => rfl
    | ok column => cases column <;> rfl

/-- The columns are those of their fields. -/
def Resolved (document : MappingDocument) (columns : Dict String String) : Prop :=
  ∀ fieldName column, columns.get? fieldName = some column →
    resolveColumn document fieldName = .ok (some column)

theorem resolved_empty : Resolved document Keyed.Table.empty := by
  intro fieldName column h
  rw [Keyed.Dict.get?_empty] at h
  cases h

theorem resolved_set {columns : Dict String String} {fieldName column : String}
    (h : Resolved document columns) (hr : resolveColumn document fieldName = .ok (some column)) :
    Resolved document (columns.set fieldName column) := by
  intro f c hf
  rw [Keyed.Dict.get?_set] at hf
  split at hf
  · rename_i he; cases hf; rw [he]; exact hr
  · exact h f c hf

/-- The columns that are added are those of the fields, and none is lost. -/
theorem addColumns_ok {fieldNames : List String} {columns columns' : Dict String String}
    (hc : Resolved document columns) (h : addColumns document columns fieldNames = .ok columns') :
    Resolved document columns' ∧
      (∀ f ∈ fieldNames, resolveColumn document f = .ok (columns'.get? f)) ∧
      ∀ f c, columns.get? f = some c → columns'.get? f = some c := by
  induction fieldNames generalizing columns with
  | nil =>
    cases h
    exact ⟨hc, by simp, fun _ _ h => h⟩
  | cons f fs ih =>
    rw [addColumns_cons] at h
    split at h
    · rename_i hmem
      obtain ⟨hres, hfs, hkept⟩ := ih hc h
      obtain ⟨c, hcf⟩ := Keyed.Dict.mem_keys.1 hmem
      refine ⟨hres, fun g hg => ?_, hkept⟩
      rcases List.mem_cons.1 hg with rfl | hg
      · rw [hkept _ _ hcf]; exact hc _ _ hcf
      · exact hfs g hg
    · rename_i hmem
      cases hr : resolveColumn document f with
      | error e => rw [hr] at h; cases h
      | ok column =>
        rw [hr] at h
        cases column with
        | none =>
          obtain ⟨hres, hfs, hkept⟩ := ih hc h
          refine ⟨hres, fun g hg => ?_, hkept⟩
          rcases List.mem_cons.1 hg with rfl | hg
          · cases hg' : columns'.get? g with
            | none => exact hr
            | some c => have := hres g c hg'; rw [hr] at this; cases this
          · exact hfs g hg
        | some column =>
          obtain ⟨hres, hfs, hkept⟩ := ih (resolved_set hc hr) h
          refine ⟨hres, fun g hg => ?_, fun g c hg => hkept g c ?_⟩
          · rcases List.mem_cons.1 hg with rfl | hg
            · rw [hkept g column (by rw [Keyed.Dict.get?_set, if_pos rfl])]; exact hr
            · exact hfs g hg
          · rw [Keyed.Dict.get?_set, if_neg]
            · exact hg
            · rintro rfl
              exact hmem (Keyed.Dict.mem_keys.2 ⟨c, hg⟩)

/-- A column that is added is the column of one of the fields. -/
theorem addColumns_from {fieldNames : List String} {columns columns' : Dict String String}
    (h : addColumns document columns fieldNames = .ok columns') {f c : String}
    (hf : columns'.get? f = some c) :
    columns.get? f = some c ∨ f ∈ fieldNames ∧ resolveColumn document f = .ok (some c) := by
  induction fieldNames generalizing columns with
  | nil =>
    cases h
    exact .inl hf
  | cons g fs ih =>
    rw [addColumns_cons] at h
    split at h
    · exact (ih h).imp_right fun ⟨hmem, hr⟩ => ⟨by simp [hmem], hr⟩
    · cases hr : resolveColumn document g with
      | error e => rw [hr] at h; cases h
      | ok column =>
        rw [hr] at h
        cases column with
        | none => exact (ih h).imp_right fun ⟨hmem, hr⟩ => ⟨by simp [hmem], hr⟩
        | some column =>
          rcases ih h with hset | ⟨hmem, hr⟩
          · rw [Keyed.Dict.get?_set] at hset
            split at hset
            · rename_i heq
              cases hset
              exact .inr ⟨by simp [heq], heq ▸ hr⟩
            · exact .inl hset
          · exact .inr ⟨by simp [hmem], hr⟩

/-- The identity column is the column of the identity field. -/
theorem identityColumn_ok {p : String × String} (h : identityColumn document = .ok p) :
    document.identity.keys = [p.1] ∧ resolveColumn document p.1 = .ok (some p.2) := by
  unfold identityColumn at h
  split at h
  · rename_i fieldName hkeys
    cases hr : resolveColumn document fieldName with
    | error e => rw [hr] at h; cases h
    | ok column =>
      rw [hr] at h
      cases column with
      | none => cases h
      | some column => cases h; exact ⟨hkeys, hr⟩
  · cases h

/-! ## Records -/

theorem value_readRow (columns : Dict String String) (row : Sql.Row Value) (fieldName : String) :
    (readRow columns row).value fieldName = (columns.get? fieldName).bind row := by
  unfold FieldRow.value readRow
  rw [Keyed.Dict.get?_mapValues]
  cases columns.get? fieldName <;> rfl

/-- A coerced value is a datetime or no text. -/
theorem coerceValue_coerced {v w : ScalarValue} (h : coerceValue std v = .ok w) :
    coerceValue std w = .ok w := by
  unfold coerceValue at h
  split at h
  · rename_i s
    cases hp : parseDatetime std s with
    | error e => rw [hp] at h; cases h
    | ok t => rw [hp] at h; cases h; rfl
  · rename_i hv
    cases h
    unfold coerceValue
    split
    · rename_i s; exact absurd rfl (hv s)
    · rfl

/-- One field of `_coerce_row_datetimes`. -/
def coerceField (std : Stdlib) (row : FieldRow) (fieldName : String) : Except PyError FieldRow :=
  match row.get? fieldName with
  | none => .ok row
  | some value => do return row.set fieldName (← coerceValue std value)

theorem coerceField_ok {row row' : FieldRow} {g : String} (h : coerceField std row g = .ok row') :
    coerceValue std (row.value g) = .ok (row'.value g) ∧
      ∀ f, f ≠ g → row'.value f = row.value f := by
  unfold coerceField at h
  cases hg : row.get? g with
  | none =>
    rw [hg] at h; cases h
    refine ⟨?_, fun _ _ => rfl⟩
    rw [FieldRow.value, hg]; rfl
  | some value =>
    rw [hg] at h
    dsimp only at h
    cases hv : coerceValue std value with
    | error e => rw [hv] at h; cases h
    | ok w =>
      rw [hv] at h; cases h
      constructor
      · simp only [FieldRow.value, hg, Keyed.Dict.get?_set, if_true, Option.getD_some, hv]
      · intro f hf
        simp only [FieldRow.value, Keyed.Dict.get?_set, if_neg hf]

theorem coerceFields_ok {l : List String} {row row' : FieldRow}
    (h : l.foldlM (coerceField std) row = .ok row') (f : String) :
    (f ∈ l → coerceValue std (row.value f) = .ok (row'.value f)) ∧
      (f ∉ l → row'.value f = row.value f) := by
  induction l generalizing row with
  | nil => cases h; simp
  | cons g l ih =>
    rw [List.foldlM_cons] at h
    cases hg : coerceField std row g with
    | error e => rw [hg] at h; cases h
    | ok row₁ =>
      rw [hg] at h
      obtain ⟨hin, hout⟩ := ih h
      obtain ⟨hcoerced, hrest⟩ := coerceField_ok hg
      constructor
      · intro hf
        by_cases hfg : f = g
        · subst hfg
          by_cases hl : f ∈ l
          · have := hin hl
            rw [coerceValue_coerced hcoerced] at this
            rw [hcoerced, this]
          · rw [hout hl]; exact hcoerced
        · rw [← hrest f hfg]
          exact hin ((List.mem_cons.1 hf).resolve_left hfg)
      · intro hf
        rw [List.mem_cons, not_or] at hf
        rw [hout hf.2, hrest f hf.1]

theorem coerceRowDatetimes_eq (row : FieldRow) (datetimeFields : List String) :
    coerceRowDatetimes std row datetimeFields =
      (std.setOrder datetimeFields).foldlM (coerceField std) row := by
  unfold coerceRowDatetimes coerceField
  rfl

/-- A coerced record of a row holds the values that are used. -/
theorem value_coerced {place : Place} (hplace : place.coerces = true) {columns : Dict String String}
    {datetimeFields : List String} (hd : datetimeFieldNames document = .ok datetimeFields)
    {row : Sql.Row Value} {record : FieldRow}
    (h : coerceRowDatetimes std (readRow columns row) datetimeFields = .ok record)
    {f : String} (hf : resolveColumn document f = .ok (columns.get? f)) :
    valueUsed std place document f row = .ok (record.value f) := by
  rw [coerceRowDatetimes_eq] at h
  obtain ⟨hin, hout⟩ := coerceFields_ok h f
  simp only [std.mem_setOrder, value_readRow] at hin hout
  unfold valueUsed
  rw [hf]
  cases hc : columns.get? f with
  | none =>
    rw [hc] at hin hout
    by_cases hmem : f ∈ datetimeFields
    · exact hin hmem
    · exact congrArg Except.ok (hout hmem).symm
  | some column =>
    rw [hc] at hin hout
    simp only [bind, Except.bind, hplace, if_true, hd]
    by_cases hmem : f ∈ datetimeFields
    · rw [if_pos hmem]; exact hin hmem
    · rw [if_neg hmem]; exact congrArg Except.ok (hout hmem).symm

theorem value_raw {place : Place} (hplace : place.coerces = false) {columns : Dict String String}
    {row : Sql.Row Value} {f : String} (hf : resolveColumn document f = .ok (columns.get? f)) :
    valueUsed std place document f row = .ok ((readRow columns row).value f) := by
  unfold valueUsed
  rw [hf, value_readRow]
  cases columns.get? f with
  | none => rfl
  | some column =>
    simp only [bind, Except.bind, hplace]
    rfl

theorem resolved_identity {identity : String × String}
    (h : identityColumn document = .ok identity) : Resolved document (Dict.ofList [identity]) :=
  resolved_set resolved_empty (identityColumn_ok h).2

/-- A row of the document's source table. -/
def SourceRow (database : CustomerDatabase) (document : MappingDocument) (row : Sql.Row Value) :
    Prop :=
  ∃ relation, database.relation document.source.schemaName document.source.table = some relation ∧
    row ∈ relation.rows

theorem sourceRow_of_run {database : CustomerDatabase} {output : Sql.Output Value}
    {conditions : List (Sql.Condition Value)} {orderBy : Option Sql.Order} {limit : Option Nat}
    {rows : List (Sql.Row Value)}
    (h : database.run (selectFrom document output conditions orderBy limit) = .ok rows)
    {row : Sql.Row Value} (hrow : row ∈ rows) : SourceRow database document row := by
  obtain ⟨relation, hrel, -, rfl⟩ := CustomerDatabase.run_ok.1 h
  exact ⟨relation, hrel, (Sql.mem_rows hrow).1⟩

/-! ## The records of each builder -/

theorem targetRow_values {connection : CustomerDatabaseConnection} {businessReference : String}
    {neededFields : List String} {plan : Plan (Option FieldRow)}
    (h : targetRowPlan std document businessReference neededFields connection = .ok plan)
    {database : CustomerDatabase} {record : FieldRow}
    (hr : plan.result database = .ok (some record)) :
    ∃ row, SourceRow database document row ∧
      ∀ f ∈ neededFields, valueUsed std .targetRow document f row = .ok (record.value f) := by
  obtain ⟨-, identity, columns, hid, hcol, rfl⟩ := targetRowPlan_ok h
  obtain ⟨rows, hrun, hr⟩ := except_bind_ok.1 hr
  obtain ⟨-, hresolved, -⟩ := addColumns_ok (resolved_identity hid) hcol
  cases rows with
  | nil => cases hr
  | cons row rows =>
    cases hr
    refine ⟨row, sourceRow_of_run hrun (by simp), fun f hf => ?_⟩
    exact value_raw rfl (hresolved f ((std.mem_setOrder _ _).2 hf))

/-- A field without a column is not in a coerced record. -/
theorem value_absent {columns : Dict String String} {datetimeFields : List String}
    {row : Sql.Row Value} {record : FieldRow}
    (h : coerceRowDatetimes std (readRow columns row) datetimeFields = .ok record) {f : String}
    (hf : columns.get? f = none) : record.value f = none := by
  rw [coerceRowDatetimes_eq] at h
  obtain ⟨hin, hout⟩ := coerceFields_ok h f
  rw [value_readRow, hf] at hin hout
  by_cases hmem : f ∈ std.setOrder datetimeFields
  · exact (Except.ok.inj (hin hmem)).symm
  · exact hout hmem

theorem coercedRecords_values {place : Place} (hplace : place.coerces = true)
    {columns : Dict String String} {datetimeFields : List String}
    (hd : datetimeFieldNames document = .ok datetimeFields) {rows : List (Sql.Row Value)}
    {records : List FieldRow} (h : coercedRecords std columns datetimeFields rows = .ok records)
    {record : FieldRow} (hrecord : record ∈ records) :
    ∃ row ∈ rows, ∀ f, resolveColumn document f = .ok (columns.get? f) →
      valueUsed std place document f row = .ok (record.value f) := by
  have hall := except_mapM_ok.1 h
  obtain ⟨i, hi, rfl⟩ := List.getElem_of_mem hrecord
  have hlen := hall.length_eq
  refine ⟨rows[i], List.getElem_mem _, fun f hf => ?_⟩
  exact value_coerced hplace hd (hall.get (by omega) hi) hf

theorem rowsInRange_values {connection : CustomerDatabaseConnection} {timeField : String}
    {rangeStart rangeEnd : DateTime} {neededFields : List String} {plan : Plan (List FieldRow)}
    (h : rowsInRangePlan std document timeField rangeStart rangeEnd neededFields connection =
      .ok plan)
    {database : CustomerDatabase} {records : List FieldRow}
    (hr : plan.result database = .ok records) {record : FieldRow} (hrecord : record ∈ records) :
    ∃ row, SourceRow database document row ∧ ∀ f ∈ neededFields ++ [timeField],
      valueUsed std .datasetRow document f row = .ok (record.value f) := by
  obtain ⟨-, ⟨-, rfl⟩ | ⟨identity, time, columns, fields, hid, -, hcol, hd, rfl⟩⟩ :=
    rowsInRangePlan_ok h
  · cases hr; cases hrecord
  obtain ⟨rows, hrun, hr⟩ := except_bind_ok.1 hr
  obtain ⟨-, hresolved, -⟩ := addColumns_ok (resolved_identity hid) hcol
  obtain ⟨row, hrow, hvalues⟩ :=
    coercedRecords_values (show Place.datasetRow.coerces = true from rfl) hd hr hrecord
  exact ⟨row, sourceRow_of_run hrun hrow, fun f hf =>
    hvalues f (hresolved f ((std.mem_setOrder _ _).2 hf))⟩

theorem relatedRecords_values {connection : CustomerDatabaseConnection} {joinField : String}
    {joinValue : Value} {timestampField : Option String} {predictionTime : Option DateTime}
    {limit : Nat} {plan : Plan (List FieldRow)}
    (h : relatedRecordsPlan std document joinField joinValue timestampField predictionTime limit
      connection = .ok plan)
    {database : CustomerDatabase} {records : List FieldRow}
    (hr : plan.result database = .ok records) {record : FieldRow} (hrecord : record ∈ records) :
    ∃ row, SourceRow database document row ∧ ∀ f ∈ document.allFieldMappings.keys,
      valueUsed std .relatedRecord document f row = .ok (record.value f) := by
  obtain ⟨-, ⟨-, rfl⟩ | ⟨join, columns, time, fields, -, hcol, -, hd, rfl⟩⟩ :=
    relatedRecordsPlan_ok h
  · cases hr; cases hrecord
  obtain ⟨rows, hrun, hr⟩ := except_bind_ok.1 hr
  obtain ⟨-, hresolved, -⟩ := addColumns_ok resolved_empty hcol
  obtain ⟨row, hrow, hvalues⟩ :=
    coercedRecords_values (show Place.relatedRecord.coerces = true from rfl) hd hr hrecord
  exact ⟨row, sourceRow_of_run hrun hrow, fun f hf => hvalues f (hresolved f hf)⟩

/-- The fields of the related entity a feature names. -/
def relatedFields (feature : FeatureSpec) : List String :=
  [feature.relatedFkFieldOnTarget, feature.relatedTimestampField, feature.relatedFilterField,
    feature.relatedValueField].filterMap id

/-- A column of a field that a feature names. -/
def OfFeature (document : MappingDocument) (feature : FeatureSpec) (column : String) : Prop :=
  ∃ f ∈ relatedFields feature, resolveColumn document f = .ok (some column)

theorem ofFeature_asserted {feature : FeatureSpec} {field : Option String} {column : String}
    (hf : field ∈ [feature.relatedFkFieldOnTarget, feature.relatedTimestampField,
      feature.relatedFilterField, feature.relatedValueField])
    (h : assertedColumn document field = .ok (some column)) :
    OfFeature document feature column := by
  cases field with
  | none => cases h
  | some f => exact ⟨f, List.mem_filterMap.2 ⟨some f, hf, rfl⟩, h⟩

theorem given_eq_some {field : Option String} {f : String} (h : given field = some f) :
    field = some f := (Option.filter_eq_some_iff.1 h).1

theorem ofFeature_timestamp {feature : FeatureSpec} {column : String}
    (h : timestampColumn document feature.relatedTimestampField = .ok (some column)) :
    OfFeature document feature column := by
  unfold timestampColumn at h
  split at h
  · rename_i f hf
    exact ⟨f, List.mem_filterMap.2 ⟨_, by simp, given_eq_some hf⟩, h⟩
  · cases h

theorem ofFeature_times {feature : FeatureSpec} {time : Option String} {predictionTime : DateTime}
    {times : List (Sql.Condition Value)}
    (ht : timestampColumn document feature.relatedTimestampField = .ok time)
    (h : timeConditions feature time predictionTime = .ok times) :
    ∀ c ∈ times, OfFeature document feature c.column := by
  intro c hc
  unfold timeConditions at h
  split at h
  · cases h; cases hc
  · rename_i column
    obtain ⟨days, -, h⟩ := except_bind_ok.1 h
    have hcolumn : c.column = column := by
      cases days <;> cases h <;> simp at hc
      · rw [hc]
      · rcases hc with rfl | rfl <;> rfl
    rw [hcolumn]
    exact ofFeature_timestamp ht

theorem ofFeature_filter {feature : FeatureSpec} {filter : List (Sql.Condition Value)}
    (h : filterCondition document feature = .ok filter) :
    ∀ c ∈ filter, OfFeature document feature c.column := by
  intro c hc
  unfold filterCondition at h
  split at h
  · rename_i f v hf hv
    obtain ⟨column, hr, h⟩ := except_bind_ok.1 h
    cases column with
    | none => cases h; cases hc
    | some column =>
      cases h
      rw [List.mem_singleton.1 hc]
      exact ⟨f, List.mem_filterMap.2 ⟨_, by simp, given_eq_some hf⟩, hr⟩
  · cases h; cases hc

/-- A recipe looks at nothing but columns of the fields its feature names. -/
theorem relatedFeature_columns {feature : FeatureSpec} {joinValue : Value}
    {predictionTime : DateTime} {connection : CustomerDatabaseConnection}
    {plan : Plan (Option Value)}
    (h : relatedFeaturePlan std feature document joinValue predictionTime connection = .ok plan)
    {select : Sql.Select Value} (hs : plan.select? = some select) {column : String}
    (hc : column ∈ select.columnsRead) : OfFeature document feature column := by
  obtain ⟨-, ⟨-, rfl⟩ | ⟨join, time, times, hjoin, ht, htimes, hrecipe⟩⟩ := relatedFeaturePlan_ok h
  · cases hs
  have hconditions : ∀ c ∈ (⟨join, .eq, joinValue⟩ :: times : List (Sql.Condition Value)),
      OfFeature document feature c.column := by
    intro c hc
    rcases List.mem_cons.1 hc with rfl | hc
    · exact ofFeature_asserted (by simp) hjoin
    · exact ofFeature_times ht htimes c hc
  have horder : ∀ o ∈ mostRecentFirst time, OfFeature document feature o.column := by
    intro o ho
    cases time with
    | none => cases ho
    | some column => cases ho; exact ofFeature_timestamp ht
  cases recipePlan_iff.1 hrecipe with
  | count filter hkind hfilter =>
    cases hs
    simp only [Sql.Select.columnsRead, selectFrom, Sql.Output.columnsRead, List.nil_append,
      Option.toList_none, List.map_nil, List.append_nil, List.mem_map] at hc
    obtain ⟨c, hc, rfl⟩ := hc
    rcases List.mem_append.1 hc with hc | hc
    · exact hconditions c hc
    · exact ofFeature_filter hfilter c hc
  | ratio filterColumn v hkind hfilter hvalue =>
    cases hs
    simp only [Sql.Select.columnsRead, selectFrom, Sql.Output.columnsRead, Option.toList_none,
      List.map_nil, List.append_nil, List.mem_append, List.mem_singleton, List.mem_map] at hc
    rcases hc with rfl | ⟨c, hc, rfl⟩
    · exact ofFeature_asserted (by simp) hfilter
    · exact hconditions c hc
  | recency timeColumn hkind htime =>
    cases hs
    simp only [Sql.Select.columnsRead, selectFrom, Sql.Output.columnsRead, Option.toList_none,
      List.map_nil, List.append_nil, List.mem_append, List.mem_singleton, List.mem_map] at hc
    rcases hc with rfl | ⟨c, hc, rfl⟩
    · rw [htime] at ht
      exact ofFeature_timestamp ht
    · exact hconditions c hc
  | latest valueColumn hkind hvalue =>
    cases hs
    simp only [Sql.Select.columnsRead, selectFrom, Sql.Output.columnsRead, List.mem_append,
      List.mem_singleton, List.mem_map, Option.mem_toList] at hc
    rcases hc with (rfl | ⟨c, hc, rfl⟩) | ⟨o, ho, rfl⟩
    · exact ofFeature_asserted (by simp) hvalue
    · exact hconditions c hc
    · exact horder o ho
  | unfiltered => cases hs
  | valueless => cases hs

theorem recipe_values {feature : FeatureSpec} {column : String}
    (h : OfFeature document feature column) :
    ∃ f ∈ relatedFields feature, ∀ row,
      valueUsed std .relatedRecipe document f row = .ok (row column) := by
  obtain ⟨f, hf, hr⟩ := h
  refine ⟨f, hf, fun row => ?_⟩
  simp only [valueUsed, hr, bind, Except.bind]
  rfl

end

end Extraction

end HermesRpt
