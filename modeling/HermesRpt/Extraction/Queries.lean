import HermesRpt.Extraction.Values

/-!
# HermesRpt.Extraction.Queries

The four query builders as one operation: when it sends a statement, and on which rows.

* `Query.run`         : the builder.
* `Query.Sends`       : the fields it needs can be read, so that a statement is sent.
* `Query.comparisons` : what the statement compares, read off the document and the arguments.
* `Query.asks_iff`    : a statement is sent exactly then, and these are its conditions.
-/

namespace HermesRpt

namespace Extraction

open Effect Connectors Mappings Features
open Keyed (Dict)
open FeatureKind ( RELATED_RATIO)

inductive Query where
  | targetRow (businessReference : String) (neededFields : List String)
  | datasetRows (timeField : String) (rangeStart rangeEnd : DateTime) (neededFields : List String)
  | relatedRecords (joinField : String) (joinValue : Value) (timestampField : Option String)
      (predictionTime : Option DateTime) (limit : Nat)
  | relatedFeature (feature : FeatureSpec) (joinValue : Value) (predictionTime : DateTime)

inductive Answer where
  | record (record : Option FieldRow)
  | records (records : List FieldRow)
  | value (value : Option Value)

def Query.run (env : Environment) (engine : Engine) (document : MappingDocument)
    (connection : CustomerDatabaseConnection) : Query → Extraction Answer
  | .targetRow businessReference neededFields => do
    return .record
      (← fetchTargetRow env engine document businessReference neededFields connection)
  | .datasetRows timeField rangeStart rangeEnd neededFields => do
    return .records
      (← fetchRowsInRange env engine document timeField rangeStart rangeEnd neededFields connection)
  | .relatedRecords joinField joinValue timestampField predictionTime limit => do
    return .records (← fetchRelatedRecords env engine document joinField joinValue timestampField
      predictionTime limit connection)
  | .relatedFeature feature joinValue predictionTime => do
    return .value (← compileAndRunRelatedFeature env engine feature document joinValue
      predictionTime connection)

/-! ## The plan of a query -/

def Plan.map {α β : Type} (f : α → β) : Plan α → Plan β
  | .done a => .done (f a)
  | .ask select answer => .ask select fun compare rows => (answer compare rows).map f

def Query.plan (std : Stdlib) (document : MappingDocument)
    (connection : CustomerDatabaseConnection) : Query → Except PyError (Plan Answer)
  | .targetRow businessReference neededFields =>
    (targetRowPlan std document businessReference neededFields connection).map (Plan.map .record)
  | .datasetRows timeField rangeStart rangeEnd neededFields =>
    (rowsInRangePlan std document timeField rangeStart rangeEnd neededFields connection).map
      (Plan.map .records)
  | .relatedRecords joinField joinValue timestampField predictionTime limit =>
    (relatedRecordsPlan std document joinField joinValue timestampField predictionTime limit
      connection).map (Plan.map .records)
  | .relatedFeature feature joinValue predictionTime =>
    (relatedFeaturePlan std feature document joinValue predictionTime connection).map
      (Plan.map .value)

section

variable {α β : Type} {env : Environment} {engine : Engine}

theorem perform_map (f : α → β) (plan : Except PyError (Plan α)) :
    (do return f (← perform env engine plan)) = perform env engine (plan.map (Plan.map f)) := by
  funext s
  match plan with
  | .error e => rfl
  | .ok (.done a) => rfl
  | .ok (.ask select answer) =>
    simp only [perform, Except.map, Plan.map, execute, bind, Process.bind, Process.modify,
      Process.lift, pure, Process.pure]
    cases (env.world engine).run select with
    | error e => rfl
    | ok rows => cases h : answer (env.world engine).compare rows <;> simp [h]

/-- A query performs its plan. -/
theorem Query.run_perform (query : Query) (document : MappingDocument)
    (connection : CustomerDatabaseConnection) :
    query.run env engine document connection =
      perform env engine (query.plan env.std document connection) := by
  cases query with
  | targetRow reference fields => rw [run, fetchTargetRow_perform, perform_map]; rfl
  | datasetRows time start stop fields => rw [run, fetchRowsInRange_perform, perform_map]; rfl
  | relatedRecords join value timestamp time limit =>
    rw [run, fetchRelatedRecords_perform, perform_map]; rfl
  | relatedFeature feature value time =>
    rw [run, compileAndRunRelatedFeature_perform, perform_map]; rfl

end

/-! ## When a statement is sent -/

/-- The column of a field that is mapped to one. -/
def columnOf (document : MappingDocument) (fieldName : String) : Option String :=
  (document.allFieldMappings.get? fieldName).bind (·.firstSource.column)

/-- A field that is mapped to a column. -/
def Mapped (document : MappingDocument) (fieldName : String) : Prop :=
  (columnOf document fieldName).isSome

/-- A field that is mapped to a column or not at all. -/
def Readable (document : MappingDocument) (fieldName : String) : Prop :=
  document.allFieldMappings.get? fieldName = none ∨ Mapped document fieldName

/-- The document's table is approved for the connection. -/
def Allowlisted (document : MappingDocument) (connection : CustomerDatabaseConnection) : Prop :=
  document.source.schemaName ∈ connection.schemaAllowlist ∧
    document.source.table ∈ connection.tableAllowlist

def HasIdentity (document : MappingDocument) : Prop :=
  ∃ fieldName, document.identity.keys = [fieldName] ∧ Mapped document fieldName

def KnownEntity (document : MappingDocument) : Prop :=
  ∃ entity, Ontology.V1.ontology.getEntity document.entity = .ok entity

/-- The fields a recipe reads besides the join field. -/
def RecipeReads (document : MappingDocument) (feature : FeatureSpec) : Prop :=
  match feature.kind with
  | .RELATED_COUNT => ∀ f v, given feature.relatedFilterField = some f →
      feature.relatedFilterEquals = some v → Readable document f
  | RELATED_RATIO => ∃ f v, feature.relatedFilterField = some f ∧ Mapped document f ∧
      feature.relatedFilterEquals = some v
  | .RELATED_RECENCY_DAYS => ∃ f, given feature.relatedTimestampField = some f ∧ Mapped document f
  | .RELATED_LATEST_VALUE => ∃ f, feature.relatedValueField = some f ∧ Mapped document f
  | .DIRECT_FIELD | .DERIVED_FROM_TARGET => False

/-- What the query needs to read is there, so that it gets as far as a statement. -/
def Query.Sends (document : MappingDocument) : Query → Prop
  | .targetRow _ neededFields => HasIdentity document ∧ ∀ f ∈ neededFields, Readable document f
  | .datasetRows timeField _ _ neededFields =>
    HasIdentity document ∧ Mapped document timeField ∧ (∀ f ∈ neededFields, Readable document f) ∧
      KnownEntity document
  | .relatedRecords joinField _ _ _ _ =>
    Mapped document joinField ∧ (∀ f ∈ document.allFieldMappings.keys, Readable document f) ∧
      KnownEntity document
  | .relatedFeature feature _ _ =>
    (∃ f, feature.relatedFkFieldOnTarget = some f ∧ Mapped document f) ∧
      (∀ f, given feature.relatedTimestampField = some f → Readable document f ∧
        (Mapped document f → ∀ days, feature.historicalWindowDays = some days →
          days ≤ maxHistoricalWindowDays)) ∧
      RecipeReads document feature

/-- `column operator :parameter` on the column of a field, if there is one. -/
def compareField (document : MappingDocument) (fieldName : Option String) (operator : Sql.Operator)
    (parameter : Value) : List (Sql.Condition Value) :=
  ((fieldName.bind (columnOf document)).toList).map fun column => ⟨column, operator, parameter⟩

/-- What the query compares with columns of the table. -/
def Query.comparisons (document : MappingDocument) : Query → List (Sql.Condition Value)
  | .targetRow businessReference _ =>
    compareField document document.identity.keys.head? .eq (.str businessReference)
  | .datasetRows timeField rangeStart rangeEnd _ =>
    compareField document timeField .ge (.datetime rangeStart) ++
      compareField document timeField .lt (.datetime rangeEnd)
  | .relatedRecords joinField joinValue timestampField predictionTime _ =>
    compareField document joinField .eq joinValue ++
      predictionTime.toList.flatMap fun time =>
        compareField document (given timestampField) .lt (.datetime time)
  | .relatedFeature feature joinValue predictionTime =>
    compareField document feature.relatedFkFieldOnTarget .eq joinValue ++
      (compareField document (given feature.relatedTimestampField) .lt (.datetime predictionTime) ++
        feature.historicalWindowDays.toList.flatMap fun days =>
          compareField document (given feature.relatedTimestampField) .ge
            (.datetime (predictionTime.minusDays days))) ++
      if feature.kind = .RELATED_COUNT then
        feature.relatedFilterEquals.toList.flatMap fun value =>
          compareField document (given feature.relatedFilterField) .eq (.str value)
      else []

/-- The number of rows it takes at most. -/
def Query.limit : Query → Option Nat
  | .targetRow _ _ => some 1
  | .datasetRows _ _ _ _ => some datasetBuildRowLimit
  | .relatedRecords _ _ _ _ limit => some limit
  | .relatedFeature feature _ _ =>
    if feature.kind = .RELATED_LATEST_VALUE then some relatedRowLimit else none

section

variable {std : Stdlib} {document : MappingDocument} {connection : CustomerDatabaseConnection}

theorem resolveColumn_mapped {f c : String} :
    resolveColumn document f = .ok (some c) ↔ columnOf document f = some c := by
  unfold resolveColumn columnOf
  cases document.allFieldMappings.get? f with
  | none => simp
  | some m => cases h : m.firstSource.column <;> simp [h]

theorem resolveColumn_unmapped {f : String} :
    resolveColumn document f = .ok none ↔ document.allFieldMappings.get? f = none := by
  unfold resolveColumn
  cases document.allFieldMappings.get? f with
  | none => simp
  | some m => cases h : m.firstSource.column <;> simp [h]

theorem resolveColumn_readable {f : String} :
    Readable document f ↔ resolveColumn document f = .ok (columnOf document f) := by
  unfold Readable Mapped resolveColumn columnOf
  cases document.allFieldMappings.get? f with
  | none => simp
  | some m => cases h : m.firstSource.column <;> simp [h]

theorem mapped_iff {f : String} :
    Mapped document f ↔ ∃ c, resolveColumn document f = .ok (some c) := by
  simp only [resolveColumn_mapped, Mapped, Option.isSome_iff_exists]

theorem Mapped.readable {f : String} (h : Mapped document f) : Readable document f := .inr h

theorem readable_of_ok {f : String} {c : Option String} (h : resolveColumn document f = .ok c) :
    Readable document f ∧ columnOf document f = c := by
  cases c with
  | none =>
    have hf := resolveColumn_unmapped.1 h
    exact ⟨.inl hf, by rw [columnOf, hf]; rfl⟩
  | some c =>
    have hf := resolveColumn_mapped.1 h
    exact ⟨.inr (by rw [Mapped, hf]; rfl), hf⟩

theorem checkAllowlisted_ok : checkAllowlisted document connection = .ok () ↔
    Allowlisted document connection := by
  unfold checkAllowlisted assertObjectAllowed Allowlisted
  by_cases hs : document.source.schemaName ∈ connection.schemaAllowlist
  · by_cases ht : document.source.table ∈ connection.tableAllowlist <;> simp [hs, ht]
  · simp [hs]

theorem identityColumn_iff : HasIdentity document ↔ ∃ p, identityColumn document = .ok p := by
  unfold HasIdentity identityColumn
  constructor
  · rintro ⟨f, hk, hf⟩
    obtain ⟨c, hc⟩ := mapped_iff.1 hf
    exact ⟨(f, c), by rw [hk]; simp only [hc, bind, Except.bind]; rfl⟩
  · rintro ⟨p, h⟩
    split at h
    · rename_i f hk
      obtain ⟨c, hc, h⟩ := except_bind_ok.1 h
      cases c with
      | none => cases h
      | some c => exact ⟨f, hk, mapped_iff.2 ⟨c, hc⟩⟩
    · cases h

theorem datetimeFieldNames_iff :
    KnownEntity document ↔ ∃ l, datetimeFieldNames document = .ok l := by
  unfold KnownEntity datetimeFieldNames
  simp only [Ontology.getOntology, Ontology.defaultOntologyVersion, if_true, bind, Except.bind]
  cases Ontology.V1.ontology.getEntity document.entity <;> simp [pure, Except.pure]

theorem addColumns_of_readable {fieldNames : List String} (columns : Dict String String)
    (h : ∀ f ∈ fieldNames, Readable document f) :
    ∃ columns', addColumns document columns fieldNames = .ok columns' := by
  induction fieldNames generalizing columns with
  | nil => exact ⟨columns, rfl⟩
  | cons f fs ih =>
    have hfs : ∀ g ∈ fs, Readable document g := fun g hg => h g (by simp [hg])
    rw [addColumns_cons]
    split
    · exact ih columns hfs
    · rw [resolveColumn_readable.1 (h f (by simp))]
      cases columnOf document f with
      | none => exact ih columns hfs
      | some column => exact ih _ hfs

theorem readable_of_keys (h : ∀ f ∈ document.allFieldMappings.keys, Readable document f)
    (f : String) : Readable document f := by
  by_cases hf : f ∈ document.allFieldMappings.keys
  · exact h f hf
  · exact .inl (Keyed.Dict.get?_eq_none.2 hf)

theorem readable_of_addColumns {fieldNames : List String} {columns columns' : Dict String String}
    (hc : Resolved document columns) (h : addColumns document columns fieldNames = .ok columns') :
    ∀ f ∈ fieldNames, Readable document f :=
  fun f hf => (readable_of_ok ((addColumns_ok hc h).2.1 f hf)).1

theorem timestampColumn_iff {field : Option String} {time : Option String} :
    timestampColumn document field = .ok time ↔
      (∀ f, given field = some f → Readable document f) ∧
        time = (given field).bind (columnOf document) := by
  unfold timestampColumn
  cases given field with
  | none => simp [eq_comm]
  | some f =>
    constructor
    · intro h
      obtain ⟨hr, hc⟩ := readable_of_ok h
      exact ⟨fun g hg => by cases hg; exact hr, hc.symm⟩
    · rintro ⟨hr, rfl⟩
      exact resolveColumn_readable.1 (hr f rfl)

theorem assertedColumn_some {field : Option String} {column : String} :
    assertedColumn document field = .ok (some column) ↔
      ∃ f, field = some f ∧ columnOf document f = some column := by
  cases field with
  | none => simp [assertedColumn]
  | some f => simp [assertedColumn, resolveColumn_mapped]

theorem compareField_some {f c : String} {operator : Sql.Operator} {parameter : Value}
    (h : columnOf document f = some c) :
    compareField document (some f) operator parameter = [⟨c, operator, parameter⟩] := by
  simp [compareField, h]

theorem compareField_none {f : String} {operator : Sql.Operator} {parameter : Value}
    (h : columnOf document f = none) : compareField document (some f) operator parameter = [] := by
  simp [compareField, h]

/-- The conditions on the timestamp are those of the feature, and the window is in bounds. -/
theorem timeConditions_iff {feature : FeatureSpec} {predictionTime : DateTime}
    {times : List (Sql.Condition Value)} :
    timeConditions feature ((given feature.relatedTimestampField).bind (columnOf document))
        predictionTime = .ok times ↔
      (∀ f, given feature.relatedTimestampField = some f → Mapped document f →
        ∀ days, feature.historicalWindowDays = some days → days ≤ maxHistoricalWindowDays) ∧
      times =
        compareField document (given feature.relatedTimestampField) .lt
            (.datetime predictionTime) ++
          feature.historicalWindowDays.toList.flatMap fun days =>
            compareField document (given feature.relatedTimestampField) .ge
              (.datetime (predictionTime.minusDays days)) := by
  have hnil : (feature.historicalWindowDays.toList.flatMap fun _ =>
      ([] : List (Sql.Condition Value))) = [] := by
    cases feature.historicalWindowDays <;> rfl
  cases hg : given feature.relatedTimestampField with
  | none => simp [timeConditions, compareField, hnil, eq_comm]
  | some f =>
    cases hc : columnOf document f with
    | none =>
      have hmapped : ¬Mapped document f := by simp [Mapped, hc]
      simp [timeConditions, compareField, hc, hmapped, hnil, eq_comm]
    | some c =>
      simp only [timeConditions, Option.bind_some, hc, Mapped, Option.isSome_some, true_implies,
        Option.some.injEq, forall_eq', compareField_some hc]
      cases hd : feature.historicalWindowDays with
      | none => simp [enforceWindowLimit, bind, Except.bind, pure, Except.pure, eq_comm]
      | some days =>
        by_cases hmax : days > maxHistoricalWindowDays
        · have : ¬days ≤ maxHistoricalWindowDays := by omega
          simp [enforceWindowLimit, hmax, this, bind, Except.bind]
        · have : days ≤ maxHistoricalWindowDays := by omega
          simp [enforceWindowLimit, hmax, this, bind, Except.bind, pure, Except.pure, eq_comm]

/-- The filter of a count, when its field can be read. -/
theorem filterCondition_iff {feature : FeatureSpec} {filter : List (Sql.Condition Value)} :
    filterCondition document feature = .ok filter ↔
      (∀ f v, given feature.relatedFilterField = some f → feature.relatedFilterEquals = some v →
        Readable document f) ∧
      filter = feature.relatedFilterEquals.toList.flatMap fun value =>
        compareField document (given feature.relatedFilterField) .eq (.str value) := by
  cases hf : given feature.relatedFilterField with
  | none =>
    cases hv : feature.relatedFilterEquals with
    | none => simp [filterCondition, hf, eq_comm]
    | some v => simp [filterCondition, hf, compareField, eq_comm]
  | some f =>
    cases hv : feature.relatedFilterEquals with
    | none => simp [filterCondition, hf, hv, eq_comm]
    | some v =>
      simp only [filterCondition, hf, hv, Option.toList_some, List.flatMap_cons, List.flatMap_nil,
        List.append_nil]
      constructor
      · intro h
        obtain ⟨column, hcolumn, h⟩ := except_bind_ok.1 h
        obtain ⟨hread, hc⟩ := readable_of_ok hcolumn
        cases column with
        | none =>
          cases h
          exact ⟨by rintro _ _ ⟨⟩ -; exact hread, (compareField_none hc).symm⟩
        | some column =>
          cases h
          exact ⟨by rintro _ _ ⟨⟩ -; exact hread, (compareField_some hc).symm⟩
      · rintro ⟨hread, rfl⟩
        rw [resolveColumn_readable.1 (hread f v rfl rfl), except_ok_bind]
        cases hc : columnOf document f with
        | none => rw [compareField_none hc]; rfl
        | some column => rw [compareField_some hc]; rfl

/-- The statement of a recipe. -/
theorem recipePlan_ask {feature : FeatureSpec} {conditions : List (Sql.Condition Value)}
    {time : Option String} {predictionTime : DateTime} {plan : Plan (Option Value)}
    (ht : time = (given feature.relatedTimestampField).bind (columnOf document))
    (h : recipePlan std feature document conditions time predictionTime = .ok plan)
    {select : Sql.Select Value} (hs : plan.select? = some select) :
    RecipeReads document feature ∧ select.schemaName = document.source.schemaName ∧
      select.table = document.source.table ∧
      select.conditions = conditions ++ (if feature.kind = .RELATED_COUNT then
        feature.relatedFilterEquals.toList.flatMap fun value =>
          compareField document (given feature.relatedFilterField) .eq (.str value) else []) ∧
      select.limit =
        if feature.kind = .RELATED_LATEST_VALUE then some relatedRowLimit else none := by
  unfold RecipeReads
  cases recipePlan_iff.1 h with
  | count filter hkind hfilter =>
    cases hs
    obtain ⟨hread, rfl⟩ := filterCondition_iff.1 hfilter
    rw [hkind]
    exact ⟨hread, rfl, rfl, rfl, rfl⟩
  | ratio column v hkind hcolumn hvalue =>
    cases hs
    obtain ⟨f, hf, hcol⟩ := assertedColumn_some.1 hcolumn
    rw [hkind]
    refine ⟨⟨f, v, hf, ?_, hvalue⟩, rfl, rfl, by simp [selectFrom], rfl⟩
    rw [Mapped, hcol]; rfl
  | recency column hkind htime =>
    cases hs
    obtain ⟨f, hf, hcol⟩ := Option.bind_eq_some_iff.1 (ht.symm.trans htime)
    rw [hkind]
    refine ⟨⟨f, hf, ?_⟩, rfl, rfl, by simp [selectFrom], rfl⟩
    rw [Mapped, hcol]; rfl
  | latest column hkind hcolumn =>
    cases hs
    obtain ⟨f, hf, hcol⟩ := assertedColumn_some.1 hcolumn
    rw [hkind]
    refine ⟨⟨f, hf, ?_⟩, rfl, rfl, by simp [selectFrom], rfl⟩
    rw [Mapped, hcol]; rfl
  | unfiltered => cases hs
  | valueless => cases hs

/-- A recipe whose fields can be read sends its statement. -/
theorem recipePlan_sends (std : Stdlib) {feature : FeatureSpec}
    (conditions : List (Sql.Condition Value)) (predictionTime : DateTime)
    (h : RecipeReads document feature) :
    ∃ select answer, recipePlan std feature document conditions
      ((given feature.relatedTimestampField).bind (columnOf document)) predictionTime =
        .ok (.ask select answer) := by
  unfold RecipeReads at h
  cases hk : feature.kind with
  | RELATED_COUNT =>
    rw [hk] at h
    exact ⟨_, _, recipePlan_iff.2 (.count _ hk (filterCondition_iff.2 ⟨h, rfl⟩))⟩
  | RELATED_RATIO =>
    rw [hk] at h
    obtain ⟨f, v, hf, hm, hv⟩ := h
    obtain ⟨c, hc⟩ := Option.isSome_iff_exists.1 hm
    exact ⟨_, _, recipePlan_iff.2 (.ratio c v hk (assertedColumn_some.2 ⟨f, hf, hc⟩) hv)⟩
  | RELATED_RECENCY_DAYS =>
    rw [hk] at h
    obtain ⟨f, hf, hm⟩ := h
    obtain ⟨c, hc⟩ := Option.isSome_iff_exists.1 hm
    exact ⟨_, _, recipePlan_iff.2 (.recency c hk (by rw [hf]; exact hc))⟩
  | RELATED_LATEST_VALUE =>
    rw [hk] at h
    obtain ⟨f, hf, hm⟩ := h
    obtain ⟨c, hc⟩ := Option.isSome_iff_exists.1 hm
    exact ⟨_, _, recipePlan_iff.2 (.latest c hk (assertedColumn_some.2 ⟨f, hf, hc⟩))⟩
  | DIRECT_FIELD => rw [hk] at h; exact h.elim
  | DERIVED_FROM_TARGET => rw [hk] at h; exact h.elim

/-! ## The statement of a query -/

theorem map_ok {α β : Type} {f : α → β} {r : Except PyError (Plan α)} {plan : Plan β}
    (h : r.map (Plan.map f) = .ok plan) : ∃ p, r = .ok p ∧ plan = p.map f := by
  cases r with
  | error e => cases h
  | ok p => cases h; exact ⟨p, rfl, rfl⟩

@[simp] theorem Plan.select?_map {α β : Type} {f : α → β} (plan : Plan α) :
    (plan.map f).select? = plan.select? := by
  cases plan <;> rfl

/-- What a query sends looks only at the document's table, under its own comparisons. -/
structure Query.Asks (document : MappingDocument) (query : Query) (select : Sql.Select Value) :
    Prop where
  schemaName : select.schemaName = document.source.schemaName
  table : select.table = document.source.table
  conditions : select.conditions = query.comparisons document
  limit : select.limit = query.limit

theorem targetRow_asks {reference : String} {fields : List String}
    {plan : Plan (Option FieldRow)}
    (h : targetRowPlan std document reference fields connection = .ok plan)
    {select : Sql.Select Value} (hs : plan.select? = some select) :
    Allowlisted document connection ∧ (Query.targetRow reference fields).Sends document ∧
      (Query.targetRow reference fields).Asks document select := by
  obtain ⟨ha, identity, columns, hid, hcol, rfl⟩ := targetRowPlan_ok h
  cases hs
  obtain ⟨hkeys, hr⟩ := identityColumn_ok hid
  refine ⟨checkAllowlisted_ok.1 ha, ⟨identityColumn_iff.2 ⟨_, hid⟩, fun f hf => ?_⟩, rfl, rfl, ?_,
    rfl⟩
  · exact readable_of_addColumns (resolved_identity hid) hcol f ((std.mem_setOrder _ _).2 hf)
  · simp only [targetSelect, selectFrom, Query.comparisons, hkeys, List.head?_cons,
      compareField_some (resolveColumn_mapped.1 hr)]

theorem rowsInRange_asks {timeField : String} {rangeStart rangeEnd : DateTime}
    {fields : List String} {plan : Plan (List FieldRow)}
    (h : rowsInRangePlan std document timeField rangeStart rangeEnd fields connection = .ok plan)
    {select : Sql.Select Value} (hs : plan.select? = some select) :
    Allowlisted document connection ∧
      (Query.datasetRows timeField rangeStart rangeEnd fields).Sends document ∧
      (Query.datasetRows timeField rangeStart rangeEnd fields).Asks document select := by
  obtain ⟨ha, ⟨-, rfl⟩ | ⟨identity, time, columns, dates, hid, ht, hcol, hd, rfl⟩⟩ :=
    rowsInRangePlan_ok h
  · cases hs
  cases hs
  refine ⟨checkAllowlisted_ok.1 ha, ⟨identityColumn_iff.2 ⟨_, hid⟩, mapped_iff.2 ⟨_, ht⟩,
    fun f hf => ?_, datetimeFieldNames_iff.2 ⟨_, hd⟩⟩, rfl, rfl, ?_, rfl⟩
  · exact readable_of_addColumns (resolved_identity hid) hcol f
      ((std.mem_setOrder _ _).2 (by simp [hf]))
  · simp only [rangeSelect, selectFrom, Query.comparisons,
      compareField_some (resolveColumn_mapped.1 ht), List.cons_append, List.nil_append]

theorem relatedRecords_asks {joinField : String} {joinValue : Value}
    {timestampField : Option String} {predictionTime : Option DateTime} {limit : Nat}
    {plan : Plan (List FieldRow)}
    (h : relatedRecordsPlan std document joinField joinValue timestampField predictionTime limit
      connection = .ok plan) {select : Sql.Select Value} (hs : plan.select? = some select) :
    Allowlisted document connection ∧
      (Query.relatedRecords joinField joinValue timestampField predictionTime limit).Sends
        document ∧
      (Query.relatedRecords joinField joinValue timestampField predictionTime limit).Asks document
        select := by
  obtain ⟨ha, ⟨-, rfl⟩ | ⟨join, columns, time, dates, hj, hcol, ht, hd, rfl⟩⟩ :=
    relatedRecordsPlan_ok h
  · cases hs
  cases hs
  obtain ⟨-, htime⟩ := timestampColumn_iff.1 ht
  refine ⟨checkAllowlisted_ok.1 ha, ⟨mapped_iff.2 ⟨_, hj⟩,
    readable_of_addColumns resolved_empty hcol, datetimeFieldNames_iff.2 ⟨_, hd⟩⟩, rfl, rfl, ?_,
    rfl⟩
  simp only [relatedSelect, selectFrom, Query.comparisons,
    compareField_some (resolveColumn_mapped.1 hj), List.cons_append, List.nil_append]
  congr 1
  cases predictionTime with
  | none => cases time <;> rfl
  | some t =>
    cases time with
    | none => simp [cutoff, compareField, ← htime]
    | some c => simp [cutoff, compareField, ← htime]

theorem relatedFeature_asks {feature : FeatureSpec} {joinValue : Value}
    {predictionTime : DateTime} {plan : Plan (Option Value)}
    (h : relatedFeaturePlan std feature document joinValue predictionTime connection = .ok plan)
    {select : Sql.Select Value} (hs : plan.select? = some select) :
    Allowlisted document connection ∧
      (Query.relatedFeature feature joinValue predictionTime).Sends document ∧
      (Query.relatedFeature feature joinValue predictionTime).Asks document select := by
  obtain ⟨ha, ⟨-, rfl⟩ | ⟨join, time, times, hj, ht, htimes, hrecipe⟩⟩ := relatedFeaturePlan_ok h
  · cases hs
  obtain ⟨f, hf, hcol⟩ := assertedColumn_some.1 hj
  obtain ⟨hread, htime⟩ := timestampColumn_iff.1 ht
  rw [htime] at htimes
  obtain ⟨hwindow, htimes⟩ := timeConditions_iff.1 htimes
  obtain ⟨hreads, hschema, htable, hconditions, hlimit⟩ := recipePlan_ask htime hrecipe hs
  refine ⟨checkAllowlisted_ok.1 ha, ⟨⟨f, hf, ?_⟩, fun g hg => ⟨hread g hg, hwindow g hg⟩, hreads⟩,
    hschema, htable, ?_, hlimit⟩
  · rw [Mapped, hcol]; rfl
  · rw [hconditions, htimes, Query.comparisons, hf, compareField_some hcol]
    simp only [List.cons_append, List.nil_append]

/-- A query sends a statement only when the table is approved and its fields can be read. -/
theorem Query.asks {query : Query} {plan : Plan Answer}
    (h : query.plan std document connection = .ok plan) {select : Sql.Select Value}
    (hs : plan.select? = some select) :
    Allowlisted document connection ∧ query.Sends document ∧ query.Asks document select := by
  cases query with
  | targetRow reference fields =>
    obtain ⟨p, hp, rfl⟩ := map_ok h
    exact targetRow_asks hp (by simpa using hs)
  | datasetRows time start stop fields =>
    obtain ⟨p, hp, rfl⟩ := map_ok h
    exact rowsInRange_asks hp (by simpa using hs)
  | relatedRecords join value timestamp time limit =>
    obtain ⟨p, hp, rfl⟩ := map_ok h
    exact relatedRecords_asks hp (by simpa using hs)
  | relatedFeature feature value time =>
    obtain ⟨p, hp, rfl⟩ := map_ok h
    exact relatedFeature_asks hp (by simpa using hs)

/-- And then it does send one. -/
theorem Query.asks_of_sends {query : Query} (ha : Allowlisted document connection)
    (h : query.Sends document) :
    ∃ select answer, query.plan std document connection = .ok (.ask select answer) := by
  have hallowed := checkAllowlisted_ok.2 ha
  cases query with
  | targetRow reference fields =>
    obtain ⟨hid, hfields⟩ := h
    obtain ⟨p, hp⟩ := identityColumn_iff.1 hid
    have hread : ∀ f ∈ std.setOrder fields, Readable document f := fun f hf =>
      hfields f ((std.mem_setOrder _ _).1 hf)
    obtain ⟨columns, hcol⟩ := addColumns_of_readable (Dict.ofList [p]) hread
    simp [Query.plan, targetRowPlan, hallowed, hp, hcol, bind, Except.bind, pure, Except.pure,
      Except.map, Plan.map]
  | datasetRows time start stop fields =>
    obtain ⟨hid, htime, hfields, hentity⟩ := h
    obtain ⟨p, hp⟩ := identityColumn_iff.1 hid
    obtain ⟨c, hc⟩ := mapped_iff.1 htime
    have hread : ∀ f ∈ std.setOrder (fields ++ [time]), Readable document f := by
      intro f hf
      rcases List.mem_append.1 ((std.mem_setOrder _ _).1 hf) with hf | hf
      · exact hfields f hf
      · rw [List.mem_singleton.1 hf]; exact htime.readable
    obtain ⟨columns, hcol⟩ := addColumns_of_readable (Dict.ofList [p]) hread
    obtain ⟨dates, hd⟩ := datetimeFieldNames_iff.1 hentity
    simp [Query.plan, rowsInRangePlan, hallowed, hp, hc, hcol, hd, bind, Except.bind, pure,
      Except.pure, Except.map, Plan.map]
  | relatedRecords join value timestamp time limit =>
    obtain ⟨hjoin, hfields, hentity⟩ := h
    obtain ⟨c, hc⟩ := mapped_iff.1 hjoin
    obtain ⟨columns, hcol⟩ := addColumns_of_readable Keyed.Table.empty hfields
    obtain ⟨dates, hd⟩ := datetimeFieldNames_iff.1 hentity
    have ht : timestampColumn document timestamp = .ok _ :=
      timestampColumn_iff.2 ⟨fun f _ => readable_of_keys hfields f, rfl⟩
    simp [Query.plan, relatedRecordsPlan, hallowed, hc, hcol, hd, ht, bind, Except.bind, pure,
      Except.pure, Except.map, Plan.map]
  | relatedFeature feature value time =>
    obtain ⟨⟨f, hf, hmapped⟩, htimestamp, hreads⟩ := h
    obtain ⟨c, hc⟩ := Option.isSome_iff_exists.1 hmapped
    have hjoin : assertedColumn document feature.relatedFkFieldOnTarget = .ok (some c) :=
      assertedColumn_some.2 ⟨f, hf, hc⟩
    have ht : timestampColumn document feature.relatedTimestampField = .ok _ :=
      timestampColumn_iff.2 ⟨fun g hg => (htimestamp g hg).1, rfl⟩
    obtain ⟨times, htimes⟩ : ∃ times, timeConditions feature
        ((given feature.relatedTimestampField).bind (columnOf document)) time = .ok times :=
      ⟨_, timeConditions_iff.2 ⟨fun g hg => (htimestamp g hg).2, rfl⟩⟩
    obtain ⟨select, answer, hrecipe⟩ := recipePlan_sends std (⟨c, .eq, value⟩ :: times) time hreads
    simp [Query.plan, relatedFeaturePlan, hallowed, hjoin, ht, htimes, hrecipe, bind, Except.bind,
      Except.map, Plan.map]

/-- What a query sends, and where. -/
theorem Query.mem_statements {query : Query} {env : Environment} {engine : Engine}
    {s : ExtractionState} {p : Engine × Sql.Select Value} :
    p ∈ (query.run env engine document connection s).2.statements ↔
      p ∈ s.statements ∨ ∃ plan select, query.plan env.std document connection = .ok plan ∧
        plan.select? = some select ∧ p = (engine, select) := by
  rw [Query.run_perform, perform_state, List.mem_append, mem_sent]

theorem Query.result {query : Query} {env : Environment} {engine : Engine}
    {s : ExtractionState} :
    (query.run env engine document connection s).1 =
      query.plan env.std document connection >>= Plan.result (env.world engine) := by
  rw [Query.run_perform, perform_result]

end

end Extraction

end HermesRpt
