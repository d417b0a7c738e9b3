import HermesRpt.Extraction.Routes

/-!
# HermesRpt.Extraction.Statements

What the query builders send. A builder either finishes without a statement or sends one, which
does not depend on any row, and makes its result from the answer.

* `Plan`       : the outcome of a builder before the database is asked.
* `perform`    : sends the statement of a plan.
* `*_perform`  : each builder performs its plan.
-/

namespace HermesRpt

namespace Extraction

open Effect Connectors Mappings Features
open Keyed (Dict)
open FeatureKind ( RELATED_RATIO)

inductive Plan (α : Type) where
  | done (a : α)
  | ask (select : Sql.Select Value)
      (answer : Sql.Comparison Value → List (Sql.Row Value) → Except PyError α)

def perform {α : Type} (env : Environment) (engine : Engine) :
    Except PyError (Plan α) → Extraction α
  | .error e => Process.raise e
  | .ok (.done a) => pure a
  | .ok (.ask select answer) => do
    let rows ← execute env engine select
    Process.lift (answer (env.world engine).compare rows)

/-- What a plan gives on a database. -/
def Plan.result {α : Type} (database : CustomerDatabase) : Plan α → Except PyError α
  | .done a => .ok a
  | .ask select answer => do answer database.compare (← database.run select)

/-- The statement of a plan. -/
def Plan.select? {α : Type} : Plan α → Option (Sql.Select Value)
  | .done _ => none
  | .ask select _ => some select

/-! ## The plans of the four builders -/

def targetSelect (document : MappingDocument) (columns : Dict String String)
    (identityColumn businessReference : String) : Sql.Select Value :=
  selectFrom document (.columns columns.values) [⟨identityColumn, .eq, .str businessReference⟩] none
    (some 1)

def targetRowPlan (std : Stdlib) (document : MappingDocument) (businessReference : String)
    (neededFields : List String) (connection : CustomerDatabaseConnection) :
    Except PyError (Plan (Option FieldRow)) := do
  checkAllowlisted document connection
  let (identityField, identityColumn) ← identityColumn document
  let columns ← addColumns document (Dict.ofList [(identityField, identityColumn)])
    (std.setOrder neededFields)
  return .ask (targetSelect document columns identityColumn businessReference)
    fun _ rows => .ok (rows.head?.map (readRow columns))

def rangeSelect (document : MappingDocument) (columns : Dict String String) (timeColumn : String)
    (rangeStart rangeEnd : DateTime) : Sql.Select Value :=
  selectFrom document (.columns columns.values)
    [⟨timeColumn, .ge, .datetime rangeStart⟩, ⟨timeColumn, .lt, .datetime rangeEnd⟩]
    (some { column := timeColumn }) (some datasetBuildRowLimit)

/-- The coerced records of some rows. -/
def coercedRecords (std : Stdlib) (columns : Dict String String) (datetimeFields : List String)
    (rows : List (Sql.Row Value)) : Except PyError (List FieldRow) :=
  rows.mapM fun row => coerceRowDatetimes std (readRow columns row) datetimeFields

def rowsInRangePlan (std : Stdlib) (document : MappingDocument) (timeField : String)
    (rangeStart rangeEnd : DateTime) (neededFields : List String)
    (connection : CustomerDatabaseConnection) : Except PyError (Plan (List FieldRow)) := do
  checkAllowlisted document connection
  let (identityField, identityColumn) ← identityColumn document
  match ← resolveColumn document timeField with
  | none => return .done []
  | some timeColumn =>
    let columns ← addColumns document (Dict.ofList [(identityField, identityColumn)])
      (std.setOrder (neededFields ++ [timeField]))
    let datetimeFields ← datetimeFieldNames document
    return .ask (rangeSelect document columns timeColumn rangeStart rangeEnd)
      fun _ rows => coercedRecords std columns datetimeFields rows

/-- The column of an optional timestamp field. -/
def timestampColumn (document : MappingDocument) (timestampField : Option String) :
    Except PyError (Option String) :=
  match given timestampField with
  | some timestampField => resolveColumn document timestampField
  | none => .ok none

/-- `< :prediction_time`, when both are there. -/
def cutoff (timestampColumn : Option String) (predictionTime : Option DateTime) :
    List (Sql.Condition Value) :=
  match timestampColumn, predictionTime with
  | some column, some time => [⟨column, .lt, .datetime time⟩]
  | _, _ => []

def mostRecentFirst (timestampColumn : Option String) : Option Sql.Order :=
  timestampColumn.map fun column => { column, descending := true }

def relatedSelect (document : MappingDocument) (columns : Dict String String) (joinColumn : String)
    (joinValue : Value) (timestampColumn : Option String) (predictionTime : Option DateTime)
    (limit : Nat) : Sql.Select Value :=
  selectFrom document (.columns columns.values)
    (⟨joinColumn, .eq, joinValue⟩ :: cutoff timestampColumn predictionTime)
    (mostRecentFirst timestampColumn) (some limit)

def relatedRecordsPlan (std : Stdlib) (document : MappingDocument) (joinField : String)
    (joinValue : Value) (timestampField : Option String) (predictionTime : Option DateTime)
    (limit : Nat) (connection : CustomerDatabaseConnection) :
    Except PyError (Plan (List FieldRow)) := do
  checkAllowlisted document connection
  match ← resolveColumn document joinField with
  | none => return .done []
  | some joinColumn =>
    let columns ← addColumns document Keyed.Table.empty document.allFieldMappings.keys
    let timestampColumn ← timestampColumn document timestampField
    let datetimeFields ← datetimeFieldNames document
    return .ask (relatedSelect document columns joinColumn joinValue timestampColumn predictionTime
      limit) fun _ rows => coercedRecords std columns datetimeFields rows

/-- The statement of each recipe, and its value from the selected rows. -/
def recipePlan (std : Stdlib) (feature : FeatureSpec) (document : MappingDocument)
    (conditions : List (Sql.Condition Value)) (timestampColumn : Option String)
    (predictionTime : DateTime) : Except PyError (Plan (Option Value)) :=
  match feature.kind with
  | .RELATED_COUNT => do
    let filter ← filterCondition document feature
    return .ask (selectFrom document .count (conditions ++ filter)) fun _ rows =>
      .ok (some (.int rows.length))
  | RELATED_RATIO => do
    match ← assertedColumn document feature.relatedFilterField, feature.relatedFilterEquals with
    | some filterColumn, some filterValue =>
      let matched := ⟨filterColumn, .eq, .str filterValue⟩
      return .ask (selectFrom document (.countWhere matched) conditions) fun compare rows =>
        .ok (if rows.length = 0 then none
          else some (.float ((Sql.countWhere compare matched rows : ℚ) / rows.length)))
    | _, _ => return .done none
  | .RELATED_RECENCY_DAYS =>
    match timestampColumn with
    | none => .error assertionError
    | some timestampColumn =>
      .ok (.ask (selectFrom document (.maximum timestampColumn) conditions) fun compare rows =>
        recencyDays std (Sql.maximum compare timestampColumn rows) predictionTime)
  | .RELATED_LATEST_VALUE => do
    match ← assertedColumn document feature.relatedValueField with
    | none => return .done none
    | some valueColumn =>
      return .ask (selectFrom document (.columns [valueColumn]) conditions
        (mostRecentFirst timestampColumn) (some relatedRowLimit)) fun _ rows =>
        .ok (rows.head?.bind (· valueColumn))
  | kind => .error ⟨.ValueError, "Unsupported feature kind: " ++ kind.value⟩

def relatedFeaturePlan (std : Stdlib) (feature : FeatureSpec) (document : MappingDocument)
    (joinValue : Value) (predictionTime : DateTime) (connection : CustomerDatabaseConnection) :
    Except PyError (Plan (Option Value)) := do
  checkAllowlisted document connection
  match ← assertedColumn document feature.relatedFkFieldOnTarget with
  | none => return .done none
  | some joinColumn =>
    let timestampColumn ← timestampColumn document feature.relatedTimestampField
    let times ← timeConditions feature timestampColumn predictionTime
    recipePlan std feature document (⟨joinColumn, .eq, joinValue⟩ :: times) timestampColumn
      predictionTime

/-! ## What a plan is -/

section

variable {std : Stdlib} {document : MappingDocument} {connection : CustomerDatabaseConnection}

theorem targetRowPlan_ok {businessReference : String} {neededFields : List String}
    {plan : Plan (Option FieldRow)}
    (h : targetRowPlan std document businessReference neededFields connection = .ok plan) :
    checkAllowlisted document connection = .ok () ∧
      ∃ identity columns, identityColumn document = .ok identity ∧
        addColumns document (Dict.ofList [identity]) (std.setOrder neededFields) = .ok columns ∧
        plan = .ask (targetSelect document columns identity.2 businessReference)
          fun _ rows => .ok (rows.head?.map (readRow columns)) := by
  obtain ⟨⟨⟩, hallowed, h⟩ := except_bind_ok.1 h
  obtain ⟨identity, hid, h⟩ := except_bind_ok.1 h
  obtain ⟨columns, hcol, h⟩ := except_bind_ok.1 h
  exact ⟨hallowed, identity, columns, hid, hcol, (except_pure_ok.1 h).symm⟩

theorem rowsInRangePlan_ok {timeField : String} {rangeStart rangeEnd : DateTime}
    {neededFields : List String} {plan : Plan (List FieldRow)}
    (h : rowsInRangePlan std document timeField rangeStart rangeEnd neededFields connection =
      .ok plan) :
    checkAllowlisted document connection = .ok () ∧
      ((resolveColumn document timeField = .ok none ∧ plan = .done []) ∨
      ∃ identity timeColumn columns datetimeFields, identityColumn document = .ok identity ∧
        resolveColumn document timeField = .ok (some timeColumn) ∧
        addColumns document (Dict.ofList [identity]) (std.setOrder (neededFields ++ [timeField])) =
          .ok columns ∧
        datetimeFieldNames document = .ok datetimeFields ∧
        plan = .ask (rangeSelect document columns timeColumn rangeStart rangeEnd)
          fun _ rows => coercedRecords std columns datetimeFields rows) := by
  obtain ⟨⟨⟩, hallowed, h⟩ := except_bind_ok.1 h
  refine ⟨hallowed, ?_⟩
  obtain ⟨identity, hid, h⟩ := except_bind_ok.1 h
  obtain ⟨time, htime, h⟩ := except_bind_ok.1 h
  cases time with
  | none => exact .inl ⟨htime, (except_pure_ok.1 h).symm⟩
  | some timeColumn =>
    obtain ⟨columns, hcol, h⟩ := except_bind_ok.1 h
    obtain ⟨datetimeFields, hd, h⟩ := except_bind_ok.1 h
    exact .inr ⟨identity, timeColumn, columns, datetimeFields, hid, htime, hcol, hd,
      (except_pure_ok.1 h).symm⟩

theorem relatedRecordsPlan_ok {joinField : String} {joinValue : Value}
    {timestampField : Option String} {predictionTime : Option DateTime} {limit : Nat}
    {plan : Plan (List FieldRow)}
    (h : relatedRecordsPlan std document joinField joinValue timestampField predictionTime limit
      connection = .ok plan) :
    checkAllowlisted document connection = .ok () ∧
      ((resolveColumn document joinField = .ok none ∧ plan = .done []) ∨
      ∃ joinColumn columns time datetimeFields,
        resolveColumn document joinField = .ok (some joinColumn) ∧
        addColumns document Keyed.Table.empty document.allFieldMappings.keys = .ok columns ∧
        timestampColumn document timestampField = .ok time ∧
        datetimeFieldNames document = .ok datetimeFields ∧
        plan = .ask (relatedSelect document columns joinColumn joinValue time predictionTime limit)
          fun _ rows => coercedRecords std columns datetimeFields rows) := by
  obtain ⟨⟨⟩, hallowed, h⟩ := except_bind_ok.1 h
  refine ⟨hallowed, ?_⟩
  obtain ⟨join, hjoin, h⟩ := except_bind_ok.1 h
  cases join with
  | none => exact .inl ⟨hjoin, (except_pure_ok.1 h).symm⟩
  | some joinColumn =>
    obtain ⟨columns, hcol, h⟩ := except_bind_ok.1 h
    obtain ⟨time, ht, h⟩ := except_bind_ok.1 h
    obtain ⟨datetimeFields, hd, h⟩ := except_bind_ok.1 h
    exact .inr ⟨joinColumn, columns, time, datetimeFields, hjoin, hcol, ht, hd,
      (except_pure_ok.1 h).symm⟩

theorem relatedFeaturePlan_ok {feature : FeatureSpec} {joinValue : Value}
    {predictionTime : DateTime} {plan : Plan (Option Value)}
    (h : relatedFeaturePlan std feature document joinValue predictionTime connection = .ok plan) :
    checkAllowlisted document connection = .ok () ∧
      ((assertedColumn document feature.relatedFkFieldOnTarget = .ok none ∧ plan = .done none) ∨
      ∃ joinColumn time times,
        assertedColumn document feature.relatedFkFieldOnTarget = .ok (some joinColumn) ∧
        timestampColumn document feature.relatedTimestampField = .ok time ∧
        timeConditions feature time predictionTime = .ok times ∧
        recipePlan std feature document (⟨joinColumn, .eq, joinValue⟩ :: times) time
          predictionTime = .ok plan) := by
  obtain ⟨⟨⟩, hallowed, h⟩ := except_bind_ok.1 h
  refine ⟨hallowed, ?_⟩
  obtain ⟨join, hjoin, h⟩ := except_bind_ok.1 h
  cases join with
  | none => exact .inl ⟨hjoin, (except_pure_ok.1 h).symm⟩
  | some joinColumn =>
    obtain ⟨time, ht, h⟩ := except_bind_ok.1 h
    obtain ⟨times, htimes, h⟩ := except_bind_ok.1 h
    exact .inr ⟨joinColumn, time, times, hjoin, ht, htimes, h⟩

/-- The plans of a recipe: one for each kind of feature, and nothing to ask for where the column it
reads is not mapped. -/
inductive RecipePlan (std : Stdlib) (document : MappingDocument) (feature : FeatureSpec)
    (conditions : List (Sql.Condition Value)) (time : Option String) (predictionTime : DateTime) :
    Plan (Option Value) → Prop where
  | count (filter : List (Sql.Condition Value)) (hkind : feature.kind = .RELATED_COUNT)
      (hfilter : filterCondition document feature = .ok filter) :
      RecipePlan std document feature conditions time predictionTime
        (.ask (selectFrom document .count (conditions ++ filter)) fun _ rows =>
          .ok (some (.int rows.length)))
  | ratio (column v : String) (hkind : feature.kind = RELATED_RATIO)
      (hcolumn : assertedColumn document feature.relatedFilterField = .ok (some column))
      (hvalue : feature.relatedFilterEquals = some v) :
      RecipePlan std document feature conditions time predictionTime
        (.ask (selectFrom document (.countWhere ⟨column, .eq, .str v⟩) conditions)
          fun compare rows => .ok (if rows.length = 0 then none
            else some (.float ((Sql.countWhere compare ⟨column, .eq, .str v⟩ rows : ℚ) /
              rows.length))))
  | unfiltered (hkind : feature.kind = RELATED_RATIO)
      (hcolumn : assertedColumn document feature.relatedFilterField = .ok none) :
      RecipePlan std document feature conditions time predictionTime (.done none)
  | recency (column : String) (hkind : feature.kind = .RELATED_RECENCY_DAYS)
      (htime : time = some column) :
      RecipePlan std document feature conditions time predictionTime
        (.ask (selectFrom document (.maximum column) conditions) fun compare rows =>
          recencyDays std (Sql.maximum compare column rows) predictionTime)
  | latest (column : String) (hkind : feature.kind = .RELATED_LATEST_VALUE)
      (hcolumn : assertedColumn document feature.relatedValueField = .ok (some column)) :
      RecipePlan std document feature conditions time predictionTime
        (.ask (selectFrom document (.columns [column]) conditions (mostRecentFirst time)
          (some relatedRowLimit)) fun _ rows => .ok (rows.head?.bind (· column)))
  | valueless (hkind : feature.kind = .RELATED_LATEST_VALUE)
      (hcolumn : assertedColumn document feature.relatedValueField = .ok none) :
      RecipePlan std document feature conditions time predictionTime (.done none)

theorem recipePlan_iff {feature : FeatureSpec} {conditions : List (Sql.Condition Value)}
    {time : Option String} {predictionTime : DateTime} {plan : Plan (Option Value)} :
    recipePlan std feature document conditions time predictionTime = .ok plan ↔
      RecipePlan std document feature conditions time predictionTime plan := by
  constructor
  · intro h
    unfold recipePlan at h
    cases hk : feature.kind with
    | RELATED_COUNT =>
      rw [hk] at h
      obtain ⟨filter, hfilter, h⟩ := except_bind_ok.1 h
      cases h
      exact .count filter hk hfilter
    | RELATED_RATIO =>
      rw [hk] at h
      obtain ⟨v, hv⟩ := Option.isSome_iff_exists.1 (feature.filter_field hk).2
      obtain ⟨column, hcolumn, h⟩ := except_bind_ok.1 h
      cases column with
      | none =>
        cases h
        exact .unfiltered hk hcolumn
      | some column =>
        rw [hv] at h
        cases h
        exact .ratio column v hk hcolumn hv
    | RELATED_RECENCY_DAYS =>
      rw [hk] at h
      cases htime : time with
      | none => rw [htime] at h; cases h
      | some column =>
        rw [htime] at h
        cases h
        exact .recency column hk rfl
    | RELATED_LATEST_VALUE =>
      rw [hk] at h
      obtain ⟨column, hcolumn, h⟩ := except_bind_ok.1 h
      cases column with
      | none =>
        cases h
        exact .valueless hk hcolumn
      | some column =>
        cases h
        exact .latest column hk hcolumn
    | DIRECT_FIELD => rw [hk] at h; cases h
    | DERIVED_FROM_TARGET => rw [hk] at h; cases h
  · intro h
    unfold recipePlan
    cases h with
    | count filter hkind hfilter => simp only [hkind, hfilter, except_ok_bind]; rfl
    | ratio column v hkind hcolumn hvalue =>
      simp only [hkind, hcolumn, hvalue, except_ok_bind]
      rfl
    | unfiltered hkind hcolumn => simp only [hkind, hcolumn, except_ok_bind]; rfl
    | recency column hkind htime => simp only [hkind, htime]
    | latest column hkind hcolumn => simp only [hkind, hcolumn, except_ok_bind]; rfl
    | valueless hkind hcolumn => simp only [hkind, hcolumn, except_ok_bind]; rfl

end

/-! ## The builders perform their plans -/

section

variable {α β : Type} {env : Environment} {engine : Engine}

theorem lift_bind (r : Except PyError β) (f : β → Extraction α) (g : β → Except PyError (Plan α))
    (h : ∀ b, r = .ok b → f b = perform env engine (g b)) :
    (Process.lift r >>= f) = perform env engine (r >>= g) := by
  cases r with
  | error e => rfl
  | ok b => exact h b rfl

theorem fetchTargetRow_perform (document : MappingDocument) (businessReference : String)
    (neededFields : List String) (connection : CustomerDatabaseConnection) :
    fetchTargetRow env engine document businessReference neededFields connection =
      perform env engine
        (targetRowPlan env.std document businessReference neededFields connection) := by
  refine lift_bind _ _ _ fun _ _ => lift_bind _ _ _ fun p _ => lift_bind _ _ _ fun columns _ => rfl

theorem fetchRowsInRange_perform (document : MappingDocument) (timeField : String)
    (rangeStart rangeEnd : DateTime) (neededFields : List String)
    (connection : CustomerDatabaseConnection) :
    fetchRowsInRange env engine document timeField rangeStart rangeEnd neededFields connection =
      perform env engine
        (rowsInRangePlan env.std document timeField rangeStart rangeEnd neededFields
          connection) := by
  refine lift_bind _ _ _ fun _ _ => lift_bind _ _ _ fun p _ => lift_bind _ _ _ fun column _ => ?_
  cases column with
  | none => rfl
  | some timeColumn => exact lift_bind _ _ _ fun columns _ => lift_bind _ _ _ fun fields _ => rfl

theorem fetchRelatedRecords_perform (document : MappingDocument) (joinField : String)
    (joinValue : Value) (timestampField : Option String) (predictionTime : Option DateTime)
    (limit : Nat) (connection : CustomerDatabaseConnection) :
    fetchRelatedRecords env engine document joinField joinValue timestampField predictionTime limit
        connection =
      perform env engine
        (relatedRecordsPlan env.std document joinField joinValue timestampField predictionTime
          limit connection) := by
  refine lift_bind _ _ _ fun _ _ => lift_bind _ _ _ fun column _ => ?_
  cases column with
  | none => rfl
  | some joinColumn =>
    refine lift_bind _ _ _ fun columns _ => lift_bind _ _ _ fun timestampColumn _ => ?_
    exact lift_bind _ _ _ fun fields _ => rfl

theorem compileAndRunRelatedFeature_perform (feature : FeatureSpec) (document : MappingDocument)
    (joinValue : Value) (predictionTime : DateTime) (connection : CustomerDatabaseConnection) :
    compileAndRunRelatedFeature env engine feature document joinValue predictionTime connection =
      perform env engine
        (relatedFeaturePlan env.std feature document joinValue predictionTime connection) := by
  refine lift_bind _ _ _ fun _ _ => lift_bind _ _ _ fun column _ => ?_
  cases column with
  | none => rfl
  | some joinColumn =>
    refine lift_bind _ _ _ fun timestampColumn _ => lift_bind _ _ _ fun times _ => ?_
    unfold recipePlan
    cases feature.kind with
    | RELATED_COUNT => exact lift_bind _ _ _ fun filter _ => rfl
    | RELATED_RATIO =>
      refine lift_bind _ _ _ fun filterColumn _ => ?_
      cases filterColumn <;> cases feature.relatedFilterEquals <;> rfl
    | RELATED_RECENCY_DAYS => cases timestampColumn <;> rfl
    | RELATED_LATEST_VALUE =>
      refine lift_bind _ _ _ fun valueColumn _ => ?_
      cases valueColumn <;> rfl
    | DIRECT_FIELD => rfl
    | DERIVED_FROM_TARGET => rfl

/-- The statements of a plan. -/
def sent (engine : Engine) : Except PyError (Plan α) → List (Engine × Sql.Select Value)
  | .ok plan => plan.select?.toList.map fun select => (engine, select)
  | .error _ => []

theorem mem_sent {r : Except PyError (Plan α)} {p : Engine × Sql.Select Value} :
    p ∈ sent engine r ↔
      ∃ plan select, r = .ok plan ∧ plan.select? = some select ∧ p = (engine, select) := by
  cases r with
  | error e => simp [sent]
  | ok plan => simp [sent, eq_comm]

theorem perform_result (plan : Except PyError (Plan α)) (s : ExtractionState) :
    (perform env engine plan s).1 = plan >>= Plan.result (env.world engine) := by
  match plan with
  | .error e => rfl
  | .ok (.done a) => rfl
  | .ok (.ask select answer) =>
    show _ = (do answer (env.world engine).compare (← (env.world engine).run select))
    simp only [perform, execute, bind, Process.bind, Process.modify, Process.lift]
    cases (env.world engine).run select <;> rfl

theorem perform_state (plan : Except PyError (Plan α)) (s : ExtractionState) :
    (perform env engine plan s).2 =
      { s with statements := s.statements ++ sent engine plan } := by
  match plan with
  | .error e => simp [perform, sent, Process.raise]
  | .ok (.done a) => simp [perform, sent, Plan.select?, pure, Process.pure]
  | .ok (.ask select answer) =>
    simp only [perform, execute, bind, Process.bind, Process.modify, Process.lift, sent,
      Plan.select?, Option.toList_some, List.map_cons, List.map_nil]
    cases (env.world engine).run select <;> rfl

/-- A plan on an engine of the tenant gives its result on the engine's database. -/
theorem perform_computes {db : ControlPlane} {ctx : TenantContext} {pool : PoolRegistry}
    (h : Serves env db ctx pool engine) (plan : Except PyError (Plan α)) :
    Computes (OnRoutes env db ctx pool) (perform env engine plan)
      (plan >>= Plan.result (env.world engine)) := by
  match plan with
  | .error e => exact .raise e
  | .ok (.done a) => exact .pure a
  | .ok (.ask select answer) =>
    exact (execute_computes h select).bind fun rows _ => .lift _

end

end Extraction

end HermesRpt
