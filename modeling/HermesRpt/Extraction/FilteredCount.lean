import HermesRpt.Extraction.Cutoff
import HermesRpt.Extraction.Recipes

/-!
# HermesRpt.Extraction.FilteredCount

Counts with a filter. The filter is a condition on the column of its field, and there is none when
the field has no mapping; a ratio on the same field is missing then.

* `filteredCount`  : the rows in the window that are known to match, or missing.
* `CountsMatches`  : every count that a query gives is that one.
-/

namespace HermesRpt

namespace Extraction

open Effect Connectors Mappings Features
open FeatureKind ( RELATED_RATIO)

/-- The time is known and in the window of the feature. A feature that names no timestamp has no
window. -/
def timeInWindow (compare : Sql.Comparison Value) (feature : FeatureSpec)
    (predictionTime : DateTime) (time : ScalarValue) : Bool :=
  (given feature.relatedTimestampField).isNone || time.any fun v =>
    compare.lt v (.datetime predictionTime) && feature.historicalWindowDays.all fun days =>
      !compare.lt v (.datetime (predictionTime.minusDays days))

/-- The number of rows in the window that are known to match the filter; missing when the join field
or the filter field has no column. -/
def filteredCount (compare : Sql.Comparison Value) (document : MappingDocument)
    (feature : FeatureSpec) (joinValue : Value) (predictionTime : DateTime)
    (time : Sql.Row Value → ScalarValue) (rows : List (Sql.Row Value)) : Option Value := do
  let _ ← feature.relatedFkFieldOnTarget.bind (columnOf document)
  let filterColumn ← (given feature.relatedFilterField).bind (columnOf document)
  let filterValue ← feature.relatedFilterEquals
  return .int (rows.filter fun row =>
    knownEq compare joinValue (fieldValue document feature.relatedFkFieldOnTarget row) &&
      timeInWindow compare feature predictionTime (time row) &&
      knownEq compare (.str filterValue) (row filterColumn)).length

/-- The rows of the document's table. -/
def tableRows (database : CustomerDatabase) (document : MappingDocument) : List (Sql.Row Value) :=
  ((database.relation document.source.schemaName document.source.table).map (·.rows)).getD []

/-- Every count is the number of matching rows in the window. The time of a row is the value of the
timestamp field's column; of a field without a column the document does not say where it is, so it
is any. -/
def CountsMatches (std : Stdlib) (document : MappingDocument)
    (connection : CustomerDatabaseConnection) (feature : FeatureSpec) (joinValue : Value)
    (predictionTime : DateTime) : Prop :=
  ∀ time : Sql.Row Value → ScalarValue,
    (∀ column, (given feature.relatedTimestampField).bind (columnOf document) = some column →
      ∀ row, time row = row column) →
    ∀ (env : Environment) (engine : Engine) (s : ExtractionState) (raw : Option Value),
      env.std = std →
      (compileAndRunRelatedFeature env engine feature document joinValue predictionTime connection
        s).1 = .ok raw →
      raw = filteredCount (env.world engine).compare document feature joinValue predictionTime time
        (tableRows (env.world engine) document)

section

variable {std : Stdlib} {document : MappingDocument} {connection : CustomerDatabaseConnection}
  {feature : FeatureSpec} {joinValue : Value} {predictionTime : DateTime}
  {compare : Sql.Comparison Value}

/-- The comparisons of a count besides the join. -/
def countTimes (document : MappingDocument) (feature : FeatureSpec) (predictionTime : DateTime) :
    List (Sql.Condition Value) :=
  compareField document (given feature.relatedTimestampField) .lt (.datetime predictionTime) ++
    feature.historicalWindowDays.toList.flatMap fun days =>
      compareField document (given feature.relatedTimestampField) .ge
        (.datetime (predictionTime.minusDays days))

/-- A count is missing without a column of the join field, and else the number of selected rows. -/
theorem countPlan_ok (hk : feature.kind = .RELATED_COUNT) {plan : Plan (Option Value)}
    (h : relatedFeaturePlan std feature document joinValue predictionTime connection = .ok plan) :
    (feature.relatedFkFieldOnTarget.bind (columnOf document) = none ∧ plan = .done none) ∨
      ∃ joinColumn, feature.relatedFkFieldOnTarget.bind (columnOf document) = some joinColumn ∧
        plan = .ask (selectFrom document .count
          (⟨joinColumn, .eq, joinValue⟩ :: countTimes document feature predictionTime ++
            feature.relatedFilterEquals.toList.flatMap fun value =>
              compareField document (given feature.relatedFilterField) .eq (.str value)))
          fun _ rows => .ok (some (.int rows.length)) := by
  obtain ⟨-, ⟨hjoin, rfl⟩ | ⟨joinColumn, time, times, hjoin, ht, htimes, hrecipe⟩⟩ :=
    relatedFeaturePlan_ok h
  · refine .inl ⟨?_, rfl⟩
    cases hf : feature.relatedFkFieldOnTarget with
    | none => rfl
    | some f =>
      rw [hf] at hjoin
      exact (readable_of_ok hjoin).2
  · obtain ⟨f, hf, hcol⟩ := assertedColumn_some.1 hjoin
    obtain ⟨-, htime⟩ := timestampColumn_iff.1 ht
    rw [htime] at htimes
    obtain ⟨-, htimes⟩ := timeConditions_iff.1 htimes
    cases recipePlan_iff.1 hrecipe with
    | count filter hkind hfilter =>
      obtain ⟨-, rfl⟩ := filterCondition_iff.1 hfilter
      exact .inr ⟨joinColumn, by rw [hf]; exact hcol, by rw [htimes]; rfl⟩
    | ratio column v hkind | unfiltered hkind | recency column hkind | latest column hkind
    | valueless hkind => rw [hk] at hkind; cases hkind

/-- The conditions on a mapped time say that it is in the window. -/
theorem countTimes_holds
    (hm : ∀ f, given feature.relatedTimestampField = some f → Mapped document f)
    {time : Sql.Row Value → ScalarValue}
    (htime : ∀ column, (given feature.relatedTimestampField).bind (columnOf document) =
      some column → ∀ row, time row = row column) (row : Sql.Row Value) :
    (countTimes document feature predictionTime).all (·.holds compare row) =
      timeInWindow compare feature predictionTime (time row) := by
  cases hg : given feature.relatedTimestampField with
  | none => cases feature.historicalWindowDays <;> simp [countTimes, timeInWindow, hg, compareField]
  | some f =>
    obtain ⟨column, hcol⟩ := Option.isSome_iff_exists.1 (hm f hg)
    have hrow : time row = row column := htime column (by rw [hg]; exact hcol) row
    cases hv : row column <;> cases hd : feature.historicalWindowDays <;>
      simp [countTimes, timeInWindow, hg, hd, hrow, hv, compareField_some hcol,
        Sql.Condition.holds]

/-- With columns for the filter and the timestamp a count is the specified one. -/
theorem counts_match (hk : feature.kind = .RELATED_COUNT) {f v : String}
    (hf : given feature.relatedFilterField = some f) (hv : feature.relatedFilterEquals = some v)
    (hmapped : Mapped document f)
    (hm : ∀ f, given feature.relatedTimestampField = some f → Mapped document f) :
    CountsMatches std document connection feature joinValue predictionTime := by
  intro time htime env engine s raw hstd hrun
  rw [compileAndRunRelatedFeature_perform, perform_result, hstd] at hrun
  obtain ⟨plan, hplan, hrun⟩ := except_bind_ok.1 hrun
  rcases countPlan_ok hk hplan with ⟨hjoin, rfl⟩ | ⟨joinColumn, hjoin, rfl⟩
  · cases hrun
    simp [filteredCount, hjoin]
  · obtain ⟨selected, hselected, hraw⟩ := except_bind_ok.1 hrun
    obtain ⟨relation, hrelation, -, rfl⟩ := CustomerDatabase.run_ok.1 hselected
    cases hraw
    obtain ⟨column, hcol⟩ := Option.isSome_iff_exists.1 hmapped
    have hrows : tableRows (env.world engine) document = relation.rows := by
      have hthere : (env.world engine).relation document.source.schemaName document.source.table =
          some relation := hrelation
      simp [tableRows, hthere]
    have hjoined : ∀ row, fieldValue document feature.relatedFkFieldOnTarget row = row joinColumn :=
      fieldValue_of hjoin
    simp only [filteredCount, hjoin, hf, hv, Option.bind_some, hcol, hrows, pure, bind]
    congr 4
    refine List.filter_congr fun row _ => ?_
    simp only [selectFrom, List.all_append, List.all_cons, List.all_nil, holds_eq, hjoined,
      countTimes_holds hm htime, Option.toList_some, List.flatMap_cons, List.flatMap_nil,
      List.append_nil, compareField_some hcol, Bool.and_true]

/-! ## Without a column -/

/-- The count on a server with any rows. -/
theorem count_anyServer (std : Stdlib) (hk : feature.kind = .RELATED_COUNT)
    (hallowed : Allowlisted document connection)
    (hsends : (Query.relatedFeature feature joinValue predictionTime).Sends document) :
    ∃ select : Sql.Select Value,
      select.conditions = (Query.relatedFeature feature joinValue predictionTime).comparisons
        document ∧ select.limit = none ∧
      ∀ rows, (compileAndRunRelatedFeature (anyServer std document.source rows) Sample.engine feature
        document joinValue predictionTime connection Sample.start).1 =
          .ok (some (.int (select.rows ((anyServer std document.source rows).world
            Sample.engine).compare rows).length)) := by
  obtain ⟨select, answer, hask⟩ : ∃ select answer,
      (Query.relatedFeature feature joinValue predictionTime).plan std document connection =
        .ok (.ask select answer) := Query.asks_of_sends hallowed hsends
  obtain ⟨-, -, hasks⟩ := Query.asks hask rfl
  obtain ⟨plan, hplan, hmap⟩ := map_ok hask
  refine ⟨select, hasks.conditions, by rw [hasks.limit]; simp [Query.limit, hk], fun rows => ?_⟩
  rcases countPlan_ok hk hplan with ⟨-, rfl⟩ | ⟨joinColumn, -, rfl⟩
  · cases hmap
  · cases hmap
    rw [compileAndRunRelatedFeature_perform, perform_result]
    have hstd : (anyServer std document.source rows).std = std := rfl
    rw [hstd, hplan, except_ok_bind]
    show (do let rows ← ((anyServer std document.source rows).world Sample.engine).run _
             Except.ok (some (Value.int rows.length))) = _
    rw [CustomerDatabase.run_ok.2 ⟨{ rows }, if_pos rfl, rfl, rfl⟩]
    rfl

/-- Without a column of the filter a count is not missing. -/
theorem unfiltered_count (hk : feature.kind = .RELATED_COUNT) {f : String}
    (hf : given feature.relatedFilterField = some f) (hc : columnOf document f = none)
    (hallowed : Allowlisted document connection)
    (hsends : (Query.relatedFeature feature joinValue predictionTime).Sends document) :
    ¬CountsMatches std document connection feature joinValue predictionTime := by
  intro h
  obtain ⟨select, -, -, hrun⟩ := count_anyServer std hk hallowed hsends
  have hcount := h (fun row => ((given feature.relatedTimestampField).bind
      (columnOf document)).bind row) (fun column hcol row => by rw [hcol]; rfl) _ Sample.engine
    Sample.start _ rfl (hrun [])
  simp only [filteredCount, hf, Option.bind_some, hc] at hcount
  cases hj : feature.relatedFkFieldOnTarget.bind (columnOf document) <;> rw [hj] at hcount <;>
    cases hcount

/-- Without a column of the timestamp a row outside of the window is counted. -/
theorem unwindowed_count (hk : feature.kind = .RELATED_COUNT) {f : String}
    (hf : given feature.relatedTimestampField = some f) (hc : columnOf document f = none)
    (hallowed : Allowlisted document connection)
    (hsends : (Query.relatedFeature feature joinValue predictionTime).Sends document) :
    ¬CountsMatches std document connection feature joinValue predictionTime := by
  intro h
  obtain ⟨select, hconditions, hlimit, hrun⟩ := count_anyServer std hk hallowed hsends
  have hcut : (Query.relatedFeature feature joinValue predictionTime).cutoff =
      some (f, predictionTime) := by simp [Query.cutoff, hf]
  have hholds : ∀ c ∈ select.conditions,
      c.holds ((anyServer std document.source [anyRow]).world Sample.engine).compare anyRow =
        true := by
    intro c hmem
    have heq := comparisons_eq hcut hc c (hconditions ▸ hmem)
    simp [Sql.Condition.holds, anyRow, heq, anyServer]
  have hone := hrun [anyRow]
  rw [Sql.rows_singleton hholds (by rw [hlimit]; simp)] at hone
  have hcount := h (fun _ => none) (fun column hcol => by
      rw [hf, Option.bind_some, hc] at hcol; cases hcol) _ Sample.engine Sample.start _ rfl hone
  have hout : timeInWindow ((anyServer std document.source [anyRow]).world Sample.engine).compare
      feature predictionTime none = false := by simp [timeInWindow, hf]
  have hnone : ∀ rows, filteredCount ((anyServer std document.source [anyRow]).world
      Sample.engine).compare document feature joinValue predictionTime (fun _ => none) rows ≠
        some (.int 1) := by
    intro rows
    simp only [filteredCount, hout, Bool.and_false, Bool.false_and, List.filter_false]
    cases feature.relatedFkFieldOnTarget.bind (columnOf document) <;>
      cases (given feature.relatedFilterField).bind (columnOf document) <;>
      cases feature.relatedFilterEquals <;> simp
  exact hnone _ hcount.symm

end

/-- A count with a filter is the number of matching rows in the window exactly when the filter and
the timestamp have columns, or no statement is sent. -/
theorem filtered_count_iff (std : Stdlib) (document : MappingDocument)
    (connection : CustomerDatabaseConnection) {feature : FeatureSpec}
    (hk : feature.kind = .RELATED_COUNT) {f v : String}
    (hf : given feature.relatedFilterField = some f) (hv : feature.relatedFilterEquals = some v)
    (joinValue : Value) (predictionTime : DateTime) :
    CountsMatches std document connection feature joinValue predictionTime ↔
      (Mapped document f ∧
          ∀ g, given feature.relatedTimestampField = some g → Mapped document g) ∨
        ¬Allowlisted document connection ∨
        ¬(Query.relatedFeature feature joinValue predictionTime).Sends document := by
  constructor
  · intro h
    by_contra hno
    simp only [not_or, not_not] at hno
    obtain ⟨hcolumns, hallowed, hsends⟩ := hno
    have hmapped : Mapped document f := by
      by_contra hm
      exact unfiltered_count hk hf (by simpa [Mapped] using hm) hallowed hsends h
    refine hcolumns ⟨hmapped, fun g hg => ?_⟩
    by_contra hm
    exact unwindowed_count hk hg (by simpa [Mapped] using hm) hallowed hsends h
  · rintro (⟨hmapped, hm⟩ | hno)
    · exact counts_match hk hf hv hmapped hm
    · intro time htime env engine s raw hstd hrun
      rw [compileAndRunRelatedFeature_perform, perform_result, hstd] at hrun
      obtain ⟨plan, hplan, hrun⟩ := except_bind_ok.1 hrun
      rcases countPlan_ok hk hplan with ⟨hjoin, rfl⟩ | ⟨joinColumn, -, rfl⟩
      · cases hrun
        simp [filteredCount, hjoin]
      · obtain ⟨hallowed, hsends, -⟩ := relatedFeature_asks hplan rfl
        rcases hno with hno | hno
        · exact absurd hallowed hno
        · exact absurd hsends hno

namespace Sample

def workOrderCount : FeatureSpec := Features.Sample.workOrderCount

/-- An event in the window with another work order. -/
def otherOrder : Sql.Row Value := fun column =>
  if column = "vehicle_no" then some (.str "v1")
  else if column = "started" then some (.datetime ⟨500, 0⟩)
  else if column = "work_order" then some (.str "w2")
  else none

end Sample

theorem filtered_count_iff_sample :
    CountsMatches HermesRpt.Sample.std Sample.events HermesRpt.Sample.connection
        Sample.workOrderCount (.str "v1") ⟨1000, 0⟩ ↔
      (Mapped Sample.events "work_order_id" ∧
          ∀ g, given Sample.workOrderCount.relatedTimestampField = some g →
            Mapped Sample.events g) ∨
        ¬Allowlisted Sample.events HermesRpt.Sample.connection ∨
        ¬(Query.relatedFeature Sample.workOrderCount (.str "v1") ⟨1000, 0⟩).Sends Sample.events :=
  filtered_count_iff _ _ _ rfl (f := "work_order_id") (v := "w1") rfl rfl _ _

/-- A validated document without the filter field: an event of another work order is counted. -/
theorem other_order_counted :
    validateMappingDocument HermesRpt.Sample.std Sample.events Ontology.V1.maintenanceEvent
        (some ["event_no", "vehicle_no", "kind", "started", "work_order"]) none none = .ok () ∧
      columnOf Sample.events "work_order_id" = none ∧
      (compileAndRunRelatedFeature
        (Sample.serving (Sample.oneTable "vehicles" [Sample.otherOrder])) Sample.engine
        Sample.workOrderCount Sample.events (.str "v1") ⟨1000, 0⟩ HermesRpt.Sample.connection
        Sample.start).1 = .ok (some (.int 1)) ∧
      filteredCount Sample.compare Sample.events Sample.workOrderCount (.str "v1") ⟨1000, 0⟩
        (fun row => row "started") [Sample.otherOrder] = none := by
  refine ⟨by decide +kernel, by decide +kernel, by decide +kernel, by decide +kernel⟩

end Extraction

end HermesRpt
