import HermesRpt.Extraction.Queries
import HermesRpt.Extraction.Sample
import HermesRpt.Mappings.Validation

/-!
# HermesRpt.Extraction.Cutoff

The point-in-time cutoff of related queries. It is a condition on the column of the timestamp field,
and there is none when the field has no mapping.

* `DifferAfter`      : two databases that differ only in rows with a time at or after the instant.
* `CutoffRespected`  : the query gives the same result on both.
-/

namespace HermesRpt

namespace Extraction

open Effect Connectors Mappings Features
open Keyed (Dict)

/-- The timestamp field and the instant of a related query. -/
def Query.cutoff : Query → Option (String × DateTime)
  | .relatedRecords _ _ timestampField predictionTime _ =>
    (given timestampField).bind fun f => predictionTime.map fun t => (f, t)
  | .relatedFeature feature _ predictionTime =>
    (given feature.relatedTimestampField).map fun f => (f, predictionTime)
  | .targetRow _ _ | .datasetRows _ _ _ _ => none

/-- The row's time is known and not before the instant. -/
def atOrAfter (compare : Sql.Comparison Value) (time : Sql.Row Value → ScalarValue) (t : DateTime)
    (row : Sql.Row Value) : Bool := (time row).any fun v => !compare.lt v (.datetime t)

structure DifferAfter (document : MappingDocument) (time : Sql.Row Value → ScalarValue)
    (t : DateTime) (database₁ database₂ : CustomerDatabase) : Prop where
  compare : database₁.compare = database₂.compare
  others : ∀ schemaName table,
    (schemaName, table) ≠ (document.source.schemaName, document.source.table) →
    database₁.relation schemaName table = database₂.relation schemaName table
  rows : Option.Rel
    (fun relation₁ relation₂ => relation₁.refuses = relation₂.refuses ∧
      (relation₁.rows.filter fun row => !atOrAfter database₁.compare time t row) =
        relation₂.rows.filter fun row => !atOrAfter database₁.compare time t row)
    (database₁.relation document.source.schemaName document.source.table)
    (database₂.relation document.source.schemaName document.source.table)

/-- The query gives the same result on two databases that differ only in rows at or after the
instant. The time of a row is the value of the timestamp field's column; of a field without a
column the document does not say where the time of a row is, so it is any. -/
def CutoffRespected (std : Stdlib) (document : MappingDocument)
    (connection : CustomerDatabaseConnection) (query : Query) (timestampField : String)
    (t : DateTime) : Prop :=
  ∀ time : Sql.Row Value → ScalarValue,
    (∀ column, columnOf document timestampField = some column → ∀ row, time row = row column) →
    ∀ (env₁ env₂ : Environment) (engine : Engine) (s : ExtractionState),
      env₁.std = std → env₂.std = std →
      DifferAfter document time t (env₁.world engine) (env₂.world engine) →
      (query.run env₁ engine document connection s).1 =
        (query.run env₂ engine document connection s).1

section

variable {std : Stdlib} {document : MappingDocument} {connection : CustomerDatabaseConnection}
  {query : Query} {timestampField : String} {t : DateTime}

/-- A mapped timestamp is among the comparisons. -/
theorem mem_comparisons (hq : query.cutoff = some (timestampField, t)) {column : String}
    (hc : columnOf document timestampField = some column) :
    ⟨column, .lt, .datetime t⟩ ∈ query.comparisons document := by
  cases query with
  | targetRow _ _ => cases hq
  | datasetRows _ _ _ _ => cases hq
  | relatedRecords joinField joinValue field time limit =>
    cases time with
    | none => simp [Query.cutoff] at hq
    | some t' =>
      simp only [Query.cutoff, Option.map_some, Option.bind_eq_some_iff, Option.some.injEq,
        Prod.mk.injEq] at hq
      obtain ⟨f, hf, rfl, rfl⟩ := hq
      simp [Query.comparisons, hf, compareField_some hc]
  | relatedFeature feature joinValue t' =>
    simp only [Query.cutoff, Option.map_eq_some_iff, Prod.mk.injEq] at hq
    obtain ⟨f, hf, rfl, rfl⟩ := hq
    simp [Query.comparisons, hf, compareField_some hc]

/-- Without a column of the timestamp only equalities are compared. -/
theorem comparisons_eq (hq : query.cutoff = some (timestampField, t))
    (hc : columnOf document timestampField = none) :
    ∀ c ∈ query.comparisons document, c.operator = .eq := by
  have hcompare : ∀ (field : Option String) (v : Value), ∀ c ∈ compareField document field .eq v,
      c.operator = .eq := by
    intro field v c hc
    simp only [compareField, List.mem_map] at hc
    obtain ⟨_, -, rfl⟩ := hc
    rfl
  cases query with
  | targetRow _ _ => cases hq
  | datasetRows _ _ _ _ => cases hq
  | relatedRecords joinField joinValue field time limit =>
    cases time with
    | none => simp [Query.cutoff] at hq
    | some t' =>
      simp only [Query.cutoff, Option.map_some, Option.bind_eq_some_iff, Option.some.injEq,
        Prod.mk.injEq] at hq
      obtain ⟨f, hf, rfl, rfl⟩ := hq
      intro c hmem
      simp only [Query.comparisons, hf, compareField_none hc,
        Option.toList_some, List.flatMap_cons, List.flatMap_nil, List.append_nil] at hmem
      exact hcompare _ _ c hmem
  | relatedFeature feature joinValue t' =>
    simp only [Query.cutoff, Option.map_eq_some_iff, Prod.mk.injEq] at hq
    obtain ⟨f, hf, rfl, rfl⟩ := hq
    intro c hmem
    simp only [Query.comparisons, hf, compareField_none hc,
      List.mem_append, List.mem_flatMap, List.not_mem_nil, and_false, exists_false, or_false] at hmem
    rcases hmem with hmem | hmem
    · exact hcompare _ _ c hmem
    · split at hmem
      · obtain ⟨v, -, hmem⟩ := List.mem_flatMap.1 hmem
        exact hcompare _ _ c hmem
      · cases hmem

/-- One statement under the cutoff gives the same on both databases. -/
theorem run_eq_of_cutoff {select : Sql.Select Value} {column : String}
    (hselect : query.Asks document select)
    (hcut : ⟨column, .lt, .datetime t⟩ ∈ query.comparisons document)
    {time : Sql.Row Value → ScalarValue} (htime : ∀ row, time row = row column)
    {database₁ database₂ : CustomerDatabase}
    (h : DifferAfter document time t database₁ database₂) :
    database₁.run select = database₂.run select := by
  have hkeep : ∀ row, (∀ c ∈ select.conditions, c.holds database₁.compare row = true) →
      (!atOrAfter database₁.compare time t row) = true := by
    intro row hrow
    have hbefore := hrow _ (hselect.conditions ▸ hcut)
    simp only [Sql.Condition.holds] at hbefore
    simp only [atOrAfter, htime]
    cases hv : row column with
    | none => rfl
    | some v => rw [hv] at hbefore; simpa using hbefore
  refine CustomerDatabase.run_congr ?_
  rw [hselect.schemaName, hselect.table, ← h.compare]
  exact Sql.optionRel_mono (fun _ _ hagree => ⟨hagree.1, Sql.rows_congr hkeep hagree.2⟩) h.rows

/-- A statement that takes no row shows only a refusal, which is the same on both. -/
theorem run_eq_of_limit {select : Sql.Select Value} (hselect : query.Asks document select)
    (hlimit : query.limit = some 0) {time : Sql.Row Value → ScalarValue}
    {database₁ database₂ : CustomerDatabase}
    (h : DifferAfter document time t database₁ database₂) :
    database₁.run select = database₂.run select := by
  have hempty : ∀ compare l, select.rows compare l = [] := by
    intro compare l
    rw [Sql.Select.rows, hselect.limit, hlimit]
    rfl
  refine CustomerDatabase.run_congr ?_
  rw [hselect.schemaName, hselect.table]
  refine Sql.optionRel_mono (fun _ _ hagree => ⟨hagree.1, ?_⟩) h.rows
  rw [hempty, hempty]

/-- A query whose timestamp has a column, or which sends nothing, respects the cutoff. -/
theorem cutoff_respected (hq : query.cutoff = some (timestampField, t))
    (h : Mapped document timestampField ∨ ¬Allowlisted document connection ∨
      ¬query.Sends document ∨ query.limit = some 0) :
    CutoffRespected std document connection query timestampField t := by
  intro time htime env₁ env₂ engine s hstd₁ hstd₂ hdiffer
  rw [Query.result, Query.result, hstd₁, hstd₂]
  cases hplan : query.plan std document connection with
  | error e => rfl
  | ok plan =>
    cases plan with
    | done a => rfl
    | ask select answer =>
      obtain ⟨hallowed, hsends, hasks⟩ := Query.asks hplan rfl
      have hrun : (env₁.world engine).run select = (env₂.world engine).run select := by
        rcases h with hmapped | hno | hno | hlimit
        · obtain ⟨column, hc⟩ := Option.isSome_iff_exists.1 hmapped
          exact run_eq_of_cutoff hasks (mem_comparisons hq hc) (htime column hc) hdiffer
        · exact absurd hallowed hno
        · exact absurd hsends hno
        · exact run_eq_of_limit hasks hlimit hdiffer
      show (do answer (env₁.world engine).compare (← (env₁.world engine).run select)) =
        (do answer (env₂.world engine).compare (← (env₂.world engine).run select))
      rw [hrun, hdiffer.compare]

/-! ## Without a column of the timestamp -/

/-- A server with the document's table that takes any two values for equal, and none for less. -/
def anyServer (std : Stdlib) (source : SourceTable) (rows : List (Sql.Row Value)) :
    Environment where
  std
  secrets _ := none
  world _ := {
    compare := { eq := fun _ _ => true, lt := fun _ _ => false }
    relation := fun schemaName table =>
      if (schemaName, table) = (source.schemaName, source.table) then some { rows } else none }
  now := ⟨0, 0⟩
  newId := 0

def anyRow : Sql.Row Value := fun _ => some (.int 0)

/-- The result of a related query shows whether there is a row. -/
theorem answer_shows (hq : query.cutoff = some (timestampField, t))
    (hc : columnOf document timestampField = none) {select : Sql.Select Value}
    {answer : Sql.Comparison Value → List (Sql.Row Value) → Except PyError Answer}
    (hplan : query.plan std document connection = .ok (.ask select answer))
    (compare : Sql.Comparison Value) : answer compare [] ≠ answer compare [anyRow] := by
  cases query with
  | targetRow _ _ => cases hq
  | datasetRows _ _ _ _ => cases hq
  | relatedRecords joinField joinValue field time limit =>
    obtain ⟨p, hp, he⟩ := map_ok hplan
    obtain ⟨-, ⟨-, rfl⟩ | ⟨join, columns, ts, dates, -, -, -, -, rfl⟩⟩ := relatedRecordsPlan_ok hp
    · cases he
    cases he
    simp only [coercedRecords, List.mapM_nil, List.mapM_cons, pure, Except.pure, bind, Except.bind,
      Except.map]
    cases coerceRowDatetimes std (readRow columns anyRow) dates <;> simp
  | relatedFeature feature joinValue t' =>
    simp only [Query.cutoff, Option.map_eq_some_iff, Prod.mk.injEq] at hq
    obtain ⟨f, hf, rfl, rfl⟩ := hq
    obtain ⟨p, hp, he⟩ := map_ok hplan
    obtain ⟨-, ⟨-, rfl⟩ | ⟨join, ts, times, -, hts, -, hrecipe⟩⟩ := relatedFeaturePlan_ok hp
    · cases he
    have hts : ts = none := by rw [(timestampColumn_iff.1 hts).2, hf, Option.bind_some, hc]
    subst hts
    cases recipePlan_iff.1 hrecipe with
    | count =>
      cases he
      simp [Except.map]
    | ratio =>
      cases he
      simp [Except.map]
    | recency column hkind htime => cases htime
    | latest =>
      cases he
      simp [Except.map, anyRow]
    | unfiltered => cases he
    | valueless => cases he

/-- Without the cutoff, a row after the instant shows in the result. -/
theorem cutoff_dropped (hq : query.cutoff = some (timestampField, t))
    (hc : columnOf document timestampField = none) (hallowed : Allowlisted document connection)
    (hsends : query.Sends document) (hlimit : query.limit ≠ some 0) :
    ¬CutoffRespected std document connection query timestampField t := by
  intro h
  obtain ⟨select, answer, hplan⟩ :
      ∃ select answer, query.plan std document connection = .ok (.ask select answer) :=
    Query.asks_of_sends hallowed hsends
  obtain ⟨-, -, hasks⟩ := Query.asks hplan rfl
  have hdiffer : DifferAfter document (fun _ => some (.datetime t)) t
      ((anyServer std document.source []).world Sample.engine)
      ((anyServer std document.source [anyRow]).world Sample.engine) := by
    refine ⟨rfl, fun schemaName table hne => ?_, ?_⟩
    · simp only [anyServer, if_neg hne]
    · simp only [anyServer, if_true]
      exact .some ⟨rfl, rfl⟩
  have hrun : ∀ rows, select.rows ((anyServer std document.source rows).world
      Sample.engine).compare rows = rows →
      ((anyServer std document.source rows).world Sample.engine).run select = .ok rows := by
    intro rows hrows
    refine CustomerDatabase.run_ok.2 ⟨{ rows }, ?_, rfl, hrows.symm⟩
    rw [hasks.schemaName, hasks.table]
    exact if_pos rfl
  have hholds : ∀ c ∈ select.conditions,
      c.holds ((anyServer std document.source [anyRow]).world Sample.engine).compare anyRow =
        true := by
    intro c hmem
    have heq := comparisons_eq hq hc c (hasks.conditions ▸ hmem)
    simp [Sql.Condition.holds, anyRow, heq, anyServer]
  have hsame := h (fun _ => some (.datetime t)) (fun c hcol => by rw [hc] at hcol; cases hcol)
    (anyServer std document.source []) (anyServer std document.source [anyRow]) Sample.engine
    Sample.start rfl rfl hdiffer
  rw [Query.result, Query.result] at hsame
  simp only [show (anyServer std document.source []).std = std from rfl,
    show (anyServer std document.source [anyRow]).std = std from rfl, hplan, bind, Except.bind,
    Plan.result, hrun [] Sql.rows_nil,
    hrun [anyRow] (Sql.rows_singleton hholds (hasks.limit ▸ hlimit))] at hsame
  exact answer_shows hq hc hplan _ hsame

/-- The cutoff is respected exactly when the timestamp field has a column, or no row is asked
for. -/
theorem cutoff_respected_iff (std : Stdlib) (document : MappingDocument)
    (connection : CustomerDatabaseConnection) {query : Query} {timestampField : String}
    {t : DateTime} (hq : query.cutoff = some (timestampField, t)) :
    CutoffRespected std document connection query timestampField t ↔
      (Mapped document timestampField ∨ ¬Allowlisted document connection ∨
        ¬query.Sends document ∨ query.limit = some 0) := by
  refine ⟨fun h => ?_, cutoff_respected hq⟩
  by_contra hno
  simp only [not_or, not_not] at hno
  obtain ⟨hmapped, hallowed, hsends, hlimit⟩ := hno
  have hc : columnOf document timestampField = none := by
    simpa [Mapped] using hmapped
  exact cutoff_dropped hq hc hallowed hsends hlimit h

end

namespace Sample

open HermesRpt.Sample (std plain connection document isIdentifier_vehicle_no)

/-- Maintenance events without the optional `completed_at`. -/
def events : MappingDocument where
  entity := "MaintenanceEvent"
  source := document.source
  identity := ⟨[("maintenance_event_id", plain "event_no")], by decide⟩
  fields := ⟨[("vehicle_id", plain "vehicle_no" isIdentifier_vehicle_no), ("event_type", plain "kind"),
    ("started_at", plain "started")], by decide⟩

def completedCount : FeatureSpec := Features.Sample.completedCount

def eventQuery : Query := .relatedFeature completedCount (.str "v1") ⟨1000, 0⟩

/-- An event that is completed after the prediction time. -/
def laterEvent : Sql.Row Value := fun column =>
  if column = "vehicle_no" then some (.str "v1")
  else if column = "completed" then some (.datetime ⟨2000, 0⟩)
  else none

end Sample

theorem cutoff_respected_iff_sample :
    CutoffRespected HermesRpt.Sample.std Sample.events HermesRpt.Sample.connection Sample.eventQuery
        "completed_at" ⟨1000, 0⟩ ↔
      (Mapped Sample.events "completed_at" ∨
        ¬Allowlisted Sample.events HermesRpt.Sample.connection ∨
        ¬Sample.eventQuery.Sends Sample.events ∨ Sample.eventQuery.limit = some 0) :=
  cutoff_respected_iff _ _ _ rfl

/-- A validated document without the timestamp field: an event after the prediction time is
counted. -/
theorem later_event_counted :
    validateMappingDocument HermesRpt.Sample.std Sample.events Ontology.V1.maintenanceEvent
        (some ["event_no", "vehicle_no", "kind", "started", "completed"]) none none = .ok () ∧
      (compileAndRunRelatedFeature (Sample.serving (Sample.oneTable "vehicles" []))
        Sample.engine Sample.completedCount Sample.events (.str "v1") ⟨1000, 0⟩
        HermesRpt.Sample.connection Sample.start).1 = .ok (some (.int 0)) ∧
      (compileAndRunRelatedFeature
        (Sample.serving (Sample.oneTable "vehicles" [Sample.laterEvent])) Sample.engine
        Sample.completedCount Sample.events (.str "v1") ⟨1000, 0⟩ HermesRpt.Sample.connection
        Sample.start).1 = .ok (some (.int 1)) ∧
      DifferAfter Sample.events (fun row => row "completed") ⟨1000, 0⟩
        (Sample.oneTable "vehicles" []) (Sample.oneTable "vehicles" [Sample.laterEvent]) := by
  refine ⟨by decide +kernel, by decide +kernel, by decide +kernel, rfl, fun schemaName table h => ?_,
    .some ⟨rfl, rfl⟩⟩
  have hne : ¬(schemaName = "fleet" ∧ table = "vehicles") := fun ⟨hs, ht⟩ =>
    h (by rw [hs, ht]; rfl)
  simp only [Sample.oneTable, if_neg hne]

end Extraction

end HermesRpt
