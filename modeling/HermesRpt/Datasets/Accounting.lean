import HermesRpt.Extraction.OwnLabel

/-!
# HermesRpt.Datasets.Accounting

What becomes of the rows of a dataset build. The customer databases may change between the
enumeration and each extraction, so a row may be gone when it is extracted.

* `buildDuring`      : `build` while the databases change.
* `Enumerated`       : the records of the time range.
* `usableLabel`      : the label of a record that can be trusted.
* `Yields`           : what the extraction of a labelled record leaves in the dataset.
* `dataset_accounts` : every enumerated record is accounted for, in the rows and in the counts.
-/

namespace HermesRpt

namespace Datasets

open Effect Process Connectors Mappings Features Extraction
open Keyed (Dict)

/-- `build`, with the databases `later i` during the extraction of the labelled row `i`. -/
def buildDuring (env : Environment) (later : Nat → Engine → CustomerDatabase) (db : ControlPlane)
    (definition : DatasetDefinition) (contract : FeatureContract) (ctx : TenantContext) :
    Extraction BuiltDataset := do
  Process.lift (validateDefinitionMatchesTenant definition ctx)
  let target ← Process.lift (Features.resolveTarget db contract.targetEntity ctx)
  let (connection, snapshot) ← Process.lift (connectionAndSnapshotFor db target ctx)
  let engine ← engineFor env db connection.id ctx
  let identityField ← Process.lift (identityFieldName target.document)
  let rawRows ← fetchRowsInRange env engine target.document definition.label.timeField
    definition.timeRangeStart definition.timeRangeEnd definition.label.sourceFields connection
  let rowIssues ← Process.lift (rowIssues env rawRows identityField definition.label)
  let labels ← Process.lift (rawRows.mapM (labelOf definition.label))
  let labelableRows := (rawRows.zip labels).filterMap fun p => p.2.map fun label => (p.1, label)
  let datasetRows ← labelableRows.zipIdx.foldlM (fun built p =>
    buildRow { env with world := later p.2 } db contract ctx definition identityField built p.1) []
  let rowLabels := datasetRows.map (·.label)
  let issues := (rowIssues ++ [checkMissingLabels labels,
    checkClassImbalance env.std rowLabels]).filterMap id
  emitIssues ctx issues
  let splits := splitTemporally env.std datasetRows definition.splitStrategy
  let featureRows := datasetRows.map (·.features)
  let checksum := computeDatasetChecksum env.std featureRows rowLabels
  let featureStatistics ← Process.lift <|
    computeFeatureStatistics env.std featureRows (contract.features.map (·.name))
  emitMissing ctx featureStatistics
  match target.schemaMapping.activeVersionId with
  | none => Process.raise assertionError
  | some activeVersionId => return {
      splits
      manifest := {
        datasetId := env.newId, datasetKey := definition.datasetKey,
        tenantId := definition.tenantId,
        isSharedResearchDataset := definition.isSharedResearchDataset,
        lineage := {
          ontologyVersion := target.schemaMapping.ontologyVersion,
          featureContractVersion := contract.version, taskKey := contract.taskKey,
          mappingVersionIds := Dict.ofList [(contract.targetEntity, activeVersionId)],
          schemaSnapshotIds := Dict.ofList [(contract.targetEntity, snapshot.id)],
          builtAt := env.now, builtByPrincipalId := ctx.principalId },
        rowCounts := Dict.ofList [("train", splits.train.length),
          ("validation", splits.validation.length), ("test", splits.test.length)],
        checksum, qualityReport := { rowCount := datasetRows.length, issues }, featureStatistics,
        labelStatistics := computeLabelStatistics rowLabels } }

/-- The extraction of a row at its own prediction time. -/
abbrev RowExtraction := String → DateTime → Extraction FeatureBatch

/-- `buildRow`, with a given extraction. -/
def buildRowWith (std : Stdlib) (extraction : RowExtraction) (definition : DatasetDefinition)
    (identityField : String) (built : List DatasetRow) (labelled : FieldRow × Int) :
    Extraction (List DatasetRow) :=
  let (row, label) := labelled
  match row.get? identityField, row.value definition.label.timeField with
  | none, _ => Process.raise ⟨.KeyError, reprStr identityField⟩
  | some identity, some (.datetime predictionTime) => do
    let businessReference := strOf std identity
    let batch ← Process.orElse
      (do return some (← extraction businessReference predictionTime))
      (fun e => if e.cls = .TargetRowNotFoundError then pure none else Process.raise e)
    match batch with
    | none => return built
    | some batch => return built ++ [{ businessReference, predictionTime, features := batch.features,
                                       label }]
  | some _, _ => Process.raise assertionError

/-- `build`, with the extraction `extraction i` of the labelled row `i`. -/
def buildWith (env : Environment) (extraction : Nat → RowExtraction) (db : ControlPlane)
    (definition : DatasetDefinition) (contract : FeatureContract) (ctx : TenantContext) :
    Extraction BuiltDataset := do
  Process.lift (validateDefinitionMatchesTenant definition ctx)
  let target ← Process.lift (Features.resolveTarget db contract.targetEntity ctx)
  let (connection, snapshot) ← Process.lift (connectionAndSnapshotFor db target ctx)
  let engine ← engineFor env db connection.id ctx
  let identityField ← Process.lift (identityFieldName target.document)
  let rawRows ← fetchRowsInRange env engine target.document definition.label.timeField
    definition.timeRangeStart definition.timeRangeEnd definition.label.sourceFields connection
  let rowIssues ← Process.lift (rowIssues env rawRows identityField definition.label)
  let labels ← Process.lift (rawRows.mapM (labelOf definition.label))
  let labelableRows := (rawRows.zip labels).filterMap fun p => p.2.map fun label => (p.1, label)
  let datasetRows ← labelableRows.zipIdx.foldlM (fun built p =>
    buildRowWith env.std (extraction p.2) definition identityField built p.1) []
  let rowLabels := datasetRows.map (·.label)
  let issues := (rowIssues ++ [checkMissingLabels labels,
    checkClassImbalance env.std rowLabels]).filterMap id
  emitIssues ctx issues
  let splits := splitTemporally env.std datasetRows definition.splitStrategy
  let featureRows := datasetRows.map (·.features)
  let checksum := computeDatasetChecksum env.std featureRows rowLabels
  let featureStatistics ← Process.lift <|
    computeFeatureStatistics env.std featureRows (contract.features.map (·.name))
  emitMissing ctx featureStatistics
  match target.schemaMapping.activeVersionId with
  | none => Process.raise assertionError
  | some activeVersionId => return {
      splits
      manifest := {
        datasetId := env.newId, datasetKey := definition.datasetKey,
        tenantId := definition.tenantId,
        isSharedResearchDataset := definition.isSharedResearchDataset,
        lineage := {
          ontologyVersion := target.schemaMapping.ontologyVersion,
          featureContractVersion := contract.version, taskKey := contract.taskKey,
          mappingVersionIds := Dict.ofList [(contract.targetEntity, activeVersionId)],
          schemaSnapshotIds := Dict.ofList [(contract.targetEntity, snapshot.id)],
          builtAt := env.now, builtByPrincipalId := ctx.principalId },
        rowCounts := Dict.ofList [("train", splits.train.length),
          ("validation", splits.validation.length), ("test", splits.test.length)],
        checksum, qualityReport := { rowCount := datasetRows.length, issues }, featureStatistics,
        labelStatistics := computeLabelStatistics rowLabels } }

theorem buildDuring_eq (env : Environment) (later : Nat → Engine → CustomerDatabase)
    (db : ControlPlane) (definition : DatasetDefinition) (contract : FeatureContract)
    (ctx : TenantContext) :
    buildDuring env later db definition contract ctx =
      buildWith env (fun i => extract { env with world := later i } db contract ctx) db definition
        contract ctx := rfl

/-! ## Labels -/

/-- The arrival of a record, if it is there, is after the record's prediction time. -/
def ArrivesAfter (label : LabelDefinition) (record : FieldRow) : Prop :=
  ∀ predictionTime actualArrivalAt, record.value label.timeField = some (.datetime predictionTime) →
    record.value "actual_arrival_at" = some (.datetime actualArrivalAt) →
      predictionTime < actualArrivalAt

theorem isPointInTimeValid_iff {label : LabelDefinition} {record : FieldRow} :
    isPointInTimeValid record label = true ↔ ArrivesAfter label record := by
  unfold isPointInTimeValid ArrivesAfter
  split
  · rename_i t a ht ha
    rw [ht, ha, decide_eq_true_eq]
    constructor
    · rintro h t' a' ⟨⟩ ⟨⟩
      exact h
    · intro h
      exact h t a rfl rfl
  · rename_i hnot
    simp only [true_iff]
    intro t a ht ha
    exact (hnot t a ht ha).elim

instance (label : LabelDefinition) (record : FieldRow) : Decidable (ArrivesAfter label record) :=
  decidable_of_iff _ isPointInTimeValid_iff

/-- The label of a record, if it has one that can be trusted. -/
def usableLabel (label : LabelDefinition) (record : FieldRow) : Option Int :=
  match computeLabel label.functionName record label.kwargs with
  | .ok (some value) => if ArrivesAfter label record then some value else none
  | _ => none

/-- The records that have a usable label, with it. -/
def labelledRecords (label : LabelDefinition) (records : List FieldRow) : List (FieldRow × Int) :=
  records.filterMap fun record => (usableLabel label record).map fun value => (record, value)

section Labels

variable {label : LabelDefinition} {records : List FieldRow} {labels : List (Option Int)}

theorem labelOf_ok {record : FieldRow} {value : Option Int}
    (h : labelOf label record = .ok value) :
    (∃ computed, computeLabel label.functionName record label.kwargs = .ok computed) ∧
      usableLabel label record = value := by
  obtain ⟨computed, hcomputed, h⟩ := except_bind_ok.1 h
  refine ⟨⟨computed, hcomputed⟩, ?_⟩
  obtain rfl := except_pure_ok.1 h
  unfold usableLabel
  rw [hcomputed]
  cases computed with
  | none => simp
  | some computed =>
    by_cases hvalid : ArrivesAfter label record
    · simp [hvalid, isPointInTimeValid_iff.2 hvalid]
    · have hinvalid : isPointInTimeValid record label = false := by
        simpa using mt isPointInTimeValid_iff.1 hvalid
      simp [hvalid, hinvalid]

theorem labels_ok (h : records.mapM (labelOf label) = .ok labels) :
    labels = records.map (usableLabel label) ∧ ∀ record ∈ records, ∃ computed,
      computeLabel label.functionName record label.kwargs = .ok computed := by
  have hall := except_mapM_ok.1 h
  clear h
  induction hall with
  | nil => simp
  | cons hrow _ ih =>
    obtain ⟨hcomputed, husable⟩ := labelOf_ok hrow
    obtain ⟨rfl, htail⟩ := ih
    refine ⟨by rw [List.map_cons, husable], ?_⟩
    intro record hrecord
    rcases List.mem_cons.1 hrecord with rfl | hrecord
    · exact hcomputed
    · exact htail record hrecord

theorem labelable_eq (records : List FieldRow) :
    ((records.zip (records.map (usableLabel label))).filterMap fun p =>
      p.2.map fun value => (p.1, value)) = labelledRecords label records := by
  unfold labelledRecords
  induction records with
  | nil => rfl
  | cons record records ih =>
    rw [List.map_cons, List.zip_cons_cons, List.filterMap_cons, List.filterMap_cons, ih]

end Labels

/-! ## Issues -/

/-- The count of the report's issue of missing labels, 0 without one. -/
def missingLabels (report : DataQualityReport) : Nat :=
  ((report.issues.filter (·.check = "missing_labels")).map (·.count)).sum

section Issues

variable {std : Stdlib} {rows : List FieldRow} {check : String} {issue : QualityIssue}

theorem issueAbout_check {severity : QualitySeverity} {bad : List String} {message : String}
    (h : issueAbout check severity bad message = some issue) : issue.check = check := by
  unfold issueAbout at h
  split at h
  · cases h
  · cases h
    rfl

theorem checkDuplicateIds_check {idField : String}
    (h : checkDuplicateIds std rows idField check = .ok (some issue)) : issue.check = check := by
  obtain ⟨values, -, h⟩ := except_bind_ok.1 h
  exact issueAbout_check (except_pure_ok.1 h)

theorem checkUnrecognisedValues_check {idField field : String} {allowed : List String}
    (h : checkUnrecognisedValues std rows idField field allowed check = .ok (some issue)) :
    issue.check = check := by
  obtain ⟨values, -, h⟩ := except_bind_ok.1 h
  exact issueAbout_check (except_pure_ok.1 h)

/-- An issue about the records is not about their labels. -/
theorem rowIssues_check {env : Environment} {identityField : String} {label : LabelDefinition}
    {issues : List (Option QualityIssue)}
    (h : rowIssues env rows identityField label = .ok issues) (hissue : some issue ∈ issues) :
    issue.check ≠ "missing_labels" := by
  obtain ⟨duplicates, hduplicates, h⟩ := except_bind_ok.1 h
  have hstatuses : ∃ statuses, (∀ issue, statuses = some issue →
      issue.check = "unrecognised_statuses") ∧ issues = [
        duplicates,
        if "actual_arrival_at" ∈ label.sourceFields then
          checkInvalidDateOrdering env.std rows identityField label.timeField "actual_arrival_at"
            "invalid_dates"
        else none,
        if "planned_distance_km" ∈ label.sourceFields then
          checkNegativeNumeric env.std rows identityField "planned_distance_km"
            "negative_distances"
        else none,
        statuses,
        checkFutureTimestamps env.std rows identityField label.timeField env.now
          "future_timestamps"] := by
    by_cases hstatus : "status" ∈ label.sourceFields
    · rw [if_pos hstatus] at h
      obtain ⟨statuses, hcheck, h⟩ := except_bind_ok.1 h
      refine ⟨statuses, ?_, (except_pure_ok.1 h).symm⟩
      rintro issue rfl
      exact checkUnrecognisedValues_check hcheck
    · rw [if_neg hstatus] at h
      exact ⟨none, by simp, (except_pure_ok.1 h).symm⟩
  obtain ⟨statuses, hstatuses, rfl⟩ := hstatuses
  simp only [List.mem_cons, List.not_mem_nil, or_false] at hissue
  rcases hissue with rfl | hdates | hdistances | hstatus | hfuture
  · rw [checkDuplicateIds_check hduplicates]
    decide
  · split at hdates
    · rw [issueAbout_check hdates.symm]
      decide
    · cases hdates
  · split at hdistances
    · rw [issueAbout_check hdistances.symm]
      decide
    · cases hdistances
  · rw [hstatuses issue hstatus.symm]
    decide
  · rw [issueAbout_check hfuture.symm]
    decide

theorem checkClassImbalance_check {labels : List Int}
    (h : checkClassImbalance std labels = some issue) : issue.check = "class_imbalance" := by
  unfold checkClassImbalance at h
  split at h
  · cases h
  · dsimp only at h
    split at h
    · cases h
    · cases h
      rfl

theorem missingLabels_eq {others : List (Option QualityIssue)} {labels : List (Option Int)}
    {imbalance : Option QualityIssue} {rowCount : Nat}
    (hothers : ∀ issue, some issue ∈ others → issue.check ≠ "missing_labels")
    (himbalance : ∀ issue, imbalance = some issue → issue.check ≠ "missing_labels") :
    missingLabels
        ⟨rowCount, (others ++ [checkMissingLabels labels, imbalance]).filterMap id⟩ =
      labels.countP Option.isNone := by
  have hnone : (others.filterMap id).filter (·.check = "missing_labels") = [] := by
    rw [List.filter_eq_nil_iff]
    intro issue hissue
    simpa using hothers issue (by simpa using hissue)
  have hlast : (imbalance.toList).filter (·.check = "missing_labels") = [] := by
    rw [List.filter_eq_nil_iff]
    intro issue hissue
    simpa using himbalance issue (by simpa using hissue)
  have hissues : (others ++ [checkMissingLabels labels, imbalance]).filterMap id =
      others.filterMap id ++ (checkMissingLabels labels).toList ++ imbalance.toList := by
    rw [List.filterMap_append, List.append_assoc]
    congr 1
    cases checkMissingLabels labels <;> cases imbalance <;> rfl
  unfold missingLabels
  rw [hissues, List.filter_append, List.filter_append, hnone, hlast, List.append_nil,
    List.nil_append]
  unfold checkMissingLabels
  by_cases hzero : labels.countP Option.isNone = 0
  · simp [hzero]
  · simp [hzero]

end Issues

/-! ## Enumeration -/

/-- The time of a row is in `[start, end)`, as the server compares. -/
def inRange (compare : Sql.Comparison Value) (definition : DatasetDefinition) (timeColumn : String)
    (row : Sql.Row Value) : Bool :=
  (row timeColumn).any fun time =>
    !compare.lt time (.datetime definition.timeRangeStart) &&
      compare.lt time (.datetime definition.timeRangeEnd)

/-- The record has the row's values of some fields, and no other. -/
def RecordOf (std : Stdlib) (document : MappingDocument) (fieldNames : List String)
    (row : Sql.Row Value) (record : FieldRow) : Prop :=
  ∀ f, (f ∈ fieldNames → valueUsed std .datasetRow document f row = .ok (record.value f)) ∧
    (f ∉ fieldNames → record.value f = none)

/-- The records of the time range: the rows of the source table whose time is in it, ordered by
their time, up to the row limit. Without a column of the time field there are none. -/
def Enumerated (std : Stdlib) (database : CustomerDatabase) (document : MappingDocument)
    (definition : DatasetDefinition) (identityField : String) (records : List FieldRow) : Prop :=
  match columnOf document definition.label.timeField with
  | none => records = []
  | some timeColumn => ∃ relation,
    database.relation document.source.schemaName document.source.table = some relation ∧
      List.Forall₂ (RecordOf std document
          (identityField :: definition.label.timeField :: definition.label.sourceFields))
        ((Sql.sortRows database.compare (some { column := timeColumn })
          (relation.rows.filter (inRange database.compare definition timeColumn))).take
            datasetBuildRowLimit) records

theorem rangeSelect_rows (compare : Sql.Comparison Value) (definition : DatasetDefinition)
    (document : MappingDocument) (columns : Dict String String) (timeColumn : String)
    (relation : List (Sql.Row Value)) :
    (rangeSelect document columns timeColumn definition.timeRangeStart
        definition.timeRangeEnd).rows compare relation =
      (Sql.sortRows compare (some { column := timeColumn })
        (relation.filter (inRange compare definition timeColumn))).take datasetBuildRowLimit := by
  have hfilter : ∀ row : Sql.Row Value,
      (rangeSelect document columns timeColumn definition.timeRangeStart
        definition.timeRangeEnd).conditions.all (·.holds compare row) =
          inRange compare definition timeColumn row := by
    intro row
    simp only [rangeSelect, selectFrom, List.all_cons, List.all_nil, Bool.and_true,
      Sql.Condition.holds, inRange]
    cases row timeColumn <;> rfl
  unfold Sql.Select.rows
  rw [List.filter_congr fun row _ => hfilter row]
  rfl

theorem rowsInRange_enumerated {std : Stdlib} {database : CustomerDatabase}
    {document : MappingDocument} {definition : DatasetDefinition}
    {connection : CustomerDatabaseConnection} {identityField : String} {records : List FieldRow}
    (hidentity : identityFieldName document = .ok identityField)
    (h : (rowsInRangePlan std document definition.label.timeField definition.timeRangeStart
        definition.timeRangeEnd definition.label.sourceFields connection >>=
      Plan.result database) = .ok records) :
    Enumerated std database document definition identityField records := by
  obtain ⟨plan, hplan, hresult⟩ := except_bind_ok.1 h
  obtain ⟨-, ⟨htime, rfl⟩ | ⟨identity, timeColumn, columns, fields, hid, htime, hcol, hd, rfl⟩⟩ :=
    rowsInRangePlan_ok hplan
  · cases hresult
    unfold Enumerated
    rw [(readable_of_ok htime).2]
  · obtain ⟨rows, hrun, hrecords⟩ := except_bind_ok.1 hresult
    obtain ⟨relation, hrelation, -, rfl⟩ := CustomerDatabase.run_ok.1 hrun
    have hname : identity.1 = identityField := by
      rw [identityFieldName, hid] at hidentity
      exact except_pure_ok.1 hidentity
    obtain ⟨hresolved, hfields, hkept⟩ := addColumns_ok (resolved_identity hid) hcol
    unfold Enumerated
    rw [resolveColumn_mapped.1 htime]
    refine ⟨relation, hrelation, ?_⟩
    rw [rangeSelect_rows] at hrecords
    refine (except_mapM_ok.1 hrecords).imp fun row record hrecord f => ⟨fun hf => ?_, fun hf => ?_⟩
    · refine value_coerced (show Place.datasetRow.coerces = true from rfl) hd hrecord ?_
      rcases List.mem_cons.1 hf with rfl | hf
      · have hcolumn : columns.get? f = some identity.2 := by
          refine hkept f identity.2 ?_
          rw [Keyed.Dict.get?_ofList_singleton, if_pos hname.symm]
        rw [hcolumn, ← hname]
        exact (identityColumn_ok hid).2
      · exact hfields f ((std.mem_setOrder _ _).2 (by simpa [or_comm] using hf))
    · refine value_absent hrecord ?_
      cases hc : columns.get? f with
      | none => rfl
      | some c =>
        exfalso
        apply hf
        rcases addColumns_from hcol hc with hstart | ⟨hmem, -⟩
        · rw [Keyed.Dict.get?_ofList_singleton] at hstart
          split at hstart
          · rename_i heq
            simp [heq, hname]
          · cases hstart
        · have hmem := (std.mem_setOrder _ _).1 hmem
          simp only [List.mem_append, List.mem_singleton] at hmem
          simp only [List.mem_cons]
          tauto

/-! ## Extraction -/

section Rows

variable {env : Environment} {later : Nat → Engine → CustomerDatabase} {db : ControlPlane}
  {contract : FeatureContract} {ctx : TenantContext} {pool : PoolRegistry}
  {definition : DatasetDefinition} {identityField : String}

/-- What an extraction of the labelled record `i` gives, whatever the build has done before. -/
def extractionOf (env : Environment) (later : Nat → Engine → CustomerDatabase) (db : ControlPlane)
    (contract : FeatureContract) (ctx : TenantContext) (pool : PoolRegistry)
    (identityField : String) (record : FieldRow) (predictionTime : DateTime) (i : Nat) :
    Except PyError FeatureBatch :=
  (extract { env with world := later i } db contract ctx
    (strOf env.std (record.value identityField)) predictionTime { pool }).1

/-- The row that a labelled record leaves in the dataset: one with the features of its extraction
at its own time, none when the extraction does not find the target row. -/
inductive Yields (env : Environment) (later : Nat → Engine → CustomerDatabase) (db : ControlPlane)
    (contract : FeatureContract) (ctx : TenantContext) (pool : PoolRegistry)
    (definition : DatasetDefinition) (identityField : String) :
    (FieldRow × Int) × Nat → Option DatasetRow → Prop where
  | found {record : FieldRow} {label : Int} {i : Nat} {predictionTime : DateTime}
      {batch : FeatureBatch}
      (time : record.value definition.label.timeField = some (.datetime predictionTime))
      (extracted : extractionOf env later db contract ctx pool identityField record predictionTime
        i = .ok batch) :
      Yields env later db contract ctx pool definition identityField ((record, label), i)
        (some { businessReference := strOf env.std (record.value identityField), predictionTime,
                features := batch.features, label })
  | gone {record : FieldRow} {label : Int} {i : Nat} {predictionTime : DateTime} {e : PyError}
      (time : record.value definition.label.timeField = some (.datetime predictionTime))
      (raised : extractionOf env later db contract ctx pool identityField record predictionTime i =
        .error e)
      (notFound : e.cls = .TargetRowNotFoundError) :
      Yields env later db contract ctx pool definition identityField ((record, label), i) none

/-- The row that a labelled record leaves, when an extraction gives `result`. -/
inductive Leaves (std : Stdlib) (result : Nat → String → DateTime → Except PyError FeatureBatch)
    (definition : DatasetDefinition) (identityField : String) :
    (FieldRow × Int) × Nat → Option DatasetRow → Prop where
  | found {record : FieldRow} {label : Int} {i : Nat} {predictionTime : DateTime}
      {batch : FeatureBatch}
      (time : record.value definition.label.timeField = some (.datetime predictionTime))
      (extracted : result i (strOf std (record.value identityField)) predictionTime = .ok batch) :
      Leaves std result definition identityField ((record, label), i)
        (some { businessReference := strOf std (record.value identityField), predictionTime,
                features := batch.features, label })
  | gone {record : FieldRow} {label : Int} {i : Nat} {predictionTime : DateTime} {e : PyError}
      (time : record.value definition.label.timeField = some (.datetime predictionTime))
      (raised : result i (strOf std (record.value identityField)) predictionTime = .error e)
      (notFound : e.cls = .TargetRowNotFoundError) :
      Leaves std result definition identityField ((record, label), i) none

/-- The engines of a call do not depend on what the databases hold. -/
theorem onRoutes_world {world : Engine → CustomerDatabase} {s : ExtractionState} :
    OnRoutes { env with world } db ctx pool s ↔ OnRoutes env db ctx pool s :=
  ⟨fun h => ⟨⟨h.grown.kept, h.grown.new⟩, h.statements⟩,
    fun h => ⟨⟨h.grown.kept, h.grown.new⟩, h.statements⟩⟩

/-- An extraction during a build is one at its start. -/
theorem computes_later {world : Engine → CustomerDatabase} {x : Extraction FeatureBatch}
    {r : Except PyError FeatureBatch}
    (h : Computes (OnRoutes { env with world } db ctx pool) x r) :
    Computes (OnRoutes env db ctx pool) x (x { pool }).1 := by
  intro s hs
  obtain ⟨hkept, hresult⟩ := h s (onRoutes_world.2 hs)
  exact ⟨onRoutes_world.1 hkept, hresult.trans (h _ onRoutes_start).2.symm⟩

variable {std : Stdlib} {J : ExtractionState → Prop} {extraction : Nat → RowExtraction}
  {result : Nat → String → DateTime → Except PyError FeatureBatch}

/-- The pass of a record that has an identity and a time. -/
theorem buildRowWith_eq {rowExtraction : RowExtraction} {built : List DatasetRow}
    {record : FieldRow} {label : Int} {identity : ScalarValue} {predictionTime : DateTime}
    (hidentity : record.get? identityField = some identity)
    (htime : record.value definition.label.timeField = some (.datetime predictionTime)) :
    buildRowWith std rowExtraction definition identityField built (record, label) = (do
      let batch ← Process.orElse
        (do return some (← rowExtraction (strOf std identity) predictionTime))
        (fun e => if e.cls = .TargetRowNotFoundError then pure none else Process.raise e)
      match batch with
      | none => return built
      | some batch => return built ++ [{
          businessReference := strOf std identity, predictionTime,
          features := batch.features, label }]) := by
  unfold buildRowWith
  dsimp only
  generalize record.get? identityField = found at hidentity ⊢
  generalize record.value definition.label.timeField = time at htime ⊢
  subst hidentity htime
  rfl

/-- A record without an identity or a time stops the build. -/
theorem buildRowWith_ok {rowExtraction : RowExtraction} {built built' : List DatasetRow}
    {record : FieldRow} {label : Int} {s s' : ExtractionState}
    (h : buildRowWith std rowExtraction definition identityField built (record, label) s =
      (.ok built', s')) :
    ∃ identity predictionTime, record.get? identityField = some identity ∧
      record.value definition.label.timeField = some (.datetime predictionTime) := by
  have hraise : ∀ e, buildRowWith std rowExtraction definition identityField built
      (record, label) = Process.raise e → False := by
    intro e he
    rw [he] at h
    cases h
  cases hidentity : record.get? identityField with
  | none =>
    exact (hraise ⟨.KeyError, reprStr identityField⟩
      (by unfold buildRowWith; simp only [hidentity])).elim
  | some identity =>
    cases htime : record.value definition.label.timeField with
    | none =>
      exact (hraise assertionError (by unfold buildRowWith; simp only [hidentity, htime])).elim
    | some time =>
      cases time with
      | datetime predictionTime => exact ⟨identity, predictionTime, rfl, rfl⟩
      | _ =>
        exact (hraise assertionError (by unfold buildRowWith; simp only [hidentity, htime])).elim

theorem buildRowWith_leaves
    (hextraction : ∀ i reference time, Computes J (extraction i reference time)
      (result i reference time)) {built built' : List DatasetRow} {labelled : FieldRow × Int}
    {i : Nat} {s s' : ExtractionState} (hs : J s)
    (h : buildRowWith std (extraction i) definition identityField built labelled s =
      (.ok built', s')) :
    J s' ∧ ∃ kept, Leaves std result definition identityField (labelled, i) kept ∧
      built' = built ++ kept.toList := by
  obtain ⟨record, label⟩ := labelled
  obtain ⟨identity, predictionTime, hidentity, htime⟩ := buildRowWith_ok h
  rw [buildRowWith_eq hidentity htime] at h
  have hvalue : record.value identityField = identity := by rw [FieldRow.value, hidentity]; rfl
  obtain ⟨hkept, hresult⟩ := hextraction i (strOf std identity) predictionTime s hs
  obtain ⟨batch, s₁, hbatch, h⟩ := bind_eq_ok.1 h
  rcases orElse_eq_ok.1 hbatch with hfound | ⟨e, s₂, hraised, hhandled⟩
  · obtain ⟨found, s₃, hextract, hfound⟩ := bind_eq_ok.1 hfound
    obtain ⟨rfl, rfl⟩ := pure_eq_ok.1 hfound
    obtain ⟨rfl, rfl⟩ := pure_eq_ok.1 h
    rw [hextract] at hkept hresult
    refine ⟨hkept, some ⟨_, _, found.features, _⟩, .found htime ?_, ?_⟩
    · rw [hvalue]
      exact hresult.symm
    · rw [hvalue]
      rfl
  · rcases bind_eq_error.1 hraised with hextract | ⟨found, s₃, -, hpure⟩
    · rw [hextract] at hkept hresult
      split at hhandled
      · rename_i hclass
        obtain ⟨rfl, rfl⟩ := pure_eq_ok.1 hhandled
        obtain ⟨rfl, rfl⟩ := pure_eq_ok.1 h
        refine ⟨hkept, none, .gone htime ?_ hclass, by simp⟩
        rw [hvalue]
        exact hresult.symm
      · cases hhandled
    · cases hpure

/-- The loop over the labelled records: one row or none for each, in order. -/
theorem buildRowsWith_leave
    (hextraction : ∀ i reference time, Computes J (extraction i reference time)
      (result i reference time)) {l : List ((FieldRow × Int) × Nat)} {built rows : List DatasetRow}
    {s s' : ExtractionState} (hs : J s)
    (h : l.foldlM (fun built p => buildRowWith std (extraction p.2) definition identityField built
      p.1) built s = (.ok rows, s')) :
    J s' ∧ ∃ kept : List (Option DatasetRow),
      List.Forall₂ (Leaves std result definition identityField) l kept ∧
        rows = built ++ kept.reduceOption := by
  induction l generalizing built s with
  | nil =>
    obtain ⟨rfl, rfl⟩ := pure_eq_ok.1 h
    exact ⟨hs, [], .nil, (List.append_nil _).symm⟩
  | cons labelled l ih =>
    rw [List.foldlM_cons] at h
    obtain ⟨built', s₁, hrow, h⟩ := bind_eq_ok.1 h
    obtain ⟨hs₁, first, hfirst, rfl⟩ := buildRowWith_leaves hextraction hs hrow
    obtain ⟨hs', rest, hrest, rfl⟩ := ih hs₁ h
    refine ⟨hs', first :: rest, .cons hfirst hrest, ?_⟩
    rw [List.append_assoc]
    congr 1
    cases first <;> rfl

theorem yields_of_leaves {labelled : (FieldRow × Int) × Nat} {kept : Option DatasetRow}
    (h : Leaves env.std (fun i reference time =>
      (extract { env with world := later i } db contract ctx reference time { pool }).1) definition
        identityField labelled kept) :
    Yields env later db contract ctx pool definition identityField labelled kept := by
  cases h with
  | found time extracted => exact .found time extracted
  | gone time raised notFound => exact .gone time raised notFound

end Rows

/-! ## The build -/

/-- While nothing changes, it is `build`. -/
theorem buildDuring_unchanged (env : Environment) (db : ControlPlane)
    (definition : DatasetDefinition) (contract : FeatureContract) (ctx : TenantContext) :
    buildDuring env (fun _ => env.world) db definition contract ctx =
      build env db definition contract ctx := by
  have hloop : ∀ (identityField : String) (l : List (FieldRow × Int)) (n : Nat)
      (built : List DatasetRow),
      (l.zipIdx n).foldlM (fun built p =>
          buildRow env db contract ctx definition identityField built p.1) built =
        l.foldlM (buildRow env db contract ctx definition identityField) built := by
    intro identityField l
    induction l with
    | nil =>
      intro n built
      rfl
    | cons labelled l ih =>
      intro n built
      rw [List.zipIdx_cons, List.foldlM_cons, List.foldlM_cons]
      simp only [ih]
  unfold buildDuring build
  simp only [hloop] <;> rfl

/-- The counts of a dataset with these rows, built of these records. -/
structure Accounts (label : LabelDefinition) (records : List FieldRow) (rows : List DatasetRow)
    (dataset : BuiltDataset) : Prop where
  splits : dataset.splits.train ++ dataset.splits.validation ++ dataset.splits.test = rows
  train : dataset.manifest.rowCounts.get? "train" = some dataset.splits.train.length
  validation : dataset.manifest.rowCounts.get? "validation" = some dataset.splits.validation.length
  test : dataset.manifest.rowCounts.get? "test" = some dataset.splits.test.length
  rowCounts : dataset.manifest.rowCounts.values.sum = dataset.manifest.qualityReport.rowCount
  rowCount : dataset.manifest.qualityReport.rowCount = rows.length
  labels : dataset.manifest.labelStatistics.count = dataset.manifest.rowCounts.values.sum
  missing : missingLabels dataset.manifest.qualityReport =
    records.countP fun record => (usableLabel label record).isNone

/-- A successful build: its records and rows, and the dataset that is made of them. -/
theorem buildWith_ok {env : Environment} {extraction : Nat → RowExtraction}
    {result : Nat → String → DateTime → Except PyError FeatureBatch} {db : ControlPlane}
    {definition : DatasetDefinition} {contract : FeatureContract} {ctx : TenantContext}
    {pool : PoolRegistry} {dataset : BuiltDataset}
    (hextraction : ∀ i reference time, Computes (OnRoutes env db ctx pool)
      (extraction i reference time) (result i reference time))
    (h : (buildWith env extraction db definition contract ctx { pool }).1 = .ok dataset) :
    ∃ target p engine identityField records kept version,
      Features.resolveTarget db contract.targetEntity ctx = .ok target ∧
      connectionAndSnapshotFor db target ctx = .ok p ∧
      routeOf env db ctx pool p.1.id = .ok engine ∧
      identityFieldName target.document = .ok identityField ∧
      Enumerated env.std (env.world engine) target.document definition identityField records ∧
      (∀ record ∈ records, ∃ computed, computeLabel definition.label.functionName record
        definition.label.kwargs = .ok computed) ∧
      List.Forall₂ (Leaves env.std result definition identityField)
        (labelledRecords definition.label records).zipIdx kept ∧
      target.schemaMapping.activeVersionId = some version ∧
      dataset.manifest.lineage.mappingVersionIds = Dict.ofList [(contract.targetEntity, version)] ∧
      Accounts definition.label records kept.reduceOption dataset := by
  obtain ⟨s', h⟩ : ∃ s', buildWith env extraction db definition contract ctx { pool } =
      (.ok dataset, s') := ⟨_, Prod.ext h rfl⟩
  obtain ⟨⟨⟩, s₁, htenantRun, h₁⟩ := bind_eq_ok.1 h
  obtain ⟨-, rfl⟩ := lift_eq_ok.1 htenantRun
  obtain ⟨target, s₂, htargetRun, h₂⟩ := bind_eq_ok.1 h₁
  obtain ⟨htarget, rfl⟩ := lift_eq_ok.1 htargetRun
  obtain ⟨p, s₃, hpRun, h₃⟩ := bind_eq_ok.1 h₂
  obtain ⟨hp, rfl⟩ := lift_eq_ok.1 hpRun
  obtain ⟨engine, s₄, hengineRun, h₄⟩ := bind_eq_ok.1 h₃
  obtain ⟨hroute, hs₄⟩ := (engineFor_computes p.1.id).ok onRoutes_start hengineRun
  obtain ⟨identityField, s₅, hidentityRun, h₅⟩ := bind_eq_ok.1 h₄
  obtain ⟨hidentity, rfl⟩ := lift_eq_ok.1 hidentityRun
  obtain ⟨records, s₆, hrecordsRun, h₆⟩ := bind_eq_ok.1 h₅
  rw [fetchRowsInRange_perform] at hrecordsRun
  obtain ⟨hrecords, hs₆⟩ := (perform_computes (serves_of_routeOf hroute) _).ok hs₄ hrecordsRun
  obtain ⟨issues, s₇, hissuesRun, h₇⟩ := bind_eq_ok.1 h₆
  obtain ⟨hissues, rfl⟩ := lift_eq_ok.1 hissuesRun
  obtain ⟨labels, s₈, hlabelsRun, h₈⟩ := bind_eq_ok.1 h₇
  obtain ⟨hlabels, rfl⟩ := lift_eq_ok.1 hlabelsRun
  obtain ⟨rfl, hcomputed⟩ := labels_ok hlabels
  obtain ⟨rows, s₉, hrowsRun, h₉⟩ := bind_eq_ok.1 h₈
  rw [labelable_eq] at hrowsRun
  obtain ⟨-, kept, hkept, hrows⟩ := buildRowsWith_leave hextraction hs₆ hrowsRun
  rw [List.nil_append] at hrows
  obtain ⟨⟨⟩, s₁₀, -, h₁₀⟩ := bind_eq_ok.1 h₉
  obtain ⟨statistics, s₁₁, -, h₁₁⟩ := bind_eq_ok.1 h₁₀
  obtain ⟨⟨⟩, s₁₂, -, h₁₂⟩ := bind_eq_ok.1 h₁₁
  subst hrows
  cases hversion : target.schemaMapping.activeVersionId with
  | none =>
    rw [hversion] at h₁₂
    cases h₁₂
  | some version =>
    rw [hversion] at h₁₂
    obtain ⟨rfl, -⟩ := pure_eq_ok.1 h₁₂
    have happend := splitTemporally_append env.std kept.reduceOption definition.splitStrategy
    have hlength := congrArg List.length happend
    simp only [List.length_append] at hlength
    have hsum : (splitTemporally env.std kept.reduceOption definition.splitStrategy).train.length +
        ((splitTemporally env.std kept.reduceOption definition.splitStrategy).validation.length +
        ((splitTemporally env.std kept.reduceOption definition.splitStrategy).test.length + 0)) =
          kept.reduceOption.length := by omega
    refine ⟨target, p, engine, identityField, records, kept, version, htarget, hp, hroute, hidentity,
      rowsInRange_enumerated hidentity hrecords, hcomputed, hkept, hversion, rfl, ?_⟩
    refine ⟨happend, rfl, rfl, rfl, hsum, rfl, ?_, ?_⟩
    · exact (List.length_map _).trans hsum.symm
    · show missingLabels ⟨_, _⟩ = _
      rw [missingLabels_eq (fun issue hissue => rowIssues_check hissues hissue)]
      · rw [List.countP_map]
        rfl
      · intro issue hissue
        rw [checkClassImbalance_check hissue]
        decide

/-- The rows of a dataset, in order, are the enumerated records that have a usable label and whose
extraction finds the target row; the parts of the dataset are these rows, and the counts of the
manifest are theirs. -/
theorem dataset_accounts (env : Environment) (later : Nat → Engine → CustomerDatabase)
    (db : ControlPlane) (definition : DatasetDefinition) (contract : FeatureContract)
    (ctx : TenantContext) (pool : PoolRegistry) (dataset : BuiltDataset)
    (h : (buildDuring env later db definition contract ctx { pool }).1 = .ok dataset) :
    ∃ target p engine identityField records kept,
      Features.resolveTarget db contract.targetEntity ctx = .ok target ∧
      connectionAndSnapshotFor db target ctx = .ok p ∧
      routeOf env db ctx pool p.1.id = .ok engine ∧
      identityFieldName target.document = .ok identityField ∧
      Enumerated env.std (env.world engine) target.document definition identityField records ∧
      (∀ record ∈ records, ∃ computed, computeLabel definition.label.functionName record
        definition.label.kwargs = .ok computed) ∧
      List.Forall₂ (Yields env later db contract ctx pool definition identityField)
        (labelledRecords definition.label records).zipIdx kept ∧
      Accounts definition.label records kept.reduceOption dataset := by
  rw [buildDuring_eq] at h
  obtain ⟨target, p, engine, identityField, records, kept, -, htarget, hp, hroute, hidentity,
    hrecords, hcomputed, hkept, -, -, haccounts⟩ :=
      buildWith_ok (fun i reference time =>
        computes_later (extract_computes contract reference time)) h
  exact ⟨target, p, engine, identityField, records, kept, htarget, hp, hroute, hidentity, hrecords,
    hcomputed, hkept.imp fun _ _ => yields_of_leaves, haccounts⟩

namespace Sample

open HermesRpt.Extraction.Sample (trips tripRow tripTable servedTrips delays serving oneTable)

/-- A cancelled trip, one of which the outcome is not known, and a cancelled one that is gone when
it is extracted. -/
def threeTrips : Environment :=
  serving (oneTable "vehicles" [tripRow "t0" ⟨1000, 0⟩ "cancelled" none,
    tripRow "t1" ⟨2000, 0⟩ "planned" none, tripRow "t2" ⟨3000, 0⟩ "cancelled" none])

def twoLeft : Nat → Engine → CustomerDatabase := fun _ _ => tripTable "planned" none

def built : Except PyError BuiltDataset :=
  (buildDuring threeTrips twoLeft servedTrips delays deliveryDelayRiskContract HermesRpt.Sample.ctx
    { pool := Keyed.Table.empty }).1

def counted (dataset : BuiltDataset) : Nat × Nat :=
  (dataset.manifest.qualityReport.rowCount, missingLabels dataset.manifest.qualityReport)

end Sample

theorem dataset_accounts_sample : ∃ dataset, Sample.built = .ok dataset ∧
    Sample.counted dataset = (1, 1) ∧ ∃ target p engine identityField records kept,
      Features.resolveTarget Extraction.Sample.servedTrips "Trip" HermesRpt.Sample.ctx =
        .ok target ∧
      connectionAndSnapshotFor Extraction.Sample.servedTrips target HermesRpt.Sample.ctx = .ok p ∧
      routeOf Sample.threeTrips Extraction.Sample.servedTrips HermesRpt.Sample.ctx
        Keyed.Table.empty p.1.id = .ok engine ∧
      identityFieldName target.document = .ok identityField ∧
      Enumerated Sample.threeTrips.std (Sample.threeTrips.world engine) target.document
        Extraction.Sample.delays identityField records ∧
      (∀ record ∈ records, ∃ computed, computeLabel Extraction.Sample.delays.label.functionName
        record Extraction.Sample.delays.label.kwargs = .ok computed) ∧
      List.Forall₂ (Yields Sample.threeTrips Sample.twoLeft Extraction.Sample.servedTrips
          deliveryDelayRiskContract HermesRpt.Sample.ctx Keyed.Table.empty
          Extraction.Sample.delays identityField)
        (labelledRecords Extraction.Sample.delays.label records).zipIdx kept ∧
      Accounts Extraction.Sample.delays.label records kept.reduceOption dataset := by
  have hcounted : Sample.built.map Sample.counted = .ok (1, 1) := by decide +kernel
  cases hbuilt : Sample.built with
  | error e =>
    rw [hbuilt] at hcounted
    cases hcounted
  | ok dataset =>
    rw [hbuilt] at hcounted
    refine ⟨dataset, rfl, Except.ok.inj hcounted, ?_⟩
    exact dataset_accounts Sample.threeTrips Sample.twoLeft Extraction.Sample.servedTrips
      Extraction.Sample.delays deliveryDelayRiskContract HermesRpt.Sample.ctx Keyed.Table.empty
      dataset hbuilt

end Datasets

end HermesRpt
