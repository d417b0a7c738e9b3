import HermesRpt.Datasets.Definition
import HermesRpt.Datasets.Quality
import HermesRpt.Features.Service

/-!
# HermesRpt.Datasets.Builder

`DatasetBuildService.build`: target rows of a time range, their labels, one extraction per labelled
row, and the dataset with its manifest.
-/

namespace HermesRpt

namespace Datasets

open Effect Connectors Features
open Keyed (Dict)

/-- `_TRIP_STATUS_VALUES` -/
def tripStatusValues : List String := ["planned", "in_progress", "completed", "cancelled"]

structure DatasetRow where
  businessReference : String
  predictionTime : DateTime
  features : FeatureRow
  label : Int

structure DatasetLineage where
  ontologyVersion : String
  featureContractVersion : String
  taskKey : String
  mappingVersionIds : Dict String Uuid
  schemaSnapshotIds : Dict String Uuid
  builtAt : DateTime
  builtByPrincipalId : Uuid

structure DatasetManifest where
  datasetId : Uuid
  datasetKey : String
  tenantId : Option Uuid
  isSharedResearchDataset : Bool
  lineage : DatasetLineage
  rowCounts : Dict String Nat
  checksum : String
  qualityReport : DataQualityReport
  featureStatistics : List FeatureStatistic
  labelStatistics : LabelStatistics

structure BuiltDataset where
  manifest : DatasetManifest
  splits : DatasetSplits DatasetRow

/-- `_validate_definition_matches_tenant` -/
def validateDefinitionMatchesTenant (definition : DatasetDefinition) (ctx : TenantContext) :
    Except PyError Unit :=
  if definition.isSharedResearchDataset then
    .error ⟨.DatasetTenantMismatchError,
      "Shared research datasets cannot be built through the tenant-authenticated path"⟩
  else if definition.tenantId ≠ some ctx.tenantId then
    .error ⟨.DatasetTenantMismatchError,
      "DatasetDefinition.tenant_id does not match the authenticated tenant"⟩
  else .ok ()

/-- The checks of the fetched rows; a check of a field that is no source field is not made. -/
def rowIssues (env : Environment) (rows : List FieldRow) (identityField : String)
    (label : LabelDefinition) : Except PyError (List (Option QualityIssue)) := do
  let duplicates ← checkDuplicateIds env.std rows identityField "duplicate_entity_ids"
  let statuses ← if "status" ∈ label.sourceFields then
      checkUnrecognisedValues env.std rows identityField "status" tripStatusValues
        "unrecognised_statuses"
    else .ok none
  return [
    duplicates,
    if "actual_arrival_at" ∈ label.sourceFields then
      checkInvalidDateOrdering env.std rows identityField label.timeField "actual_arrival_at"
        "invalid_dates"
    else none,
    if "planned_distance_km" ∈ label.sourceFields then
      checkNegativeNumeric env.std rows identityField "planned_distance_km" "negative_distances"
    else none,
    statuses,
    checkFutureTimestamps env.std rows identityField label.timeField env.now "future_timestamps"]

/-- `_is_point_in_time_valid` -/
def isPointInTimeValid (row : FieldRow) (label : LabelDefinition) : Bool :=
  match row.value label.timeField, row.value "actual_arrival_at" with
  | some (.datetime predictionTime), some (.datetime actualArrivalAt) =>
    predictionTime < actualArrivalAt
  | _, _ => true

/-- The label of a row; a row whose own timestamps are corrupted has none. -/
def labelOf (label : LabelDefinition) (row : FieldRow) : Except PyError (Option Int) := do
  let value ← computeLabel label.functionName row label.kwargs
  return if value.isSome && !isPointInTimeValid row label then none else value

/-- One labelled row: extracted at its own prediction time, skipped when it is gone. -/
def buildRow (env : Environment) (db : ControlPlane) (contract : FeatureContract)
    (ctx : TenantContext) (definition : DatasetDefinition) (identityField : String)
    (built : List DatasetRow) (labelled : FieldRow × Int) : Extraction (List DatasetRow) :=
  let (row, label) := labelled
  match row.get? identityField, row.value definition.label.timeField with
  | none, _ => Process.raise ⟨.KeyError, reprStr identityField⟩
  | some identity, some (.datetime predictionTime) => do
    let businessReference := strOf env.std identity
    let batch ← Process.orElse
      (do return some (← extract env db contract ctx businessReference predictionTime))
      (fun e => if e.cls = .TargetRowNotFoundError then pure none else Process.raise e)
    match batch with
    | none => return built
    | some batch => return built ++ [{ businessReference, predictionTime, features := batch.features,
                                       label }]
  | some _, _ => Process.raise assertionError

/-- The invalid rows of every issue. -/
def emitIssues (ctx : TenantContext) (issues : List QualityIssue) : Extraction Unit :=
  issues.foldlM (fun _ issue =>
    emit (.invalidDataRate ctx.tenantId issue.check issue.severity.value issue.count)) ()

def emitMissing (ctx : TenantContext) (statistics : List FeatureStatistic) : Extraction Unit :=
  statistics.foldlM (fun _ stat =>
    let total : Nat := stat.count + stat.missingCount
    let rate : ℚ := if total = 0 then 0 else (stat.missingCount : ℚ) / (total : ℚ)
    emit (.missingFeatureRate ctx.tenantId stat.featureName rate)) ()

def build (env : Environment) (db : ControlPlane) (definition : DatasetDefinition)
    (contract : FeatureContract) (ctx : TenantContext) : Extraction BuiltDataset := do
  Process.lift (validateDefinitionMatchesTenant definition ctx)
  let target ← Process.lift (resolveTarget db contract.targetEntity ctx)
  let (connection, snapshot) ← Process.lift (connectionAndSnapshotFor db target ctx)
  let engine ← engineFor env db connection.id ctx
  let identityField ← Process.lift (identityFieldName target.document)
  let rawRows ← fetchRowsInRange env engine target.document definition.label.timeField
    definition.timeRangeStart definition.timeRangeEnd definition.label.sourceFields connection
  let rowIssues ← Process.lift (rowIssues env rawRows identityField definition.label)
  let labels ← Process.lift (rawRows.mapM (labelOf definition.label))
  let labelableRows := (rawRows.zip labels).filterMap fun p => p.2.map fun label => (p.1, label)
  let datasetRows ← labelableRows.foldlM
    (buildRow env db contract ctx definition identityField) []
  let rowLabels := datasetRows.map (·.label)
  let issues := (rowIssues ++ [checkMissingLabels labels,
    checkClassImbalance env.std rowLabels]).filterMap id
  emitIssues ctx issues
  let splits := splitTemporally env.std datasetRows definition.splitStrategy
  let featureRows := datasetRows.map (·.features)
  let checksum := computeDatasetChecksum env.std featureRows rowLabels
  let featureStatistics ← Process.lift <|
    computeFeatureStatistics env.std featureRows (contract.features.map (·.name))
  emitMissing ctx featureStatistics
  match target.schemaMapping.activeVersionId with
  | none => Process.raise assertionError
  | some activeVersionId => return {
      splits
      manifest := {
        datasetId := env.newId, datasetKey := definition.datasetKey,
        tenantId := definition.tenantId,
        isSharedResearchDataset := definition.isSharedResearchDataset,
        lineage := {
          ontologyVersion := target.schemaMapping.ontologyVersion,
          featureContractVersion := contract.version, taskKey := contract.taskKey,
          mappingVersionIds := Dict.ofList [(contract.targetEntity, activeVersionId)],
          schemaSnapshotIds := Dict.ofList [(contract.targetEntity, snapshot.id)],
          builtAt := env.now, builtByPrincipalId := ctx.principalId },
        rowCounts := Dict.ofList [("train", splits.train.length),
          ("validation", splits.validation.length), ("test", splits.test.length)],
        checksum, qualityReport := { rowCount := datasetRows.length, issues }, featureStatistics,
        labelStatistics := computeLabelStatistics rowLabels } }

end Datasets

end HermesRpt
