import HermesRpt.Features.Planner

/-!
# HermesRpt.Features.Service

`FeatureExtractionService.extract`: the target row, then one value for each feature of the
contract, with the reasons for the missing ones. `plan` is its dry run, which asks no database.
-/

namespace HermesRpt

namespace Features

open Effect Connectors Mappings
open Keyed (Dict)

/-- `_DISALLOWED_QUERY_ERRORS` -/
def disallowedQueryErrors : List ErrorClass :=
  [.DisallowedObjectError, .WriteStatementRejectedError, .QueryCostExceededError]

/-- `_record_disallowed_query_attempt`, for the errors it is for. -/
def recordDisallowedQueryAttempt (ctx : TenantContext) (e : PyError) : Extraction Unit :=
  if e.cls ∈ disallowedQueryErrors then emit (.disallowedQueryAttempts ctx.tenantId e.cls)
  else pure ()

/-- `_resolve_related_entities`: one entry per entity, in the order of the set. -/
def resolveRelatedEntities (std : Stdlib) (db : ControlPlane) (contract : FeatureContract)
    (ctx : TenantContext) : Except PyError (Dict String (Option ResolvedMapping)) :=
  (std.setOrder (contract.features.filterMap (given ·.relatedEntity))).foldlM
    (fun related name => do return related.set name (← resolve db name ctx)) Keyed.Table.empty

def plan (std : Stdlib) (db : ControlPlane) (contract : FeatureContract) (ctx : TenantContext) :
    Except PyError QueryPlanReport := do
  let target ← resolveTarget db contract.targetEntity ctx
  let related ← resolveRelatedEntities std db contract ctx
  buildQueryPlan contract target related

/-- What the loop over the features has gathered. -/
structure Extracted where
  features : FeatureRow := Keyed.Table.empty
  relatedMappingVersionIds : Dict String Uuid := Keyed.Table.empty
  missing : List MissingFeatureReason := []

def Extracted.addFeature (extracted : Extracted) (feature : FeatureSpec) (value : Option Value) :
    Extracted := { extracted with features := extracted.features.set feature.name value }

def Extracted.addMissing (extracted : Extracted) (feature : FeatureSpec) (reason : String) :
    Extracted := { extracted with missing := extracted.missing ++ [⟨feature.name, reason⟩] }

/-- `features_out[feature.name] = normalize(feature, raw)`; a required feature without a value is
missing. -/
def finishFeature (std : Stdlib) (extracted : Extracted) (feature : FeatureSpec)
    (raw : Option Value) : Except PyError Extracted := do
  let extracted := extracted.addFeature feature (← normalize std feature raw)
  return if raw.isNone && feature.required then extracted.addMissing feature "No value"
    else extracted

/-- A feature that is missing for the given reason. -/
def skipFeature (std : Stdlib) (extracted : Extracted) (feature : FeatureSpec) (reason : String) :
    Except PyError Extracted := do
  return (extracted.addFeature feature (← normalize std feature none)).addMissing feature reason

/-- A feature of kind `DIRECT_FIELD` or `DERIVED_FROM_TARGET`. -/
def extractOnTarget (std : Stdlib) (feature : FeatureSpec) (targetRow : FieldRow)
    (predictionTime : DateTime) (extracted : Extracted) : Except PyError Extracted :=
  match feature.targetField with
  | none => .error assertionError
  | some targetField => do
    let raw := targetRow.value targetField
    if feature.kind = .DERIVED_FROM_TARGET then
      match feature.derive with
      | none => .error assertionError
      | some derive =>
        let secondary := ((given feature.targetFieldSecondary).map targetRow.value).getD none
        finishFeature std extracted feature (← applyDerive std derive raw secondary predictionTime)
    else finishFeature std extracted feature raw

/-- The transform of a related value, when the feature has one. -/
def deriveRelated (std : Stdlib) (feature : FeatureSpec) (raw : Option Value)
    (predictionTime : DateTime) : Except PyError (Option Value) :=
  match feature.derive with
  | none => .ok raw
  | some derive => applyDerive std derive raw none predictionTime

/-- A feature of a related entity. -/
def extractRelated (env : Environment) (db : ControlPlane) (ctx : TenantContext)
    (relatedCache : Dict String (Option ResolvedMapping)) (targetRow : FieldRow)
    (predictionTime : DateTime) (extracted : Extracted) (feature : FeatureSpec) :
    Extraction Extracted := do
  match feature.relatedEntity, feature.relatedFkFieldOnTarget with
  | some relatedEntity, some fkField =>
    let related := (relatedCache.get? relatedEntity).getD none
    match related, related.bind (·.schemaMapping.activeVersionId) with
    | some related, some activeVersionId =>
      let extracted := { extracted with relatedMappingVersionIds :=
        extracted.relatedMappingVersionIds.set relatedEntity activeVersionId }
      match targetRow.value fkField with
      | none => Process.lift <|
          skipFeature env.std extracted feature "Join field has no value on target row"
      | some joinValue =>
        let (connection, _) ← Process.lift (connectionAndSnapshotFor db related ctx)
        let engine ← engineFor env db connection.id ctx
        let raw ← (compileAndRunRelatedFeature env engine feature related.document joinValue
          predictionTime connection).onRaise (recordDisallowedQueryAttempt ctx)
        let raw ← Process.lift (deriveRelated env.std feature raw predictionTime)
        Process.lift (finishFeature env.std extracted feature raw)
    | _, _ => Process.lift <|
        skipFeature env.std extracted feature ("No active mapping for " ++ relatedEntity)
  | _, _ => Process.raise assertionError

def extractFeature (env : Environment) (db : ControlPlane) (ctx : TenantContext)
    (relatedCache : Dict String (Option ResolvedMapping)) (targetRow : FieldRow)
    (predictionTime : DateTime) (extracted : Extracted) (feature : FeatureSpec) :
    Extraction Extracted :=
  if feature.kind.onTarget then
    Process.lift (extractOnTarget env.std feature targetRow predictionTime extracted)
  else extractRelated env db ctx relatedCache targetRow predictionTime extracted feature

def targetRowNotFound (contract : FeatureContract) (businessReference : String) : PyError :=
  ⟨.TargetRowNotFoundError, "No " ++ contract.targetEntity ++ " row found for business_reference=" ++
    reprStr businessReference⟩

/-- `needed_target_fields` -/
def neededTargetFields (contract : FeatureContract) : List String :=
  contract.features.flatMap fun feature =>
    [feature.targetField, feature.targetFieldSecondary, feature.relatedFkFieldOnTarget].filterMap given

def extract (env : Environment) (db : ControlPlane) (contract : FeatureContract)
    (ctx : TenantContext) (businessReference : String) (predictionTime : DateTime) :
    Extraction FeatureBatch := do
  let target ← Process.lift (resolveTarget db contract.targetEntity ctx)
  let (targetConnection, targetSnapshot) ← Process.lift (connectionAndSnapshotFor db target ctx)
  let targetEngine ← engineFor env db targetConnection.id ctx
  let row ← (fetchTargetRow env targetEngine target.document businessReference
    (neededTargetFields contract) targetConnection).onRaise (recordDisallowedQueryAttempt ctx)
  match row with
  | none => Process.raise (targetRowNotFound contract businessReference)
  | some targetRow =>
    let relatedCache ← Process.lift (resolveRelatedEntities env.std db contract ctx)
    let extracted ← contract.features.foldlM
      (extractFeature env db ctx relatedCache targetRow predictionTime) {}
    match target.schemaMapping.activeVersionId with
    | none => Process.raise assertionError
    | some activeVersionId =>
      Process.modify fun s => { s with audit := s.audit ++ [{
        tenantId := some ctx.tenantId, principalId := some ctx.principalId,
        action := "feature_extraction.extract", outcome := .SUCCESS,
        resourceType := some "PredictionTaskDefinition", resourceId := none,
        correlationId := ctx.correlationId,
        details := [("task_key", some (.str contract.taskKey)),
          ("business_reference", some (.str businessReference)),
          ("missing_feature_count", some (.int extracted.missing.length))] }] }
      return {
        businessReference, predictionTime, features := extracted.features,
        lineage := {
          tenantId := ctx.tenantId, taskKey := contract.taskKey,
          featureContractVersion := contract.version, targetMappingVersionId := activeVersionId,
          schemaSnapshotId := targetSnapshot.id,
          relatedMappingVersionIds := extracted.relatedMappingVersionIds,
          extractionTimestamp := env.now, missingFeatures := extracted.missing } }

end Features

end HermesRpt
