import HermesRpt.Features.Compiler

/-!
# HermesRpt.Features.Planner

The dry run: what an extraction would query, from the mapping documents alone.

* `planEntry`      : one feature, available when its field, or its join, has columns.
* `buildQueryPlan` : the report, one entry for each feature in the order of the contract.
-/

namespace HermesRpt

namespace Features

open Mappings
open Keyed (Dict)

structure FeaturePlanEntry where
  featureName : String
  kind : FeatureKind
  available : Bool
  reason : Option String := none
  sourceTable : Option String := none
  columnsReferenced : List String := []
  deriving DecidableEq, Repr

structure QueryPlanReport where
  taskKey : String
  targetEntity : String
  targetSourceTable : String
  entries : List FeaturePlanEntry
  deriving DecidableEq, Repr

/-- The entry of a feature of kind `DIRECT_FIELD` or `DERIVED_FROM_TARGET`. -/
def planOnTarget (target : MappingDocument) (feature : FeatureSpec) :
    Except PyError FeaturePlanEntry :=
  match feature.targetField with
  | none => .error assertionError
  | some targetField => do
    let column ← resolveColumn target targetField
    return {
      featureName := feature.name, kind := feature.kind, available := column.isSome,
      reason := if column.isSome then none else some "Target field is not mapped",
      sourceTable := some target.source.qualifiedName,
      columnsReferenced := (given column).toList }

/-- The entry of a feature of a related entity. -/
def planRelated (target : MappingDocument) (related : Dict String (Option ResolvedMapping))
    (feature : FeatureSpec) : Except PyError FeaturePlanEntry :=
  match feature.relatedEntity with
  | none => .error assertionError
  | some relatedEntity =>
    match (related.get? relatedEntity).getD none with
    | none => .ok {
        featureName := feature.name, kind := feature.kind, available := false,
        reason := some ("No active production mapping for " ++ relatedEntity) }
    | some resolvedRelated =>
      match feature.relatedFkFieldOnTarget with
      | none => .error assertionError
      | some fkField => do
        let joinColumn ← resolveColumn target fkField
        let relatedJoinColumn ← resolveColumn resolvedRelated.document fkField
        let available := joinColumn.isSome && relatedJoinColumn.isSome
        return {
          featureName := feature.name, kind := feature.kind, available,
          reason := if available then none else some "Join field is not mapped on one side",
          sourceTable := some resolvedRelated.document.source.qualifiedName,
          columnsReferenced := [joinColumn, relatedJoinColumn].filterMap given }

def planEntry (target : MappingDocument) (related : Dict String (Option ResolvedMapping))
    (feature : FeatureSpec) : Except PyError FeaturePlanEntry :=
  if feature.kind.onTarget then planOnTarget target feature
  else planRelated target related feature

def buildQueryPlan (contract : FeatureContract) (target : ResolvedMapping)
    (related : Dict String (Option ResolvedMapping)) : Except PyError QueryPlanReport := do
  let entries ← contract.features.mapM (planEntry target.document related)
  return {
    taskKey := contract.taskKey, targetEntity := contract.targetEntity,
    targetSourceTable := target.document.source.qualifiedName, entries }

end Features

end HermesRpt
