import HermesRpt.Extraction.Statements
import HermesRpt.Features.Service

/-!
# HermesRpt.Extraction.Outcome

What `extract` gives, without its effects: the value of each feature is computed on its own, from
the target row and the databases, and recorded in the order of the contract.

* `featureOutcome`   : the raw value of one feature, or why it was not asked for.
* `Gives`            : the cases of it.
* `extractOf`        : the batch.
* `extract_computes` : `extract` gives it at every point of a call.
* `extractWith`      : `extract` on given mappings.
-/

namespace HermesRpt

namespace Extraction

open Effect Connectors Mappings Features
open Keyed (Dict)

structure Outcome where
  raw : Option Value
  /-- The reason for which the feature is skipped. -/
  skipped : Option String := none
  /-- The mapping version of the related entity. -/
  version : Option (String × Uuid) := none

/-- The value of a feature of the target row. -/
def targetOutcome (std : Stdlib) (feature : FeatureSpec) (targetRow : FieldRow)
    (predictionTime : DateTime) : Except PyError Outcome :=
  match feature.targetField with
  | none => .error assertionError
  | some targetField =>
    let raw := targetRow.value targetField
    if feature.kind = .DERIVED_FROM_TARGET then
      match feature.derive with
      | none => .error assertionError
      | some derive => do
        let secondary := ((given feature.targetFieldSecondary).map targetRow.value).getD none
        return { raw := ← applyDerive std derive raw secondary predictionTime }
    else .ok { raw }

/-- The value of a feature of a related entity. -/
def relatedOutcome (env : Environment) (db : ControlPlane) (ctx : TenantContext)
    (pool : PoolRegistry) (relatedCache : Dict String (Option ResolvedMapping))
    (targetRow : FieldRow) (predictionTime : DateTime) (feature : FeatureSpec) :
    Except PyError Outcome :=
  match feature.relatedEntity, feature.relatedFkFieldOnTarget with
  | some relatedEntity, some fkField =>
    let related := (relatedCache.get? relatedEntity).getD none
    match related, related.bind (·.schemaMapping.activeVersionId) with
    | some related, some activeVersionId =>
      match targetRow.value fkField with
      | none => .ok { raw := none, skipped := some "Join field has no value on target row",
                      version := some (relatedEntity, activeVersionId) }
      | some joinValue => do
        let (connection, _) ← connectionAndSnapshotFor db related ctx
        let engine ← routeOf env db ctx pool connection.id
        let raw ← relatedFeaturePlan env.std feature related.document joinValue predictionTime
          connection >>= Plan.result (env.world engine)
        return { raw := ← deriveRelated env.std feature raw predictionTime,
                 version := some (relatedEntity, activeVersionId) }
    | _, _ => .ok { raw := none, skipped := some ("No active mapping for " ++ relatedEntity) }
  | _, _ => .error assertionError

def featureOutcome (env : Environment) (db : ControlPlane) (ctx : TenantContext)
    (pool : PoolRegistry) (relatedCache : Dict String (Option ResolvedMapping))
    (targetRow : FieldRow) (predictionTime : DateTime) (feature : FeatureSpec) :
    Except PyError Outcome :=
  if feature.kind.onTarget then targetOutcome env.std feature targetRow predictionTime
  else relatedOutcome env db ctx pool relatedCache targetRow predictionTime feature

/-- The cases of the outcome of a feature. -/
inductive Gives (env : Environment) (db : ControlPlane) (ctx : TenantContext) (pool : PoolRegistry)
    (relatedCache : Dict String (Option ResolvedMapping)) (targetRow : FieldRow)
    (predictionTime : DateTime) (feature : FeatureSpec) : Outcome → Prop where
  | direct (f : String) (hkind : feature.kind = .DIRECT_FIELD)
      (hfield : feature.targetField = some f) :
      Gives env db ctx pool relatedCache targetRow predictionTime feature
        { raw := targetRow.value f }
  | derived (f derive : String) (raw : Option Value) (hkind : feature.kind = .DERIVED_FROM_TARGET)
      (hfield : feature.targetField = some f) (hderive : feature.derive = some derive)
      (happly : applyDerive env.std derive (targetRow.value f)
        (((given feature.targetFieldSecondary).map targetRow.value).getD none) predictionTime =
          .ok raw) :
      Gives env db ctx pool relatedCache targetRow predictionTime feature { raw }
  | unmapped (name fkField : String) (hkind : ¬feature.kind.onTarget)
      (hentity : feature.relatedEntity = some name)
      (hfield : feature.relatedFkFieldOnTarget = some fkField)
      (hmapping : ∀ mapping, (relatedCache.get? name).getD none = some mapping →
        mapping.schemaMapping.activeVersionId = none) :
      Gives env db ctx pool relatedCache targetRow predictionTime feature
        { raw := none, skipped := some ("No active mapping for " ++ name) }
  | unjoined (name fkField : String) (mapping : ResolvedMapping) (version : Uuid)
      (hkind : ¬feature.kind.onTarget) (hentity : feature.relatedEntity = some name)
      (hfield : feature.relatedFkFieldOnTarget = some fkField)
      (hmapping : (relatedCache.get? name).getD none = some mapping)
      (hversion : mapping.schemaMapping.activeVersionId = some version)
      (hjoin : targetRow.value fkField = none) :
      Gives env db ctx pool relatedCache targetRow predictionTime feature
        { raw := none, skipped := some "Join field has no value on target row",
          version := some (name, version) }
  | asked (name fkField : String) (mapping : ResolvedMapping) (version : Uuid) (joinValue : Value)
      (p : CustomerDatabaseConnection × Schemas.SchemaSnapshot) (engine : Engine)
      (raw value : Option Value) (hkind : ¬feature.kind.onTarget)
      (hentity : feature.relatedEntity = some name)
      (hfield : feature.relatedFkFieldOnTarget = some fkField)
      (hmapping : (relatedCache.get? name).getD none = some mapping)
      (hversion : mapping.schemaMapping.activeVersionId = some version)
      (hjoin : targetRow.value fkField = some joinValue)
      (hconnection : connectionAndSnapshotFor db mapping ctx = .ok p)
      (hengine : routeOf env db ctx pool p.1.id = .ok engine)
      (hraw : relatedFeaturePlan env.std feature mapping.document joinValue predictionTime p.1 >>=
        Plan.result (env.world engine) = .ok raw)
      (hvalue : deriveRelated env.std feature raw predictionTime = .ok value) :
      Gives env db ctx pool relatedCache targetRow predictionTime feature
        { raw := value, version := some (name, version) }

section

variable {env : Environment} {db : ControlPlane} {ctx : TenantContext} {pool : PoolRegistry}
  {relatedCache : Dict String (Option ResolvedMapping)} {targetRow : FieldRow}
  {predictionTime : DateTime} {feature : FeatureSpec} {outcome : Outcome}

theorem gives_of_targetOutcome (hkind : feature.kind.onTarget)
    (h : targetOutcome env.std feature targetRow predictionTime = .ok outcome) :
    Gives env db ctx pool relatedCache targetRow predictionTime feature outcome := by
  obtain ⟨f, hf, -⟩ := given_of_truthy (feature.target_field hkind)
  unfold targetOutcome at h
  rw [hf] at h
  by_cases hderived : feature.kind = .DERIVED_FROM_TARGET
  · obtain ⟨d, hd, -⟩ := given_of_truthy (feature.derive_named hderived)
    simp only [hderived, if_true, hd] at h
    obtain ⟨raw, happly, h⟩ := except_bind_ok.1 h
    cases h
    exact .derived f d raw hderived hf hd happly
  · simp only [hderived, if_false] at h
    cases h
    have hdirect : feature.kind = .DIRECT_FIELD := by
      simpa [FeatureKind.onTarget, hderived] using hkind
    exact .direct f hdirect hf

theorem gives_of_relatedOutcome (hkind : ¬feature.kind.onTarget)
    (h : relatedOutcome env db ctx pool relatedCache targetRow predictionTime feature =
      .ok outcome) :
    Gives env db ctx pool relatedCache targetRow predictionTime feature outcome := by
  obtain ⟨name, hname, -⟩ := given_of_truthy (feature.related_fields hkind).1
  obtain ⟨fkField, hfk, -⟩ := given_of_truthy (feature.related_fields hkind).2
  unfold relatedOutcome at h
  simp only [hname, hfk] at h
  cases hmapping : (relatedCache.get? name).getD none with
  | none =>
    simp only [hmapping] at h
    cases h
    exact .unmapped name fkField hkind hname hfk (by simp [hmapping])
  | some mapping =>
    cases hversion : mapping.schemaMapping.activeVersionId with
    | none =>
      simp only [hmapping, Option.bind_some, hversion] at h
      cases h
      exact .unmapped name fkField hkind hname hfk (by simp [hmapping, hversion])
    | some version =>
      simp only [hmapping, Option.bind_some, hversion] at h
      cases hjoin : targetRow.value fkField with
      | none =>
        rw [hjoin] at h
        cases h
        exact .unjoined name fkField mapping version hkind hname hfk hmapping hversion hjoin
      | some joinValue =>
        rw [hjoin] at h
        obtain ⟨p, hp, h⟩ := except_bind_ok.1 h
        obtain ⟨engine, hengine, h⟩ := except_bind_ok.1 h
        obtain ⟨raw, hrun, h⟩ := except_bind_ok.1 h
        obtain ⟨value, hvalue, h⟩ := except_bind_ok.1 h
        cases h
        exact .asked name fkField mapping version joinValue p engine raw value hkind hname hfk
          hmapping hversion hjoin hp hengine hrun hvalue

theorem featureOutcome_of_gives
    (h : Gives env db ctx pool relatedCache targetRow predictionTime feature outcome) :
    featureOutcome env db ctx pool relatedCache targetRow predictionTime feature = .ok outcome := by
  cases h with
  | direct f hkind hfield =>
    rw [featureOutcome, if_pos (by simp [FeatureKind.onTarget, hkind]), targetOutcome, hfield]
    simp [hkind]
  | derived f derive raw hkind hfield hderive happly =>
    rw [featureOutcome, if_pos (by simp [FeatureKind.onTarget, hkind]), targetOutcome, hfield]
    simp only [hkind, if_true, hderive, happly, except_ok_bind]
    rfl
  | unmapped name fkField hkind hentity hfield hmapping =>
    rw [featureOutcome, if_neg hkind, relatedOutcome, hentity, hfield]
    cases hfound : (relatedCache.get? name).getD none with
    | none => simp only [hfound]
    | some mapping =>
      have hversion := hmapping mapping hfound
      simp only [hfound, Option.bind_some, hversion]
  | unjoined name fkField mapping version hkind hentity hfield hmapping hversion hjoin =>
    rw [featureOutcome, if_neg hkind, relatedOutcome, hentity, hfield]
    simp only [hmapping, Option.bind_some, hversion, hjoin]
  | asked name fkField mapping version joinValue p engine raw value hkind hentity hfield hmapping
      hversion hjoin hconnection hengine hraw hvalue =>
    rw [featureOutcome, if_neg hkind, relatedOutcome, hentity, hfield]
    simp only [hmapping, Option.bind_some, hversion, hjoin, hconnection, except_ok_bind, hengine,
      hraw, hvalue]
    rfl

/-- These are the cases. -/
theorem featureOutcome_iff :
    featureOutcome env db ctx pool relatedCache targetRow predictionTime feature = .ok outcome ↔
      Gives env db ctx pool relatedCache targetRow predictionTime feature outcome := by
  refine ⟨fun h => ?_, featureOutcome_of_gives⟩
  unfold featureOutcome at h
  by_cases hkind : feature.kind.onTarget
  · rw [if_pos hkind] at h
    exact gives_of_targetOutcome hkind h
  · rw [if_neg hkind] at h
    exact gives_of_relatedOutcome hkind h

end

/-- The reason under which the feature is listed as missing. -/
def Outcome.reason (outcome : Outcome) (feature : FeatureSpec) : Option String :=
  match outcome.skipped with
  | some reason => some reason
  | none => if outcome.raw.isNone && feature.required then some "No value" else none

/-- What the loop has gathered after one more feature. -/
def recorded (std : Stdlib) (extracted : Extracted) (feature : FeatureSpec) (outcome : Outcome) :
    Except PyError Extracted := do
  let value ← Features.normalize std feature outcome.raw
  return {
    features := extracted.features.set feature.name value
    relatedMappingVersionIds := match outcome.version with
      | some (entity, version) => extracted.relatedMappingVersionIds.set entity version
      | none => extracted.relatedMappingVersionIds
    missing := extracted.missing ++
      (outcome.reason feature).toList.map fun reason => ⟨feature.name, reason⟩ }

def extractOf (env : Environment) (db : ControlPlane) (ctx : TenantContext) (pool : PoolRegistry)
    (contract : FeatureContract) (businessReference : String) (predictionTime : DateTime) :
    Except PyError FeatureBatch := do
  let target ← Features.resolveTarget db contract.targetEntity ctx
  let (connection, snapshot) ← connectionAndSnapshotFor db target ctx
  let engine ← routeOf env db ctx pool connection.id
  let row ← targetRowPlan env.std target.document businessReference (neededTargetFields contract)
    connection >>= Plan.result (env.world engine)
  match row with
  | none => .error (targetRowNotFound contract businessReference)
  | some targetRow =>
    let relatedCache ← resolveRelatedEntities env.std db contract ctx
    let extracted ← contract.features.foldlM (fun extracted feature => do
      recorded env.std extracted feature (← featureOutcome env db ctx pool relatedCache targetRow
        predictionTime feature)) {}
    match target.schemaMapping.activeVersionId with
    | none => .error assertionError
    | some activeVersionId =>
      return {
        businessReference, predictionTime, features := extracted.features,
        lineage := {
          tenantId := ctx.tenantId, taskKey := contract.taskKey,
          featureContractVersion := contract.version, targetMappingVersionId := activeVersionId,
          schemaSnapshotId := snapshot.id,
          relatedMappingVersionIds := extracted.relatedMappingVersionIds,
          extractionTimestamp := env.now, missingFeatures := extracted.missing } }

/-- `extract`, given what its reads of the mappings give. -/
def extractWith (env : Environment) (db : ControlPlane) (contract : FeatureContract)
    (ctx : TenantContext) (resolved : Except PyError ResolvedMapping)
    (related : Except PyError (Dict String (Option ResolvedMapping))) (businessReference : String)
    (predictionTime : DateTime) : Extraction FeatureBatch := do
  let target ← Process.lift resolved
  let (targetConnection, targetSnapshot) ← Process.lift (connectionAndSnapshotFor db target ctx)
  let targetEngine ← engineFor env db targetConnection.id ctx
  let row ← (fetchTargetRow env targetEngine target.document businessReference
    (neededTargetFields contract) targetConnection).onRaise (recordDisallowedQueryAttempt ctx)
  match row with
  | none => Process.raise (targetRowNotFound contract businessReference)
  | some targetRow =>
    let relatedCache ← Process.lift related
    let extracted ← contract.features.foldlM
      (extractFeature env db ctx relatedCache targetRow predictionTime) {}
    match target.schemaMapping.activeVersionId with
    | none => Process.raise assertionError
    | some activeVersionId =>
      Process.modify fun s => { s with audit := s.audit ++ [{
        tenantId := some ctx.tenantId, principalId := some ctx.principalId,
        action := "feature_extraction.extract", outcome := .SUCCESS,
        resourceType := some "PredictionTaskDefinition", resourceId := none,
        correlationId := ctx.correlationId,
        details := [("task_key", some (.str contract.taskKey)),
          ("business_reference", some (.str businessReference)),
          ("missing_feature_count", some (.int extracted.missing.length))] }] }
      return {
        businessReference, predictionTime, features := extracted.features,
        lineage := {
          tenantId := ctx.tenantId, taskKey := contract.taskKey,
          featureContractVersion := contract.version, targetMappingVersionId := activeVersionId,
          schemaSnapshotId := targetSnapshot.id,
          relatedMappingVersionIds := extracted.relatedMappingVersionIds,
          extractionTimestamp := env.now, missingFeatures := extracted.missing } }

def extractWithOf (env : Environment) (db : ControlPlane) (ctx : TenantContext)
    (pool : PoolRegistry) (contract : FeatureContract) (resolved : Except PyError ResolvedMapping)
    (related : Except PyError (Dict String (Option ResolvedMapping))) (businessReference : String)
    (predictionTime : DateTime) : Except PyError FeatureBatch := do
  let target ← resolved
  let (connection, snapshot) ← connectionAndSnapshotFor db target ctx
  let engine ← routeOf env db ctx pool connection.id
  let row ← targetRowPlan env.std target.document businessReference (neededTargetFields contract)
    connection >>= Plan.result (env.world engine)
  match row with
  | none => .error (targetRowNotFound contract businessReference)
  | some targetRow =>
    let relatedCache ← related
    let extracted ← contract.features.foldlM (fun extracted feature => do
      recorded env.std extracted feature (← featureOutcome env db ctx pool relatedCache targetRow
        predictionTime feature)) {}
    match target.schemaMapping.activeVersionId with
    | none => .error assertionError
    | some activeVersionId =>
      return {
        businessReference, predictionTime, features := extracted.features,
        lineage := {
          tenantId := ctx.tenantId, taskKey := contract.taskKey,
          featureContractVersion := contract.version, targetMappingVersionId := activeVersionId,
          schemaSnapshotId := snapshot.id,
          relatedMappingVersionIds := extracted.relatedMappingVersionIds,
          extractionTimestamp := env.now, missingFeatures := extracted.missing } }

section

variable {env : Environment} {db : ControlPlane} {ctx : TenantContext} {pool : PoolRegistry}

theorem finishFeature_eq (std : Stdlib) (extracted : Extracted) (feature : FeatureSpec)
    (raw : Option Value) :
    finishFeature std extracted feature raw = recorded std extracted feature { raw } := by
  unfold finishFeature recorded
  cases Features.normalize std feature raw with
  | error e => rfl
  | ok value =>
    simp only [bind, Except.bind, pure, Except.pure, Outcome.reason, Extracted.addFeature,
      Extracted.addMissing]
    split <;> simp

theorem skipFeature_eq (std : Stdlib) (extracted : Extracted) (feature : FeatureSpec)
    (reason : String) : skipFeature std extracted feature reason =
      recorded std extracted feature { raw := none, skipped := some reason } := by
  unfold skipFeature recorded
  cases Features.normalize std feature none <;> rfl

theorem extractOnTarget_eq (std : Stdlib) (feature : FeatureSpec) (targetRow : FieldRow)
    (predictionTime : DateTime) (extracted : Extracted) :
    extractOnTarget std feature targetRow predictionTime extracted =
      targetOutcome std feature targetRow predictionTime >>= recorded std extracted feature := by
  unfold extractOnTarget targetOutcome
  cases feature.targetField with
  | none => rfl
  | some targetField =>
    dsimp only
    split
    · cases feature.derive with
      | none => rfl
      | some derive =>
        dsimp only
        simp only [finishFeature_eq]
        cases applyDerive std derive (targetRow.value targetField)
          (((given feature.targetFieldSecondary).map targetRow.value).getD none)
          predictionTime <;> rfl
    · exact finishFeature_eq _ _ _ _

theorem recordDisallowedQueryAttempt_computes (e : PyError) :
    Computes (OnRoutes env db ctx pool) (recordDisallowedQueryAttempt ctx e) (.ok ()) := by
  unfold recordDisallowedQueryAttempt
  split
  · exact fun s hs => ⟨⟨hs.grown, hs.statements⟩, rfl⟩
  · exact .pure ()

/-- A related feature gives its outcome, whatever the call has gathered before. -/
theorem extractRelated_computes (relatedCache : Dict String (Option ResolvedMapping))
    (targetRow : FieldRow) (predictionTime : DateTime) (extracted : Extracted)
    (feature : FeatureSpec) :
    Computes (OnRoutes env db ctx pool)
      (extractRelated env db ctx relatedCache targetRow predictionTime extracted feature)
      (relatedOutcome env db ctx pool relatedCache targetRow predictionTime feature >>=
        recorded env.std extracted feature) := by
  unfold extractRelated relatedOutcome
  cases feature.relatedEntity with
  | none => exact .raise _
  | some relatedEntity =>
    cases feature.relatedFkFieldOnTarget with
    | none => exact .raise _
    | some fkField =>
      dsimp only
      cases hrelated : (relatedCache.get? relatedEntity).getD none with
      | none => simp only [skipFeature_eq]; exact .lift _
      | some related =>
        cases hversion : related.schemaMapping.activeVersionId with
        | none =>
          simp only [Option.bind_some, hversion, skipFeature_eq]
          exact .lift _
        | some activeVersionId =>
          simp only [Option.bind_some, hversion]
          cases hjoin : targetRow.value fkField with
          | none => simp only [skipFeature_eq]; exact .lift _
          | some joinValue =>
            simp only [bind_assoc, pure_bind, finishFeature_eq]
            refine (Computes.lift _).bind fun p _ => ?_
            refine (engineFor_computes _).bind fun engine hengine => ?_
            have hasked := Computes.onRaise (perform_computes (serves_of_routeOf hengine)
              (relatedFeaturePlan env.std feature related.document joinValue predictionTime p.1))
              recordDisallowedQueryAttempt_computes
            rw [compileAndRunRelatedFeature_perform, ← bind_assoc (m := Except PyError)]
            refine hasked.bind fun raw _ => ?_
            exact (Computes.lift _).bind fun raw _ => .lift _

theorem extractFeature_computes (relatedCache : Dict String (Option ResolvedMapping))
    (targetRow : FieldRow) (predictionTime : DateTime) (extracted : Extracted)
    (feature : FeatureSpec) :
    Computes (OnRoutes env db ctx pool)
      (extractFeature env db ctx relatedCache targetRow predictionTime extracted feature)
      (featureOutcome env db ctx pool relatedCache targetRow predictionTime feature >>=
        recorded env.std extracted feature) := by
  unfold extractFeature featureOutcome
  split
  · rw [extractOnTarget_eq]
    exact .lift _
  · exact extractRelated_computes relatedCache targetRow predictionTime extracted feature

/-- With any mappings, `extract` gives `extractWithOf` at every point of a call. -/
theorem extractWith_computes (contract : FeatureContract) (resolved : Except PyError ResolvedMapping)
    (related : Except PyError (Dict String (Option ResolvedMapping))) (businessReference : String)
    (predictionTime : DateTime) :
    Computes (OnRoutes env db ctx pool)
      (extractWith env db contract ctx resolved related businessReference predictionTime)
      (extractWithOf env db ctx pool contract resolved related businessReference
        predictionTime) := by
  unfold extractWith extractWithOf
  refine (Computes.lift _).bind fun target _ => (Computes.lift _).bind fun p _ => ?_
  refine (engineFor_computes _).bind fun engine hengine => ?_
  rw [fetchTargetRow_perform]
  refine ((perform_computes (serves_of_routeOf hengine) _).onRaise
    recordDisallowedQueryAttempt_computes).bind fun row _ => ?_
  cases row with
  | none => exact .raise _
  | some targetRow =>
    refine (Computes.lift _).bind fun relatedCache _ => ?_
    refine (Computes.foldlM (fun extracted feature _ =>
      extractFeature_computes relatedCache targetRow predictionTime extracted feature) _).bind
      fun extracted _ => ?_
    cases target.schemaMapping.activeVersionId with
    | none => exact .raise _
    | some activeVersionId =>
      exact fun s hs => ⟨⟨hs.grown, hs.statements⟩, rfl⟩

/-- `extract` gives `extractOf` at every point of a call. -/
theorem extract_computes (contract : FeatureContract) (businessReference : String)
    (predictionTime : DateTime) :
    Computes (OnRoutes env db ctx pool)
      (extract env db contract ctx businessReference predictionTime)
      (extractOf env db ctx pool contract businessReference predictionTime) :=
  extractWith_computes contract (Features.resolveTarget db contract.targetEntity ctx)
    (resolveRelatedEntities env.std db contract ctx) businessReference predictionTime

/-- On other databases a call gives the same, if the target row and the related features do. -/
theorem extractOf_congr {world' : Engine → CustomerDatabase} {contract : FeatureContract}
    {businessReference : String} {predictionTime : DateTime}
    (hrow : ∀ target p engine, Features.resolveTarget db contract.targetEntity ctx = .ok target →
      connectionAndSnapshotFor db target ctx = .ok p → routeOf env db ctx pool p.1.id = .ok engine →
      (targetRowPlan env.std target.document businessReference (neededTargetFields contract) p.1 >>=
          Plan.result (env.world engine)) =
        (targetRowPlan env.std target.document businessReference (neededTargetFields contract)
          p.1 >>= Plan.result (world' engine)))
    (hrelated : ∀ relatedCache targetRow feature,
      resolveRelatedEntities env.std db contract ctx = .ok relatedCache →
      feature ∈ contract.features → ¬feature.kind.onTarget →
      relatedOutcome env db ctx pool relatedCache targetRow predictionTime feature =
        relatedOutcome { env with world := world' } db ctx pool relatedCache targetRow
          predictionTime feature) :
    extractOf env db ctx pool contract businessReference predictionTime =
      extractOf { env with world := world' } db ctx pool contract businessReference
        predictionTime := by
  unfold extractOf
  refine except_bind_congr fun target htarget => except_bind_congr fun p hp => ?_
  refine except_bind_congr fun engine hengine => ?_
  rw [hrow target p engine htarget hp hengine]
  refine except_bind_congr fun row _ => ?_
  cases row with
  | none => rfl
  | some targetRow =>
    refine except_bind_congr fun relatedCache hcache => ?_
    have hfeature : ∀ feature ∈ contract.features,
        featureOutcome env db ctx pool relatedCache targetRow predictionTime feature =
          featureOutcome { env with world := world' } db ctx pool relatedCache targetRow
            predictionTime feature := by
      intro feature hmem
      unfold featureOutcome
      split
      · rfl
      · rename_i hkind
        exact hrelated relatedCache targetRow feature hcache hmem hkind
    rw [except_foldlM_congr fun extracted feature hmem => by rw [hfeature feature hmem]]

end

end Extraction

end HermesRpt
