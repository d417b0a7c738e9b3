import HermesRpt.Lib.Run
import HermesRpt.Registry.Repository

/-!
# HermesRpt.Registry.Service

`ModelRegistryService`: the lifecycle of models and adapters, and the aliases. Every method is a
transaction; a method that raises leaves the database as it was. The ids of new rows are drawn by
the caller of the model.

* `registerCandidate`, `transitionStage`, `deactivateModelVersion` : models.
* `registerAdapterCandidate`, `transitionAdapterStage`, `deactivateAdapter` : adapters.
* `setAlias`, `rollbackAlias`, `resolveAlias` : aliases.
* `Call`, `perform`, `step` : the methods as actions of a machine.
-/

namespace HermesRpt

namespace Registry

open Keyed (Table HasKey)
open Transaction

/-- `_VALID_TRANSITIONS` -/
def validTransitions : ModelStage → List ModelStage
  | .CANDIDATE => [.STAGING, .ARCHIVED]
  | .STAGING => [.PRODUCTION, .CANDIDATE, .ARCHIVED]
  | .PRODUCTION => [.ARCHIVED, .STAGING]
  | .ARCHIVED => []

/-- `_PROMOTION_STAGES` -/
def promotionStages : List ModelStage := [.STAGING, .PRODUCTION]

/-- `ScopeName.MODEL_PROMOTE` -/
def modelPromote : String := "model:promote"

def defaultAliasName : String := "production"

/-- `InvalidModelStageTransitionError(current, target)` -/
def invalidTransition (current target : ModelStage) : PyError :=
  ⟨.InvalidModelStageTransitionError,
    "Cannot move a model from " ++ reprStr current.value ++ " to " ++ reprStr target.value⟩

/-- `IncompatibleAdapterError(adapter, base)`; an adapter that was never flushed may have no id. -/
def incompatibleAdapter (adapterId : Option Uuid) (adapter : TenantModelAdapter)
    (base : ModelVersion) : PyError :=
  ⟨.IncompatibleAdapterError,
    "Adapter " ++ (adapterId.map uuidStr).getD "None" ++ " (ontology=" ++
    reprStr adapter.ontologyVersion ++ ", feature_contract=" ++
    reprStr adapter.featureContractVersion ++ ") is not compatible with base model " ++
    uuidStr base.id ++ " (ontology=" ++ reprStr base.ontologyVersion ++ ", feature_contract=" ++
    reprStr base.featureContractVersion ++ ")"⟩

def Incompatible (base : ModelVersion) (adapter : TenantModelAdapter) : Prop :=
  base.ontologyVersion ≠ adapter.ontologyVersion ∨
    base.featureContractVersion ≠ adapter.featureContractVersion

instance (base : ModelVersion) (adapter : TenantModelAdapter) :
    Decidable (Incompatible base adapter) :=
  inferInstanceAs (Decidable (_ ∨ _))

/-- `_ensure_compatible` -/
def ensureCompatible (adapterId : Option Uuid) (base : ModelVersion) (adapter : TenantModelAdapter) :
    Except PyError Unit :=
  if Incompatible base adapter then .error (incompatibleAdapter adapterId adapter base) else .ok ()

/-- No context is the trusted system caller; any other has to hold `model:promote`. -/
def Authorised (tenantContext : Option TenantContext) : Prop :=
  ∀ ctx ∈ tenantContext, modelPromote ∈ ctx.scopes

instance (tenantContext : Option TenantContext) : Decidable (Authorised tenantContext) :=
  inferInstanceAs (Decidable (∀ ctx ∈ tenantContext, modelPromote ∈ ctx.scopes))

/-- `_require_promotion_authorization` -/
def requirePromotionAuthorization (tenantContext : Option TenantContext) : Session Unit :=
  raiseIf (¬Authorised tenantContext) ⟨.AuthorizationError, "missing_scope:" ++ modelPromote⟩

/-- `AuditService.record`, for a caller that may be the system itself. -/
def recordFor (action : String) (tenantId : Option Uuid) (tenantContext : Option TenantContext)
    (resourceType : String) (resourceId : Uuid) (details : List (String × Option Value) := []) :
    Session Unit :=
  write fun db => .ok { db with audit := db.audit ++ [{
    tenantId, principalId := tenantContext.map (·.principalId), action, outcome := .SUCCESS,
    resourceType := some resourceType, resourceId := some resourceId,
    correlationId := tenantContext.bind (·.correlationId), details }] }

/-! ## The lifecycle of a row -/

/-- The object a caller registers: a new one, whose id is the caller's own or drawn at the flush,
or one that was loaded from the database. -/
inductive Registered (ρ : Type) where
  | new (row : ρ) (idDrawn : Bool)
  | loaded (row : ρ)

def Registered.row {ρ : Type} : Registered ρ → ρ
  | .new row _ => row
  | .loaded row => row

/-- The `id` of the object before the flush. -/
def Registered.id {ρ : Type} [HasKey ρ Uuid] : Registered ρ → Option Uuid
  | .new _ true => none
  | .new row false => some (HasKey.key row)
  | .loaded row => some (HasKey.key row)

section

variable {ρ : Type} [HasKey ρ Uuid] [DecidableEq ρ] [Staged ρ]

open Versioned Staged

/-- The new row of an object whose stage was set. -/
def candidate (row : ρ) : ρ := (atVersion 1).set ((setStage .CANDIDATE).set row)

/-- `stage = CANDIDATE`, then `session.add` and a flush. -/
def addCandidate : Registered ρ → Session ρ
  | .new row _ => do
    insert ((setStage .CANDIDATE).set row)
    return candidate row
  | .loaded row => do
    flush row (setStage .CANDIDATE)
    return written (setStage .CANDIDATE) row

/-- The checks and the assignment `transition_stage` and `transition_adapter_stage` share. -/
def moveTo (row : ρ) (toStage : ModelStage) (tenantContext : Option TenantContext) :
    Session ρ := do
  raiseIf (toStage ∉ validTransitions (stage row)) (invalidTransition (stage row) toStage)
  if toStage ∈ promotionStages then requirePromotionAuthorization tenantContext
  flush row (setStage toStage)
  return written (setStage toStage) row

/-- `is_active = False`, then a flush. -/
def deactivate (row : ρ) : Session ρ := do
  flush row deactivated
  return written deactivated row

end

/-! ## Models -/

def registerCandidate (modelVersion : Registered ModelVersion) : Session ModelVersion := do
  let registered ← addCandidate modelVersion
  recordFor "model.register_candidate" registered.tenantId none "ModelVersion" registered.id
    [("name", some (.str registered.name)), ("version_label", some (.str registered.versionLabel))]
  return registered

/-- `_get_for_stage_mutation` -/
def getForStageMutation (db : ControlPlane) (modelVersionId : Uuid)
    (tenantContext : Option TenantContext) : Except PyError ModelVersion :=
  match tenantContext with
  | some ctx => requireAvailableForTenant db modelVersionId ctx
  | none =>
    match db.models.find? modelVersionId with
    | some modelVersion => .ok modelVersion
    | none => .error ⟨.ValueError, "ModelVersion " ++ uuidStr modelVersionId ++ " not found"⟩

def transitionStage (modelVersionId : Uuid) (toStage : ModelStage)
    (tenantContext : Option TenantContext) : Session ModelVersion := do
  let modelVersion ← read fun db => getForStageMutation db modelVersionId tenantContext
  let moved ← moveTo modelVersion toStage tenantContext
  recordFor "model.transition_stage" moved.tenantId tenantContext "ModelVersion" moved.id
    [("from_stage", some (.str modelVersion.stage.value)), ("to_stage", some (.str toStage.value))]
  return moved

def deactivateModelVersion (modelVersionId : Uuid) (tenantContext : Option TenantContext) :
    Session ModelVersion := do
  let modelVersion ← read fun db => getForStageMutation db modelVersionId tenantContext
  let modelVersion ← deactivate modelVersion
  recordFor "model.deactivate" modelVersion.tenantId tenantContext "ModelVersion" modelVersion.id
  return modelVersion

/-! ## Adapters -/

/-- A new adapter that names no tenant is given the caller's, so `adapter` names one. -/
def registerAdapterCandidate (adapter : Registered TenantModelAdapter) (baseModel : ModelVersion)
    (ctx : TenantContext) : Session TenantModelAdapter := do
  read fun _ => ensureCompatible adapter.id baseModel adapter.row
  raiseIf (adapter.row.tenantId ≠ ctx.tenantId) ⟨.TenantMismatchError,
    "Refusing to create TenantModelAdapter for tenant " ++ uuidStr adapter.row.tenantId ++
    " under TenantContext for tenant " ++ uuidStr ctx.tenantId⟩
  let registered ← addCandidate adapter
  recordFor "model.register_adapter_candidate" (some ctx.tenantId) (some ctx) "TenantModelAdapter"
    registered.id [("base_model_version_id", some (.str (uuidStr baseModel.id))),
      ("name", some (.str registered.name)),
      ("version_label", some (.str registered.versionLabel))]
  return registered

def transitionAdapterStage (adapterId : Uuid) (toStage : ModelStage) (ctx : TenantContext) :
    Session TenantModelAdapter := do
  let adapter ← read fun db => require TenantModelAdapter db adapterId ctx
  let moved ← moveTo adapter toStage (some ctx)
  recordFor "model.transition_adapter_stage" (some ctx.tenantId) (some ctx) "TenantModelAdapter"
    moved.id
    [("from_stage", some (.str adapter.stage.value)), ("to_stage", some (.str toStage.value))]
  return moved

def deactivateAdapter (adapterId : Uuid) (ctx : TenantContext) : Session TenantModelAdapter := do
  let adapter ← read fun db => require TenantModelAdapter db adapterId ctx
  let adapter ← deactivate adapter
  recordFor "model.deactivate_adapter" (some ctx.tenantId) (some ctx) "TenantModelAdapter"
    adapter.id
  return adapter

/-! ## Aliases -/

/-- The arguments of `set_alias` and `rollback_alias`, and the id drawn for a new alias. -/
structure AliasArgs where
  taskDefinitionId : Uuid
  modelVersionId : Uuid
  tenantModelAdapterId : Option Uuid := none
  aliasName : String := defaultAliasName
  tenantContext : Option TenantContext := none
  aliasId : Uuid

/-- The scope of the alias: the caller's tenant, or none for a shared one. -/
def AliasArgs.aliasTenantId (args : AliasArgs) : Option Uuid := args.tenantContext.map (·.tenantId)

/-- The model, if it can be aliased by the caller. -/
def modelForAlias (db : ControlPlane) (args : AliasArgs) : Except PyError ModelVersion :=
  let text (rest : String) : PyError :=
    ⟨.ValueError, "ModelVersion " ++ uuidStr args.modelVersionId ++ rest⟩
  match db.models.find? args.modelVersionId with
  | some modelVersion =>
    if !modelVersion.isActive ∨ modelVersion.stage = .ARCHIVED then
      .error (text " is inactive or archived and cannot be aliased")
    else if modelVersion.tenantId ≠ none ∧ modelVersion.tenantId ≠ args.aliasTenantId then
      .error (text " is not shared and does not belong to the aliasing tenant")
    else .ok modelVersion
  | none => .error (text " not found")

/-- The adapter, if one is named. -/
def adapterForAlias (db : ControlPlane) (args : AliasArgs) (modelVersion : ModelVersion) :
    Except PyError (Option TenantModelAdapter) :=
  match args.tenantModelAdapterId with
  | none => .ok none
  | some adapterId =>
    match args.tenantContext with
    | none => .error ⟨.ValueError, "A tenant-private adapter requires a tenant_context"⟩
    | some ctx => do
      let adapter ← require TenantModelAdapter db adapterId ctx
      ensureCompatible (some adapter.id) modelVersion adapter
      return some adapter

/-- Assigns the two pointers of an alias. -/
def repoint (modelVersionId : Uuid) (adapterId : Option Uuid) : Change ModelAlias :=
  ⟨fun a => { a with modelVersionId, tenantModelAdapterId := adapterId }, fun _ => rfl⟩

/-- The alias that is added when there is none of the name. -/
def newAlias (args : AliasArgs) (modelVersionId : Uuid) (adapterId : Option Uuid) : ModelAlias :=
  { id := args.aliasId, tenantId := args.aliasTenantId, taskDefinitionId := args.taskDefinitionId,
    aliasName := args.aliasName, modelVersionId, tenantModelAdapterId := adapterId }

/-- The upsert. -/
def upsertAlias (args : AliasArgs) (existing : Option ModelAlias) (modelVersionId : Uuid)
    (adapterId : Option Uuid) : Session ModelAlias :=
  match existing with
  | some existing => do
    flush existing (repoint modelVersionId adapterId)
    return written (repoint modelVersionId adapterId) existing
  | none => do
    insert (newAlias args modelVersionId adapterId)
    return newAlias args modelVersionId adapterId

/-- `_point_alias` -/
def pointAlias (args : AliasArgs) (action : String) : Session ModelAlias := do
  requirePromotionAuthorization args.tenantContext
  let modelVersion ← read fun db => modelForAlias db args
  let adapter ← read fun db => adapterForAlias db args modelVersion
  let existing ← read fun db => find db args.taskDefinitionId args.aliasName args.aliasTenantId
  let pointed ← upsertAlias args existing modelVersion.id (adapter.map (·.id))
  recordFor action args.aliasTenantId args.tenantContext "ModelAlias" pointed.id
    [("alias_name", some (.str args.aliasName)),
      ("model_version_id", some (.str (uuidStr modelVersion.id))),
      ("tenant_model_adapter_id", adapter.map fun a => .str (uuidStr a.id))]
  return pointed

def setAlias (args : AliasArgs) : Session ModelAlias := pointAlias args "model.set_alias"

def rollbackAlias (args : AliasArgs) : Session ModelAlias := pointAlias args "model.rollback_alias"

def resolveAlias (db : ControlPlane) (taskDefinitionId : Uuid) (ctx : TenantContext)
    (aliasName : String := defaultAliasName) : Except PyError (Option ModelAlias) :=
  resolveForTenant db taskDefinitionId aliasName ctx

/-! ## Runs -/

inductive Call where
  | registerCandidate (modelVersion : Registered ModelVersion)
  | transitionStage (modelVersionId : Uuid) (toStage : ModelStage)
      (tenantContext : Option TenantContext)
  | deactivateModelVersion (modelVersionId : Uuid) (tenantContext : Option TenantContext)
  | registerAdapterCandidate (adapter : Registered TenantModelAdapter) (baseModel : ModelVersion)
      (ctx : TenantContext)
  | transitionAdapterStage (adapterId : Uuid) (toStage : ModelStage) (ctx : TenantContext)
  | deactivateAdapter (adapterId : Uuid) (ctx : TenantContext)
  | setAlias (args : AliasArgs)
  | rollbackAlias (args : AliasArgs)

inductive Response where
  | model (modelVersion : ModelVersion)
  | adapter (adapter : TenantModelAdapter)
  | modelAlias (pointed : ModelAlias)
  deriving DecidableEq

def perform : Call → Session Response
  | .registerCandidate modelVersion => .model <$> registerCandidate modelVersion
  | .transitionStage id toStage ctx => .model <$> transitionStage id toStage ctx
  | .deactivateModelVersion id ctx => .model <$> deactivateModelVersion id ctx
  | .registerAdapterCandidate adapter base ctx =>
    .adapter <$> registerAdapterCandidate adapter base ctx
  | .transitionAdapterStage id toStage ctx => .adapter <$> transitionAdapterStage id toStage ctx
  | .deactivateAdapter id ctx => .adapter <$> deactivateAdapter id ctx
  | .setAlias args => .modelAlias <$> setAlias args
  | .rollbackAlias args => .modelAlias <$> rollbackAlias args

/-- The database after a call, whether it succeeds or raises. -/
def step (db : ControlPlane) (call : Call) : ControlPlane := after (perform call) db

def Succeeds (db : ControlPlane) (call : Call) : Prop := ∃ r db', perform call db = .ok (r, db')

end Registry

end HermesRpt
