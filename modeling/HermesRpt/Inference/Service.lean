import HermesRpt.Features.Service
import HermesRpt.Inference.ModelLoading
import HermesRpt.Inference.Models
import HermesRpt.Registry.Repository
import HermesRpt.Transformer.Encoding
import Mathlib.Algebra.Order.Ring.Unbundled.Rat
import Mathlib.Algebra.Order.Group.Unbundled.Abs

/-!
# HermesRpt.Inference.Service

The prediction endpoint. A request awaits the control-plane database, the model loader and the
customer databases, and other requests run while it waits.

* `Predictors`  : what a loaded model computes.
* `Shared`      : the committed database, the model loader and the connection pools.
* `Await`       : what a request awaits, and `Reply` what it gets. A load and an extraction are one
  effect each: loads run under a lock, and no prediction changes what an extraction reads.
* `predict`     : `PredictionService.predict`.
* `program`     : the endpoint: the commit of its session, or the response to what was raised.
-/

namespace HermesRpt

namespace Inference

namespace Service

open Keyed (Dict)
open Registry Features Transformer Connectors
open Async Code

/-! ## Scores -/

variable {libs : Libraries}

/-- Third-party code that works on a loaded model. -/
structure Predictors (libs : Libraries) where
  /-- `float(estimator.predict_proba([feature_row])[0][1])`; a value without a number is a NaN. -/
  sklearnPredictProba : libs.Estimator → List (Option ℚ) → Except PyError ℚ
  /-- `coef_[0]` of the pipeline's classifier, if it has coefficients. -/
  coefficients : libs.Estimator → Option (List ℚ)
  torchPredictProba : libs.HermesRPT01 → EncodedBatch → Except PyError ℚ
  maxRecordsPerRelation : libs.HermesRPTConfig → Nat
  categoricalVocabSize : libs.HermesRPTConfig → Int

/-- `_FEATURE_NAMES` -/
def featureNames : List String := deliveryDelayRiskContract.features.map (·.name)

/-- `_MEDIUM_THRESHOLD`, the float that `0.3` stands for. -/
def mediumThreshold : ℚ := 5404319552844595 / 18014398509481984

/-- `_HIGH_THRESHOLD`, the float that `0.6` stands for. -/
def highThreshold : ℚ := 5404319552844595 / 9007199254740992

def riskLevelFor (probability : ℚ) : String :=
  if probability ≥ highThreshold then "high"
  else if probability ≥ mediumThreshold then "medium"
  else "low"

/-- `feature_importance` of a scikit-learn model. -/
def featureImportance (coefficients : Option (List ℚ)) :
    Except PyError (Option (List (String × ℚ))) :=
  match coefficients with
  | none => .ok none
  | some cs =>
    if cs.length = featureNames.length then .ok (some (featureNames.zip cs))
    else .error ⟨.ValueError, "zip() argument 2 is " ++
      (if cs.length < featureNames.length then "shorter" else "longer") ++ " than argument 1"⟩

/-- A feature's contribution to the score, if it has a value. -/
def contribution (std : Stdlib) (features : FeatureRow) (importance : String × ℚ) :
    Except PyError (Option (String × ℚ)) :=
  match (features.get? importance.1).getD none with
  | none => .ok none
  | some value => do return some (importance.1, std.mulFloat importance.2 (← value.toFloat std))

def generateExplanations (std : Stdlib) (featureImportance : Option (List (String × ℚ)))
    (features : FeatureRow) : Except PyError (List PredictionExplanation) := do
  let contributions ← (featureImportance.getD []).filterMapM (contribution std features)
  let sorted := contributions.insertionSort fun a b => |b.2| ≤ |a.2|
  return ((sorted.take 3).filter (·.2 ≠ 0)).map fun c =>
    ⟨c.1, if c.2 > 0 then "increases_risk" else "decreases_risk"⟩

/-- The feature row of a scikit-learn model; a missing value is a NaN. -/
def featureRow (std : Stdlib) (features : FeatureRow) : Except PyError (List (Option ℚ)) :=
  featureNames.mapM fun name =>
    match (features.get? name).getD none with
    | none => .ok none
    | some value => do return some (← value.toFloat std)

/-- What a prediction is stored with. -/
structure Score where
  probability : ℚ
  explanations : List PredictionExplanation
  mappingVersionId : Option Uuid

def scoreExample (std : Stdlib) (predictors : Predictors libs) (loaded : LoadedHermesRPTModel libs)
    (ex : RelationalExample) : Except PyError Score := do
  let encoded ← encodeBatch std [ex] (predictors.maxRecordsPerRelation loaded.config)
    (predictors.categoricalVocabSize loaded.config)
  let probability ← predictors.torchPredictProba loaded.model encoded
  let explanations ← generateExplanations std none Keyed.Table.empty
  return { probability, explanations, mappingVersionId := ex.targetMappingVersionId }

def scoreFeatures (std : Stdlib) (predictors : Predictors libs) (loaded : LoadedModel libs)
    (batch : FeatureBatch) : Except PyError Score := do
  let row ← featureRow std batch.features
  let probability ← predictors.sklearnPredictProba loaded.estimator row
  let importance ← featureImportance (predictors.coefficients loaded.estimator)
  let explanations ← generateExplanations std importance batch.features
  return { probability, explanations,
           mappingVersionId := some batch.lineage.targetMappingVersionId }

/-! ## Effects -/

/-- A request to the endpoint, with the ids it draws and what it will find outside. -/
structure PredictCall where
  ctx : TenantContext
  principalType : String := "human"
  businessReference : String
  predictionTime : DateTime
  idempotencyKey : Option String := none
  requestId : Uuid
  resultId : Uuid
  env : Environment
  around : Surroundings
  /-- The order in which the database returns the candidates of `get_production_model`. -/
  order : List ModelVersion → List ModelVersion := id

structure Shared (libs : Libraries) where
  db : Database := {}
  loading : Inference.Shared libs
  pool : PoolRegistry := Keyed.Table.empty

inductive Await (libs : Libraries) where
  /-- `get_by_idempotency_key` -/
  | requestByKey (idempotencyKey : String) (ctx : TenantContext)
  /-- `get_by_request_id` -/
  | resultByRequest (requestId : Uuid) (ctx : TenantContext)
  | getModelVersion (id : Uuid)
  | taskByKey (taskKey : String)
  | productionModel (taskDefinitionId : Uuid) (call : PredictCall)
  | load (modelVersion : ModelVersion) (call : PredictCall)
  | buildExample (call : PredictCall) (maxRecordsPerRelation : Nat)
  | extract (call : PredictCall)
  | flush (writes : List Write)
  | commit
  /-- An exception handler's event, written and committed in a session of its own. -/
  | recordDenied (event : AuditEvent)

/-- An exception of the loader or of an extraction is raised where it is awaited; the events are
those that an extraction recorded before. -/
@[reducible] def Reply (libs : Libraries) : Await libs → Type
  | .requestByKey .. => Option PredictionRequest
  | .resultByRequest .. => Option PredictionResult
  | .getModelVersion .. => Option ModelVersion
  | .taskByKey .. => Option PredictionTaskDefinition
  | .productionModel .. => Option ModelVersion
  | .load .. => Except PyError (AnyLoadedModel libs)
  | .buildExample .. => Except PyError RelationalExample × List AuditEvent
  | .extract .. => Except PyError FeatureBatch × List AuditEvent
  | _ => Unit

def written : (Σ e, Reply libs e) → List Write
  | ⟨.flush writes, _⟩ => writes
  | _ => []

/-- What the session has flushed and not committed. -/
def pending (tr : Trace (Reply libs)) : List Write := tr.flatMap written

/-- A session reads what is committed when it reads. A flush is checked against what is committed
now, and so is the commit. One that is refused ends the request: a session whose flush has failed
refuses everything after it. -/
def handle (tr : Trace (Reply libs)) :
    (e : Await libs) → Shared libs → Except PyError (Reply libs e × Shared libs)
  | .requestByKey idempotencyKey ctx, s =>
    .ok (s.db.requests.lookup (ctx.tenantId, idempotencyKey), s)
  | .resultByRequest requestId ctx, s =>
    .ok ((s.db.results.lookup requestId).filter (·.tenantId = ctx.tenantId), s)
  | .getModelVersion id, s => .ok (s.db.plane.models.find? id, s)
  | .taskByKey taskKey, s => .ok (s.db.taskDefinitions.lookup taskKey, s)
  | .productionModel taskDefinitionId call, s =>
    .ok (getProductionModel (call.order s.db.plane.models.rows) taskDefinitionId call.ctx, s)
  | .load modelVersion call, s =>
    let (result, _, loading) := respond call.around modelVersion s.loading
    .ok (result, { s with loading })
  | .buildExample call maxRecordsPerRelation, s =>
    let (result, state) := Transformer.buildExample call.env s.db.plane call.ctx
      call.businessReference call.predictionTime none maxRecordsPerRelation { pool := s.pool }
    .ok ((result, state.audit), { s with pool := state.pool })
  | .extract call, s =>
    let (result, state) := Features.extract call.env s.db.plane deliveryDelayRiskContract call.ctx
      call.businessReference call.predictionTime { pool := s.pool }
    .ok ((result, state.audit), { s with pool := state.pool })
  | .flush writes, s => (applyWrites s.db (pending tr ++ writes)).map fun _ => ((), s)
  | .commit, s => (applyWrites s.db (pending tr)).map fun db => ((), { s with db })
  | .recordDenied event, s => .ok ((), { s with db := s.db.log [event] })

/-! ## The service -/

/-- A coroutine of a request. -/
abbrev Handling (libs : Libraries) (α : Type) := Code (Reply libs) PyError α

/-- Awaits an effect; other requests run before it is performed. -/
abbrev suspend (e : Await libs) : Handling libs (Reply libs e) := ofEffect e

structure PredictionResponse where
  predictionId : Uuid
  businessReference : String
  delayProbability : ℚ
  riskLevel : String
  modelVersion : String
  featureVersion : String
  predictionTime : DateTime
  explanations : List PredictionExplanation
  deriving DecidableEq

def noProductionModel (taskKey : String) : PyError :=
  ⟨.NoProductionModelError,
    "No PRODUCTION model version is available for task " ++ reprStr taskKey⟩

def predictionTaskNotConfigured (taskKey : String) : PyError :=
  ⟨.PredictionTaskNotConfiguredError,
    "No PredictionTaskDefinition registered for " ++ reprStr taskKey⟩

/-- The response that a stored request and its result give again. -/
def replay (request : PredictionRequest) (result : PredictionResult)
    (modelVersion : Option ModelVersion) : PredictionResponse where
  predictionId := result.id
  businessReference := request.businessReference
  delayProbability := result.output.delayProbability
  riskLevel := result.output.riskLevel
  modelVersion := (modelVersion.map (·.name)).getD "unknown"
  featureVersion := result.featureVersion
  predictionTime := request.predictionTime
  explanations := result.explanations

/-- `_cached_response` -/
def cachedResponse (idempotencyKey : String) (ctx : TenantContext) :
    Handling libs (Option PredictionResponse) := do
  match ← suspend (.requestByKey idempotencyKey ctx) with
  | none => return none
  | some request =>
    if request.status ≠ .COMPLETED then return none
    else match ← suspend (.resultByRequest request.id ctx) with
      | none => return none
      | some result =>
        let modelVersion ← suspend (.getModelVersion result.modelVersionId)
        return some (replay request result modelVersion)

/-- The row that a prediction begins with. -/
def PredictCall.request (call : PredictCall) (definition : PredictionTaskDefinition) :
    PredictionRequest :=
  { id := call.requestId, tenantId := call.ctx.tenantId, taskDefinitionId := definition.id,
    businessReference := call.businessReference, predictionTime := inUtc call.predictionTime,
    idempotencyKey := call.idempotencyKey, requestedByPrincipalId := call.ctx.principalId,
    correlationId := call.ctx.correlationId }

/-- The row that a prediction ends with. -/
def PredictCall.result (call : PredictCall) (modelVersion : ModelVersion) (score : Score) :
    PredictionResult :=
  { id := call.resultId, tenantId := call.ctx.tenantId, predictionRequestId := call.requestId,
    modelVersionId := modelVersion.id, mappingVersionId := score.mappingVersionId,
    featureVersion := deliveryDelayRiskContract.version,
    output := ⟨score.probability, riskLevelFor score.probability⟩,
    explanations := score.explanations }

/-- The event `prediction.execute`. -/
def PredictCall.event (call : PredictCall) (outcome : AuditOutcome)
    (details : List (String × Option Value)) : AuditEvent :=
  { tenantId := some call.ctx.tenantId, principalId := some call.ctx.principalId,
    principalType := call.principalType, action := "prediction.execute",
    resourceType := some "PredictionRequest", resourceId := some call.requestId, outcome,
    correlationId := call.ctx.correlationId, details }

def PredictCall.successEvent (call : PredictCall) (modelVersion : ModelVersion) : AuditEvent :=
  call.event .SUCCESS [("task_key", some (.str deliveryDelayRiskContract.taskKey)),
    ("model_version_id", some (.str (uuidStr modelVersion.id)))]

/-- The response to a prediction that was made for this request. -/
def PredictCall.response (call : PredictCall) (modelVersion : ModelVersion) (score : Score) :
    PredictionResponse :=
  { predictionId := call.resultId, businessReference := call.businessReference,
    delayProbability := score.probability, riskLevel := riskLevelFor score.probability,
    modelVersion := modelVersion.name, featureVersion := deliveryDelayRiskContract.version,
    predictionTime := call.predictionTime, explanations := score.explanations }

/-- The score of a loaded model. An extraction's events are flushed in the request's session, also
when it raises. -/
def score (predictors : Predictors libs) (call : PredictCall) :
    AnyLoadedModel libs → Handling libs Score
  | .hermesRpt loaded => do
    let (ex, events) ← suspend
      (.buildExample call (predictors.maxRecordsPerRelation loaded.config))
    suspend (.flush (events.map .audit))
    let ex ← ofExcept ex
    ofExcept (scoreExample call.env.std predictors loaded ex)
  | .sklearn loaded => do
    let (batch, events) ← suspend (.extract call)
    suspend (.flush (events.map .audit))
    let batch ← ofExcept batch
    ofExcept (scoreFeatures call.env.std predictors loaded batch)

/-- The body of the `try`. -/
def attempt (predictors : Predictors libs) (call : PredictCall)
    (definition : PredictionTaskDefinition) : Handling libs PredictionResponse := do
  match ← suspend (.productionModel definition.id call) with
  | none => raise (noProductionModel deliveryDelayRiskContract.taskKey)
  | some modelVersion =>
    let loaded ← suspend (.load modelVersion call)
    let loaded ← ofExcept loaded
    let score ← score predictors call loaded
    suspend (.flush [.addResult (call.result modelVersion score)])
    suspend (.flush [.setStatus call.requestId .COMPLETED])
    suspend (.flush [.audit (call.successEvent modelVersion)])
    return call.response modelVersion score

/-- The `except` branch. -/
def recordFailure (call : PredictCall) (exc : PyError) : Handling libs PredictionResponse := do
  suspend (.flush [.setStatus call.requestId .FAILED])
  suspend (.flush [.audit (call.event .ERROR [])])
  raise exc

/-- A prediction without a stored one to replay. -/
def predictAnew (predictors : Predictors libs) (call : PredictCall) :
    Handling libs PredictionResponse := do
  match ← suspend (.taskByKey deliveryDelayRiskContract.taskKey) with
  | none => raise (predictionTaskNotConfigured deliveryDelayRiskContract.taskKey)
  | some definition =>
    suspend (.flush [.addRequest (call.request definition)])
    (attempt predictors call definition).caught >>= fun
      | .ok response => pure response
      | .error exc => recordFailure call exc

/-- The key the lookup is made with: an empty one is none. -/
def PredictCall.key (call : PredictCall) : Option String :=
  call.idempotencyKey.filter (· ≠ "")

def predict (predictors : Predictors libs) (call : PredictCall) :
    Handling libs PredictionResponse :=
  match call.key with
  | none => predictAnew predictors call
  | some idempotencyKey => cachedResponse idempotencyKey call.ctx >>= fun
    | some cached => pure cached
    | none => predictAnew predictors call

/-! ## The endpoint -/

inductive Response where
  | success (response : PredictionResponse)
  | failure (statusCode : Nat) (detail : String)
  deriving DecidableEq

/-- The router's mapping of exceptions, and the default handlers. -/
def failureOf (exc : PyError) : Response :=
  match exc.cls with
  | .TargetRowNotFoundError => .failure 404 "Trip not found"
  | .TargetRecordNotFoundError => .failure 404 "Trip not found"
  | .TargetMappingUnavailableError => .failure 409 exc.message
  | .NoProductionModelError => .failure 503 exc.message
  | .PredictionTaskNotConfiguredError => .failure 503 exc.message
  | .ArtifactIntegrityError => .failure 503 "Configured model failed integrity checks"
  | .CircuitOpenError => .failure 503 "Model loading temporarily unavailable"
  | .TimeoutExceededError => .failure 504 "Model loading timed out"
  | .TenantMismatchError => .failure 404 "Not found."
  | _ => .failure 500 "Internal Server Error"

/-- The event of `tenant_mismatch_handler`. -/
def PredictCall.mismatchEvent (call : PredictCall) : AuditEvent :=
  { tenantId := some call.ctx.tenantId, principalId := none,
    action := "tenant.cross_tenant_access_attempt", resourceType := none, resourceId := none,
    outcome := .DENIED, correlationId := call.ctx.correlationId,
    details := [("path", some (.str "/v1/predictions/delivery-delay"))] }

/-- What becomes of an exception that leaves the endpoint. -/
def handleException (call : PredictCall) (exc : PyError) : Handling libs Response := do
  if exc.cls = .TenantMismatchError then suspend (.recordDenied call.mismatchEvent)
  return failureOf exc

def program (predictors : Predictors libs) (call : PredictCall) : Handling libs Response :=
  (predict predictors call).caught >>= fun
    | .ok response => suspend .commit >>= fun _ => pure (.success response)
    | .error exc => handleException call exc

/-- A request on its own: its result and the state it leaves. -/
def answer (predictors : Predictors libs) (call : PredictCall) (s : Shared libs) :
    Except PyError Response × Trace (Reply libs) × Shared libs :=
  serve handle (fun _ => none) [] (program predictors call) s

end Service

end Inference

end HermesRpt
