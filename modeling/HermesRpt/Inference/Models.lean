import HermesRpt.Common.Repository
import HermesRpt.Lib.Index

/-!
# HermesRpt.Inference.Models

The tables of the prediction endpoint and what its sessions write to them.

* `PredictionRequest`, `PredictionResult` : the rows; the unique constraints on a tenant's key and on
  the request of a result belong to the tables.
* `Database`    : the control plane with the tables of predictions.
* `Write`       : one statement of a flush.
* `applyWrites` : the database after the statements, unless a constraint refuses one.
-/

namespace HermesRpt

namespace Inference

open Keyed (HasKey Indexed)

inductive PredictionStatus where
  | PENDING | COMPLETED | FAILED
  deriving DecidableEq, Repr

/-- The catalogue of tasks; it is not owned by a tenant. -/
structure PredictionTaskDefinition where
  id : Uuid
  taskKey : String

structure PredictionRequest where
  id : Uuid
  tenantId : Uuid
  taskDefinitionId : Uuid
  businessReference : String
  predictionTime : DateTime
  status : PredictionStatus := .PENDING
  idempotencyKey : Option String
  requestedByPrincipalId : Uuid
  correlationId : Option String
  deriving DecidableEq

structure PredictionExplanation where
  factor : String
  direction : String
  deriving DecidableEq

structure PredictionOutput where
  delayProbability : ℚ
  riskLevel : String
  deriving DecidableEq

structure PredictionResult where
  id : Uuid
  tenantId : Uuid
  predictionRequestId : Uuid
  modelVersionId : Uuid
  /-- Not nullable. -/
  mappingVersionId : Option Uuid
  featureVersion : String
  output : PredictionOutput
  explanations : List PredictionExplanation
  deriving DecidableEq

instance : HasKey PredictionTaskDefinition Uuid := ⟨PredictionTaskDefinition.id⟩
instance : HasKey PredictionRequest Uuid := ⟨PredictionRequest.id⟩
instance : HasKey PredictionResult Uuid := ⟨PredictionResult.id⟩

/-- `uq_prediction_request_idempotency` -/
def PredictionRequest.index (request : PredictionRequest) : Option (Uuid × String) :=
  request.idempotencyKey.map fun key => (request.tenantId, key)

/-- A result's request has no other result. -/
def PredictionResult.index (result : PredictionResult) : Option Uuid := some result.predictionRequestId

def PredictionTaskDefinition.index (definition : PredictionTaskDefinition) : Option String :=
  some definition.taskKey

structure Database where
  plane : ControlPlane := {}
  taskDefinitions : Indexed PredictionTaskDefinition PredictionTaskDefinition.index := Indexed.empty
  requests : Indexed PredictionRequest PredictionRequest.index := Indexed.empty
  results : Indexed PredictionResult PredictionResult.index := Indexed.empty

/-- The instant as a timestamp column gives it back. -/
def inUtc (t : DateTime) : DateTime := { micros := t.micros }

/-! ## Writes -/

inductive Write where
  | addRequest (request : PredictionRequest)
  | setStatus (requestId : Uuid) (status : PredictionStatus)
  | addResult (result : PredictionResult)
  | audit (event : AuditEvent)

/-- The references of a result and its mapping version exist. -/
def Database.refers (db : Database) (result : PredictionResult) : Bool :=
  (db.requests.table.find? result.predictionRequestId).isSome &&
    (db.plane.models.find? result.modelVersionId).isSome &&
    match result.mappingVersionId with
    | some mappingVersionId => (db.plane.versions.find? mappingVersionId).isSome
    | none => false

/-- The row of the request with another status. -/
def Database.setStatus (db : Database) (requestId : Uuid) (status : PredictionStatus) : Database :=
  { db with
    requests := db.requests.update requestId (fun r => { r with status }) (fun _ => rfl)
      (fun _ => rfl) }

def Database.log (db : Database) (events : List AuditEvent) : Database :=
  { db with plane := { db.plane with audit := db.plane.audit ++ events } }

def addRequest (db : Database) (request : PredictionRequest) : Except PyError Database :=
  match db.taskDefinitions.table.find? request.taskDefinitionId, db.requests.insert? request with
  | some _, some requests => .ok { db with requests }
  | _, _ => .error integrityError

def updateStatus (db : Database) (requestId : Uuid) (status : PredictionStatus) :
    Except PyError Database :=
  match db.requests.table.find? requestId with
  | some _ => .ok (db.setStatus requestId status)
  | none => .error ⟨.StaleDataError, "UPDATE statement on table 'prediction_requests' expected " ++
      "to update 1 row(s); 0 were matched."⟩

def addResult (db : Database) (result : PredictionResult) : Except PyError Database :=
  match db.refers result, db.results.insert? result with
  | true, some results => .ok { db with results }
  | _, _ => .error integrityError

def applyWrite (db : Database) : Write → Except PyError Database
  | .addRequest request => addRequest db request
  | .setStatus requestId status => updateStatus db requestId status
  | .addResult result => addResult db result
  | .audit event => .ok (db.log [event])

def applyWrites (db : Database) (writes : List Write) : Except PyError Database :=
  writes.foldlM applyWrite db

/-! ## What a statement does -/

section

variable {db db' : Database} {request : PredictionRequest} {result : PredictionResult}

theorem applyWrites_append (db : Database) (ws ws' : List Write) :
    applyWrites db (ws ++ ws') = applyWrites db ws >>= fun db => applyWrites db ws' :=
  List.foldlM_append

theorem addRequest_ok (h : addRequest db request = .ok db') :
    ∃ requests, db.requests.insert? request = some requests ∧ db' = { db with requests } := by
  unfold addRequest at h
  split at h
  · rename_i requests _ hins
    cases h
    exact ⟨requests, hins, rfl⟩
  · cases h

theorem addResult_ok (h : addResult db result = .ok db') :
    ∃ results, db.results.insert? result = some results ∧ db' = { db with results } := by
  unfold addResult at h
  split at h
  · rename_i results _ hins
    cases h
    exact ⟨results, hins, rfl⟩
  · cases h

theorem updateStatus_ok {requestId : Uuid} {status : PredictionStatus}
    (h : updateStatus db requestId status = .ok db') :
    db' = db.setStatus requestId status := by
  unfold updateStatus at h
  split at h
  · cases h
    rfl
  · cases h

/-- The status of a row that was just added. -/
theorem mem_setStatus {requests : Indexed PredictionRequest PredictionRequest.index}
    (hrequests : db'.requests = requests) (h : db.requests.insert? request = some requests)
    (status : PredictionStatus) (r : PredictionRequest) :
    r ∈ (db'.setStatus request.id status).requests ↔
      r ∈ db.requests ∨ r = { request with status } := by
  subst hrequests
  exact Indexed.mem_update_insert? (f := fun r : PredictionRequest => { r with status })
    (fun _ => rfl) (fun _ => rfl) h

/-- Events are always accepted. -/
theorem applyWrites_audit (db : Database) (events : List AuditEvent) :
    applyWrites db (events.map .audit) = .ok (db.log events) := by
  induction events generalizing db with
  | nil => simp [applyWrites, Database.log, pure, Except.pure]
  | cons event events ih =>
    have hcons : applyWrites db ((event :: events).map .audit) =
        applyWrites (db.log [event]) (events.map .audit) := rfl
    rw [hcons, ih]
    simp [Database.log]

end

end Inference

end HermesRpt
