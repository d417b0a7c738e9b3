import HermesRpt.Common.Repository
import HermesRpt.Mappings.Validation
import HermesRpt.Ontology.V1
import Mathlib.Data.List.MinMax
import Mathlib.Order.Nat

/-!
# HermesRpt.Mappings.Service

The mapping lifecycle: draft, pending validation, approved, active, deprecated or rejected, and
the suspension of a mapping by drift. Every method is a transaction; a method that raises leaves the
database as it was. The ids of new rows are drawn by the caller of the model.

An attribute assignment reaches the database at the next flush, and only if a value changed; then
the row's version counter moves (`flushMapping`).
-/

namespace HermesRpt

namespace Mappings

open Keyed (Table)
open Transaction
open Schemas

/-- `InvalidMappingStateTransitionError(current, action)`. In a session that loaded the row anew
`current` is the plain string of the state, which has no `value`: the call then raises
`AttributeError` in place of this error. -/
def invalidTransition (current : MappingState) (action : String) : PyError :=
  ⟨.InvalidMappingStateTransitionError,
    "Cannot " ++ action ++ " a mapping in state " ++ reprStr current.value⟩

/-- The row of `mapping`, replaced by `mapping`. -/
def setMapping (db : ControlPlane) (mapping : SchemaMapping) : ControlPlane :=
  { db with
    mappings := db.mappings.update mapping.id (fun r => { mapping with id := r.id }) (fun _ => rfl) }

/-- The flushed row: its version counter moves when an attribute changed. -/
def bumped (old new : SchemaMapping) : SchemaMapping :=
  if new = old then old else { new with version := old.version + 1 }

/-- `UPDATE schema_mappings … WHERE id = ? AND version = ?`, issued when an attribute changed. -/
def flushMapping (old new : SchemaMapping) : Session Unit :=
  write fun db =>
    if new = old then .ok db
    else match db.mappings.find? old.id with
      | some row =>
        if row.version = old.version then .ok (setMapping db (bumped old new))
        else .error ⟨.StaleDataError, "UPDATE statement on table 'schema_mappings' expected to " ++
          "update 1 row(s); 0 were matched."⟩
      | none => .error ⟨.StaleDataError, "UPDATE statement on table 'schema_mappings' expected " ++
          "to update 1 row(s); 0 were matched."⟩

/-- The versions of a mapping that the tenant can see. -/
def versionsOf (db : ControlPlane) (mapping : SchemaMapping) (ctx : TenantContext) :
    List MappingVersion :=
  (listForTenant MappingVersion db ctx).filter (·.schemaMappingId = mapping.id)

/-- `_latest_version_for` -/
def latestVersionFor (db : ControlPlane) (mapping : SchemaMapping) (ctx : TenantContext) :
    Except PyError MappingVersion :=
  match (versionsOf db mapping ctx).argmax (·.versionNumber) with
  | some version => .ok version
  | none => .error ⟨.ValueError, "max() iterable argument is empty"⟩

def createDraft (ctx : TenantContext) (schemaSnapshotId : Uuid) (document : MappingDocument)
    (ontologyVersion : String) (isAiSuggested : Bool) (confidence : Option ℚ)
    (explanation : Option String) (mappingId versionId : Uuid) :
    Session (SchemaMapping × MappingVersion) := do
  let mapping : SchemaMapping := {
    id := mappingId, tenantId := ctx.tenantId, entityName := document.entity, schemaSnapshotId,
    ontologyVersion, state := .DRAFT }
  add ctx mapping
  let version : MappingVersion := {
    id := versionId, tenantId := ctx.tenantId, schemaMappingId := mapping.id, versionNumber := 1,
    mappingDocument := document, isAiSuggested, confidence, explanation,
    createdByUserId := some ctx.principalId }
  add ctx version
  record ctx "mapping.create_draft" .SUCCESS "SchemaMapping" mapping.id
    [("entity", some (.str document.entity)), ("is_ai_suggested", some (.bool isAiSuggested))]
  return (mapping, version)

/-- The number of the next version of a mapping. -/
def nextNumber (db : ControlPlane) (mapping : SchemaMapping) (ctx : TenantContext) : Nat :=
  ((versionsOf db mapping ctx).map (·.versionNumber)).foldr max 0 + 1

def createNewVersion (ctx : TenantContext) (mappingId : Uuid) (document : MappingDocument)
    (isAiSuggested : Bool) (confidence : Option ℚ) (explanation : Option String)
    (versionId : Uuid) : Session MappingVersion := do
  let mapping ← read fun db => require SchemaMapping db mappingId ctx
  let number ← read fun db => .ok (nextNumber db mapping ctx)
  let version : MappingVersion := {
    id := versionId, tenantId := ctx.tenantId, schemaMappingId := mapping.id,
    versionNumber := number, mappingDocument := document, isAiSuggested, confidence, explanation,
    createdByUserId := some ctx.principalId }
  add ctx version
  flushMapping mapping { mapping with state := .DRAFT }
  record ctx "mapping.create_new_version" .SUCCESS "SchemaMapping" mapping.id
    [("version_number", some (.int number))]
  return version

/-- What `submit_for_validation` checks of a version: the snapshot the mapping was created with
must be the tenant's, and the document must be valid for the ontology entity and the columns of its
source table there. When the table is not in the snapshot, no column is checked. -/
def validateVersion (std : Stdlib) (db : ControlPlane) (mapping : SchemaMapping)
    (version : MappingVersion) (ctx : TenantContext) : Except PyError Unit := do
  let snapshot ← require SchemaSnapshot db mapping.schemaSnapshotId ctx
  let document := version.mappingDocument
  let ontology ← Ontology.getOntology mapping.ontologyVersion
  let ontologyEntity ← ontology.getEntity mapping.entityName
  let introspection ← snapshot.introspection
  let table := introspection.table? document.source.qualifiedName
  let availableColumns := table.map fun t => t.columns.map (·.name)
  validateMappingDocument std document ontologyEntity availableColumns none none

def submitForValidation (std : Stdlib) (ctx : TenantContext) (mappingId : Uuid) :
    Session SchemaMapping := do
  let mapping ← read fun db => require SchemaMapping db mappingId ctx
  raiseIf (mapping.state ≠ .DRAFT) (invalidTransition mapping.state "submit for validation")
  let version ← read fun db => latestVersionFor db mapping ctx
  read fun db => validateVersion std db mapping version ctx
  let mapping' := { mapping with state := .PENDING_VALIDATION }
  flushMapping mapping mapping'
  record ctx "mapping.submit_for_validation" .SUCCESS "SchemaMapping" mapping.id
  return mapping'

/-- The row of a version, with its approver. -/
def setApproval (db : ControlPlane) (versionId userId : Uuid) : ControlPlane :=
  { db with
    versions := db.versions.update versionId (fun r => { r with approvedByUserId := some userId })
      (fun _ => rfl) }

/-- `version.approved_by_user_id = …`, which must name a user. -/
def flushApproval (version : MappingVersion) (userId : Uuid) : Session Unit :=
  write fun db =>
    if version.approvedByUserId ≠ some userId ∧ userId ∉ db.users then .error integrityError
    else .ok (setApproval db version.id userId)

def approve (ctx : TenantContext) (mappingId : Uuid) : Session SchemaMapping := do
  let mapping ← read fun db => require SchemaMapping db mappingId ctx
  raiseIf (mapping.state ≠ .PENDING_VALIDATION) (invalidTransition mapping.state "approve")
  let version ← read fun db => latestVersionFor db mapping ctx
  flushApproval version ctx.principalId
  let mapping' := { mapping with state := .APPROVED }
  flushMapping mapping mapping'
  record ctx "mapping.approve" .SUCCESS "SchemaMapping" mapping.id
  return mapping'

def activate (ctx : TenantContext) (mappingId : Uuid) : Session SchemaMapping := do
  let mapping ← read fun db => require SchemaMapping db mappingId ctx
  raiseIf (mapping.state ≠ .APPROVED) (invalidTransition mapping.state "activate")
  let version ← read fun db => latestVersionFor db mapping ctx
  let mapping' := { mapping with
    activeVersionId := some version.id, state := .ACTIVE, suspendedDueToDrift := false }
  flushMapping mapping mapping'
  record ctx "mapping.activate" .SUCCESS "SchemaMapping" mapping.id
    [("active_version_id", some (.str (uuidStr version.id)))]
  return mapping'

/-- `deprecate` -/
def deprecateMapping (ctx : TenantContext) (mappingId : Uuid) : Session SchemaMapping := do
  let mapping ← read fun db => require SchemaMapping db mappingId ctx
  raiseIf (mapping.state ≠ .ACTIVE) (invalidTransition mapping.state "deprecate")
  let mapping' := { mapping with state := .DEPRECATED }
  flushMapping mapping mapping'
  record ctx "mapping.deprecate" .SUCCESS "SchemaMapping" mapping.id
  return mapping'

def reject (ctx : TenantContext) (mappingId : Uuid) : Session SchemaMapping := do
  let mapping ← read fun db => require SchemaMapping db mappingId ctx
  raiseIf (mapping.state ≠ .DRAFT ∧ mapping.state ≠ .PENDING_VALIDATION)
    (invalidTransition mapping.state "reject")
  let mapping' := { mapping with state := .REJECTED }
  flushMapping mapping mapping'
  record ctx "mapping.reject" .SUCCESS "SchemaMapping" mapping.id
  return mapping'

/-- The one method production code is meant to call. -/
def getProductionVersion (db : ControlPlane) (ctx : TenantContext) (mappingId : Uuid) :
    Except PyError MappingVersion := do
  let mapping ← require SchemaMapping db mappingId ctx
  match mapping.state, mapping.activeVersionId, mapping.suspendedDueToDrift with
  | .ACTIVE, some activeVersionId, false => require MappingVersion db activeVersionId ctx
  | state, _, suspended => .error ⟨.MappingNotProductionReadyError,
      "Mapping " ++ uuidStr mappingId ++ " is not production-ready (state=" ++ state.value ++
      ", suspended=" ++ pyBool suspended ++ ")"⟩

/-- One pass of the loop of `suspend_affected_by_drift`. -/
def suspendIfAffected (ctx : TenantContext) (snapshot : SchemaSnapshot) (mapping : SchemaMapping) :
    Session (List SchemaMapping) :=
  match mapping.activeVersionId with
  | none => return []
  | some activeVersionId =>
    if mapping.state ≠ .ACTIVE then return []
    else do
      let version ← read fun db => require MappingVersion db activeVersionId ctx
      let qualifiedSource := version.mappingDocument.source.qualifiedName
      if qualifiedSource ∈ snapshot.affectedTables then do
        let mapping' := { mapping with suspendedDueToDrift := true }
        flushMapping mapping mapping'
        record ctx "mapping.suspend_due_to_drift" .SUCCESS "SchemaMapping" mapping.id
          [("snapshot_id", some (.str (uuidStr snapshot.id))),
            ("source_table", some (.str qualifiedSource))] none
        return [mapping']
      else return []

def suspendAffectedByDrift (ctx : TenantContext) (snapshot : SchemaSnapshot) :
    Session (List SchemaMapping) := do
  if snapshot.affectedTables = [] then return []
  else do
    let allMappings ← read fun db => .ok (listForTenant SchemaMapping db ctx)
    gather (suspendIfAffected ctx snapshot) allMappings

end Mappings

end HermesRpt
