import HermesRpt.Connectors.Models
import HermesRpt.Lib.Transaction
import HermesRpt.Mappings.Models
import HermesRpt.Registry.Models
import HermesRpt.Schemas.Models

/-!
# HermesRpt.Common.Repository

The control-plane database and its tenant-scoped repositories.

* `ControlPlane` : the tables the modelled services read and write. Primary keys are constraints of
  the tables themselves; unique and foreign-key constraints are checked when a row is added.
* `Stored`       : a tenant-owned model, with its table.
* `get`, `require`, `listForTenant`, `add` : the repository, scoped to a tenant context.

A service runs in a transaction (`Tx`): a raise rolls the whole call back.
-/

namespace HermesRpt

open Keyed (Table HasKey)
open Transaction
open Connectors Schemas Mappings Registry

/-- The trusted tenant and principal of a call. -/
structure TenantContext where
  tenantId : Uuid
  principalId : Uuid
  scopes : List String := []
  correlationId : Option String := none
  deriving DecidableEq

inductive AuditOutcome where
  | SUCCESS | DENIED | ERROR
  deriving DecidableEq, Repr

structure AuditEvent where
  tenantId : Option Uuid
  principalId : Option Uuid
  principalType : String := "unknown"
  action : String
  resourceType : Option String
  resourceId : Option Uuid
  outcome : AuditOutcome
  correlationId : Option String
  details : List (String × Option Value)
  deriving DecidableEq

structure ControlPlane where
  /-- The ids of `users`. -/
  users : List Uuid := []
  credentials : Table DatabaseCredentialReference := Table.empty
  connections : Table CustomerDatabaseConnection := Table.empty
  snapshots : Table SchemaSnapshot := Table.empty
  mappings : Table SchemaMapping := Table.empty
  versions : Table MappingVersion := Table.empty
  /-- The ids of `prediction_task_definitions`. -/
  tasks : List Uuid := []
  models : Table ModelVersion := Table.empty
  adapters : Table TenantModelAdapter := Table.empty
  aliases : Table ModelAlias := Table.empty
  audit : List AuditEvent := []

/-- A transaction of the control plane. -/
abbrev Session (α : Type) := Tx ControlPlane PyError α

/-- The text of a constraint violation is the driver's. -/
def integrityError : PyError := ⟨.IntegrityError, ""⟩

/-- A model that mixes in `TenantOwnedMixin`. -/
class Stored (ρ : Type) [HasKey ρ Uuid] where
  modelName : String
  tenantId : ρ → Uuid
  table : ControlPlane → Table ρ
  setTable : ControlPlane → Table ρ → ControlPlane
  /-- Unique and foreign-key constraints of a new row. -/
  admits : ControlPlane → ρ → Bool

instance : Stored DatabaseCredentialReference where
  modelName := "DatabaseCredentialReference"
  tenantId := (·.tenantId)
  table := (·.credentials)
  setTable db t := { db with credentials := t }
  admits _ _ := true

instance : Stored CustomerDatabaseConnection where
  modelName := "CustomerDatabaseConnection"
  tenantId := (·.tenantId)
  table := (·.connections)
  setTable db t := { db with connections := t }
  admits db c := (db.credentials.find? c.credentialReferenceId).isSome

/-- `uq_schema_snapshot_sequence` and the reference to the connection, whoever owns it. -/
instance : Stored SchemaSnapshot where
  modelName := "SchemaSnapshot"
  tenantId := (·.tenantId)
  table := (·.snapshots)
  setTable db t := { db with snapshots := t }
  admits db s := (db.connections.find? s.connectionId).isSome &&
    db.snapshots.rows.all fun r => !(r.tenantId = s.tenantId ∧ r.connectionId = s.connectionId ∧
      r.sequenceNumber = s.sequenceNumber)

instance : Stored SchemaMapping where
  modelName := "SchemaMapping"
  tenantId := (·.tenantId)
  table := (·.mappings)
  setTable db t := { db with mappings := t }
  admits db m := (db.snapshots.find? m.schemaSnapshotId).isSome

/-- `uq_mapping_version_number` and the references to the mapping and the creator. -/
instance : Stored MappingVersion where
  modelName := "MappingVersion"
  tenantId := (·.tenantId)
  table := (·.versions)
  setTable db t := { db with versions := t }
  admits db v := (db.mappings.find? v.schemaMappingId).isSome &&
    v.createdByUserId.all (· ∈ db.users) &&
    db.versions.rows.all fun r => !(r.tenantId = v.tenantId ∧
      r.schemaMappingId = v.schemaMappingId ∧ r.versionNumber = v.versionNumber)

instance : Stored TenantModelAdapter where
  modelName := "TenantModelAdapter"
  tenantId := (·.tenantId)
  table := (·.adapters)
  setTable db t := { db with adapters := t }
  admits db a := (db.models.find? a.baseModelVersionId).isSome

section Repository

variable {ρ : Type} [HasKey ρ Uuid] [Stored ρ]

open Stored

/-- `TenantScopedRepository.get`: a row of another tenant is not found. -/
def get (db : ControlPlane) (id : Uuid) (ctx : TenantContext) : Option ρ :=
  match (table db : Table ρ).find? id with
  | some entity => if tenantId entity ≠ ctx.tenantId then none else some entity
  | none => none

/-- The text of `TenantMismatchError`. -/
def notFound (modelName : String) (id : Uuid) (ctx : TenantContext) : PyError :=
  ⟨.TenantMismatchError,
    modelName ++ " " ++ uuidStr id ++ " not found for tenant " ++ uuidStr ctx.tenantId⟩

def require (ρ : Type) [HasKey ρ Uuid] [Stored ρ] (db : ControlPlane) (id : Uuid)
    (ctx : TenantContext) : Except PyError ρ :=
  match get db id ctx with
  | some entity => .ok entity
  | none => .error (notFound (modelName ρ) id ctx)

/-- `list_for_tenant`, in the order of insertion. -/
def listForTenant (ρ : Type) [HasKey ρ Uuid] [Stored ρ] (db : ControlPlane) (ctx : TenantContext) :
    List ρ := (table db : Table ρ).rows.filter fun r => tenantId r = ctx.tenantId

/-- `add`: a new row under the caller's tenant. The id of `entity` is the one that was drawn. -/
def add (ctx : TenantContext) (entity : ρ) : Session Unit :=
  write fun db =>
    if tenantId entity ≠ ctx.tenantId then
      .error ⟨.TenantMismatchError, "Refusing to create " ++ modelName ρ ++ " for tenant " ++
        uuidStr (tenantId entity) ++ " under TenantContext for tenant " ++ uuidStr ctx.tenantId⟩
    else if admits db entity then
      match (table db : Table ρ).insert? entity with
      | some t => .ok (setTable db t)
      | none => .error integrityError
    else .error integrityError

theorem get_eq_some {db : ControlPlane} {id : Uuid} {ctx : TenantContext} {entity : ρ} :
    get db id ctx = some entity ↔
      (table db : Table ρ).find? id = some entity ∧ tenantId entity = ctx.tenantId := by
  unfold get
  cases (table db : Table ρ).find? id with
  | none => simp
  | some e =>
    simp only [ne_eq, ite_not, Option.ite_none_right_eq_some, Option.some.injEq]
    constructor
    · rintro ⟨ht, rfl⟩; exact ⟨rfl, ht⟩
    · rintro ⟨rfl, ht⟩; exact ⟨ht, rfl⟩

theorem require_ok {db : ControlPlane} {id : Uuid} {ctx : TenantContext} {entity : ρ} :
    require ρ db id ctx = .ok entity ↔
      (table db : Table ρ).find? id = some entity ∧ tenantId entity = ctx.tenantId := by
  rw [← get_eq_some, require]
  cases (get db id ctx : Option ρ) <;> simp

theorem mem_listForTenant {db : ControlPlane} {ctx : TenantContext} {entity : ρ} :
    entity ∈ listForTenant ρ db ctx ↔
      entity ∈ (table db : Table ρ) ∧ tenantId entity = ctx.tenantId := by
  simp [listForTenant, Table.mem_def]

theorem add_ok {ctx : TenantContext} {entity : ρ} {db db' : ControlPlane} {u : Unit} :
    add ctx entity db = .ok (u, db') ↔
      tenantId entity = ctx.tenantId ∧ admits db entity = true ∧
        ∃ t, (table db : Table ρ).insert? entity = some t ∧ db' = setTable db t := by
  rw [add, write_ok]
  by_cases ht : tenantId entity = ctx.tenantId
  · by_cases ha : admits db entity = true
    · cases hi : (table db : Table ρ).insert? entity <;> simp [ht, ha, eq_comm]
    · simp [ht, ha]
  · simp [ht]

end Repository

/-- `AuditService.record`, in the caller's session. -/
def record (ctx : TenantContext) (action : String) (outcome : AuditOutcome)
    (resourceType : String) (resourceId : Uuid) (details : List (String × Option Value) := [])
    (principalId : Option Uuid := some ctx.principalId) : Session Unit :=
  write fun db => .ok { db with audit := db.audit ++ [{
    tenantId := some ctx.tenantId, principalId, action, outcome, resourceType := some resourceType,
    resourceId := some resourceId, correlationId := ctx.correlationId, details }] }

theorem record_ok {ctx : TenantContext} {action : String} {outcome : AuditOutcome}
    {resourceType : String} {resourceId : Uuid} {details : List (String × Option Value)}
    {principalId : Option Uuid} {db db' : ControlPlane} {u : Unit} :
    record ctx action outcome resourceType resourceId details principalId db = .ok (u, db') ↔
      db' = { db with audit := db.audit ++ [{
        tenantId := some ctx.tenantId, principalId, action, outcome,
        resourceType := some resourceType, resourceId := some resourceId,
        correlationId := ctx.correlationId, details }] } := by
  rw [record, write_ok, Except.ok.injEq, eq_comm]

end HermesRpt
