import HermesRpt.Common.Repository

/-!
# HermesRpt.Registry.Repository

The repositories of the model registry. Models and aliases may be shared, so their repositories are
not tenant-scoped.

* `Versioned` : a model with a version counter, and `Staged` one with a stage.
* `flush`     : the `UPDATE` of a row that was read, and `insert` a new row.
* `getAvailableForTenant`, `getProductionModel` : a tenant sees its own models and the shared ones.
* `getActiveForBaseModel` : the adapter of a tenant on a base model.
* `find`, `resolveForTenant` : the alias of a name; a tenant's own wins over the shared one.
-/

namespace HermesRpt

namespace Registry

open Keyed (Table HasKey)
open Transaction

/-- Columns that are assigned; the primary key is none of them. -/
structure Change (ρ : Type) [HasKey ρ Uuid] where
  set : ρ → ρ
  key_set : ∀ r, HasKey.key (set r) = (HasKey.key r : Uuid)

/-- A model with `version_id_col`. -/
class Versioned (ρ : Type) [HasKey ρ Uuid] where
  tableName : String
  table : ControlPlane → Table ρ
  setTable : ControlPlane → Table ρ → ControlPlane
  setTable_table : ∀ db, setTable db (table db) = db
  table_setTable : ∀ db t, table (setTable db t) = t
  version : ρ → Nat
  atVersion : Nat → Change ρ
  /-- Foreign keys of a new row. -/
  admits : ControlPlane → ρ → Bool

instance : Versioned ModelVersion where
  tableName := "model_versions"
  table := (·.models)
  setTable db t := { db with models := t }
  setTable_table _ := rfl
  table_setTable _ _ := rfl
  version := (·.version)
  atVersion n := ⟨fun m => { m with version := n }, fun _ => rfl⟩
  admits db m := m.taskDefinitionId ∈ db.tasks

instance : Versioned TenantModelAdapter where
  tableName := "tenant_model_adapters"
  table := (·.adapters)
  setTable db t := { db with adapters := t }
  setTable_table _ := rfl
  table_setTable _ _ := rfl
  version := (·.version)
  atVersion n := ⟨fun a => { a with version := n }, fun _ => rfl⟩
  admits db a := (db.models.find? a.baseModelVersionId).isSome

instance : Versioned ModelAlias where
  tableName := "model_aliases"
  table := (·.aliases)
  setTable db t := { db with aliases := t }
  setTable_table _ := rfl
  table_setTable _ _ := rfl
  version := (·.version)
  atVersion n := ⟨fun a => { a with version := n }, fun _ => rfl⟩
  admits db a := a.taskDefinitionId ∈ db.tasks && (db.models.find? a.modelVersionId).isSome &&
    a.tenantModelAdapterId.all fun id => (db.adapters.find? id).isSome

/-- A model with a lifecycle stage. -/
class Staged (ρ : Type) [HasKey ρ Uuid] extends Versioned ρ where
  stage : ρ → ModelStage
  isActive : ρ → Bool
  /-- The tenant the row belongs to; a shared row has none. -/
  owner : ρ → Option Uuid
  setStage : ModelStage → Change ρ
  deactivated : Change ρ
  /-- The row, but for its stage, its activity and its version. -/
  frozen : ρ → ρ
  stage_setStage : ∀ s r, stage ((setStage s).set r) = s
  stage_deactivated : ∀ r, stage (deactivated.set r) = stage r
  stage_atVersion : ∀ n r, stage ((atVersion n).set r) = stage r
  isActive_setStage : ∀ s r, isActive ((setStage s).set r) = isActive r
  isActive_deactivated : ∀ r, isActive (deactivated.set r) = false
  isActive_atVersion : ∀ n r, isActive ((atVersion n).set r) = isActive r
  frozen_setStage : ∀ s r, frozen ((setStage s).set r) = frozen r
  frozen_deactivated : ∀ r, frozen (deactivated.set r) = frozen r
  frozen_atVersion : ∀ n r, frozen ((atVersion n).set r) = frozen r
  owner_frozen : ∀ r, owner (frozen r) = owner r
  key_frozen : ∀ r, (HasKey.key (frozen r) : Uuid) = HasKey.key r

instance : Staged ModelVersion where
  stage := (·.stage)
  isActive := (·.isActive)
  owner := (·.tenantId)
  setStage stage := ⟨fun m => { m with stage }, fun _ => rfl⟩
  deactivated := ⟨fun m => { m with isActive := false }, fun _ => rfl⟩
  frozen m := { m with stage := .CANDIDATE, isActive := true, version := 0 }
  stage_setStage _ _ := rfl
  stage_deactivated _ := rfl
  stage_atVersion _ _ := rfl
  isActive_setStage _ _ := rfl
  isActive_deactivated _ := rfl
  isActive_atVersion _ _ := rfl
  frozen_setStage _ _ := rfl
  frozen_deactivated _ := rfl
  frozen_atVersion _ _ := rfl
  owner_frozen _ := rfl
  key_frozen _ := rfl

instance : Staged TenantModelAdapter where
  stage := (·.stage)
  isActive := (·.isActive)
  owner a := some a.tenantId
  setStage stage := ⟨fun a => { a with stage }, fun _ => rfl⟩
  deactivated := ⟨fun a => { a with isActive := false }, fun _ => rfl⟩
  frozen a := { a with stage := .CANDIDATE, isActive := true, version := 0 }
  stage_setStage _ _ := rfl
  stage_deactivated _ := rfl
  stage_atVersion _ _ := rfl
  isActive_setStage _ _ := rfl
  isActive_deactivated _ := rfl
  isActive_atVersion _ _ := rfl
  frozen_setStage _ _ := rfl
  frozen_deactivated _ := rfl
  frozen_atVersion _ _ := rfl
  owner_frozen _ := rfl
  key_frozen _ := rfl

section

variable {ρ : Type} [HasKey ρ Uuid] [Versioned ρ]

open Versioned Keyed.HasKey

/-- `UPDATE` of a row that has another version by now. -/
def staleRow (tableName : String) : PyError :=
  ⟨.StaleDataError, "UPDATE statement on table '" ++ tableName ++
    "' expected to update 1 row(s); 0 were matched."⟩

/-- The row an update leaves, of a row whose version was read as `n`. -/
def flushed (change : Change ρ) (n : Nat) (row : ρ) : ρ := (atVersion (n + 1)).set (change.set row)

theorem key_flushed (change : Change ρ) (n : Nat) (row : ρ) :
    key (flushed change n row) = (key row : Uuid) := by
  rw [flushed, Change.key_set, Change.key_set]

/-- `BaseRepository.add`: the first version of a new row. -/
def insert (row : ρ) : Session Unit :=
  write fun db =>
    if admits db row then
      match (table db : Table ρ).insert? ((atVersion 1).set row) with
      | some t => .ok (setTable db t)
      | none => .error integrityError
    else .error integrityError

theorem insert_ok {row : ρ} {db db' : ControlPlane} {u : Unit} :
    insert row db = .ok (u, db') ↔ admits db row = true ∧
      ∃ t, (table db : Table ρ).insert? ((atVersion 1).set row) = some t ∧ db' = setTable db t := by
  rw [insert, write_ok]
  by_cases ha : admits db row = true
  · cases hi : (table db : Table ρ).insert? ((atVersion 1).set row) <;> simp [ha, eq_comm]
  · simp [ha]

variable [DecidableEq ρ]

/-- The row after the flush; nothing is sent when no column changes. -/
def written (change : Change ρ) (row : ρ) : ρ :=
  if change.set row = row then row else flushed change (version row) row

theorem key_written (change : Change ρ) (row : ρ) : key (written change row) = (key row : Uuid) := by
  unfold written
  split
  · rfl
  · exact key_flushed change _ row

/-- `UPDATE … SET … WHERE id = ? AND version = ?` of the row that was read. -/
def flush (row : ρ) (change : Change ρ) : Session Unit :=
  write fun db =>
    if change.set row = row then .ok db
    else match (table db : Table ρ).find? (key row) with
      | some stored =>
        if version stored = version row then
          .ok (setTable db ((table db).update (key row) (flushed change (version row))
            (key_flushed change _)))
        else .error (staleRow (tableName ρ))
      | none => .error (staleRow (tableName ρ))

/-- An update of a row that is as it was read succeeds. -/
theorem flush_ok {row : ρ} {change : Change ρ} {db db' : ControlPlane} {u : Unit}
    (hrow : (table db : Table ρ).find? (key row) = some row) :
    flush row change db = .ok (u, db') ↔
      db' = setTable db ((table db).update (key row) (written change) (key_written change)) := by
  have honly : ∀ r ∈ (table db : Table ρ), (key r : Uuid) = key row → r = row := by
    intro r hr hk
    rw [← hk, Table.find?_key hr] at hrow
    exact Option.some.inj hrow
  rw [flush, write_ok]
  by_cases hsame : change.set row = row
  · have hid : (table db : Table ρ).update (key row) (written change) (key_written change) =
        table db := by
      refine Table.update_eq_self fun r hr hk => ?_
      rw [honly r hr hk, written, if_pos hsame]
    rw [if_pos hsame, hid, setTable_table, Except.ok.injEq, eq_comm]
  · have hwritten : (table db : Table ρ).update (key row) (flushed change (version row))
        (key_flushed change _) = (table db).update (key row) (written change) (key_written change) := by
      refine Table.update_congr fun r hr hk => ?_
      rw [honly r hr hk, written, if_neg hsame]
    simp only [if_neg hsame, hrow, hwritten, if_true]
    rw [Except.ok.injEq, eq_comm]

end

/-! ## Models -/

def getAvailableForTenant (db : ControlPlane) (modelVersionId : Uuid) (ctx : TenantContext) :
    Option ModelVersion :=
  match db.models.find? modelVersionId with
  | some modelVersion =>
    if modelVersion.tenantId ≠ none ∧ modelVersion.tenantId ≠ some ctx.tenantId then none
    else some modelVersion
  | none => none

def requireAvailableForTenant (db : ControlPlane) (modelVersionId : Uuid) (ctx : TenantContext) :
    Except PyError ModelVersion :=
  match getAvailableForTenant db modelVersionId ctx with
  | some modelVersion => .ok modelVersion
  | none => .error ⟨.TenantMismatchError, "ModelVersion " ++ uuidStr modelVersionId ++
      " not available for tenant " ++ uuidStr ctx.tenantId⟩

/-- The models a request of the tenant may be served, among `rows`. -/
def productionCandidates (rows : List ModelVersion) (taskDefinitionId : Uuid) (ctx : TenantContext) :
    List ModelVersion :=
  rows.filter fun m => m.taskDefinitionId = taskDefinitionId ∧ m.stage = .PRODUCTION ∧
    m.isActive ∧ (m.tenantId = none ∨ m.tenantId = some ctx.tenantId)

/-- `get_production_model`, when the database returns the rows in the order of `rows`. -/
def getProductionModel (rows : List ModelVersion) (taskDefinitionId : Uuid) (ctx : TenantContext) :
    Option ModelVersion :=
  let candidates := productionCandidates rows taskDefinitionId ctx
  match candidates.filter fun m => m.tenantId = some ctx.tenantId with
  | m :: _ => some m
  | [] => candidates.head?

/-- `scalar_one_or_none()` -/
def scalarOneOrNone {α : Type} : List α → Except PyError (Option α)
  | [] => .ok none
  | [a] => .ok (some a)
  | _ => .error ⟨.MultipleResultsFound,
      "Multiple rows were found when one or none was required"⟩

def getActiveForBaseModel (db : ControlPlane) (baseModelVersionId : Uuid) (ctx : TenantContext) :
    Except PyError (Option TenantModelAdapter) :=
  scalarOneOrNone (db.adapters.rows.filter fun a => a.baseModelVersionId = baseModelVersionId ∧
    a.tenantId = ctx.tenantId ∧ a.stage = .PRODUCTION ∧ a.isActive)

/-! ## Aliases -/

/-- The aliases of one name in one scope. -/
def aliasesNamed (db : ControlPlane) (taskDefinitionId : Uuid) (aliasName : String)
    (tenantId : Option Uuid) : List ModelAlias :=
  db.aliases.rows.filter fun a => a.taskDefinitionId = taskDefinitionId ∧
    a.aliasName = aliasName ∧ a.tenantId = tenantId

def find (db : ControlPlane) (taskDefinitionId : Uuid) (aliasName : String)
    (tenantId : Option Uuid) : Except PyError (Option ModelAlias) :=
  scalarOneOrNone (aliasesNamed db taskDefinitionId aliasName tenantId)

def resolveForTenant (db : ControlPlane) (taskDefinitionId : Uuid) (aliasName : String)
    (ctx : TenantContext) : Except PyError (Option ModelAlias) := do
  match ← find db taskDefinitionId aliasName (some ctx.tenantId) with
  | some tenantSpecific => return some tenantSpecific
  | none => find db taskDefinitionId aliasName none

theorem requireAvailableForTenant_ok {db : ControlPlane} {id : Uuid} {ctx : TenantContext}
    {m : ModelVersion} : requireAvailableForTenant db id ctx = .ok m ↔
      db.models.find? id = some m ∧ (m.tenantId = none ∨ m.tenantId = some ctx.tenantId) := by
  unfold requireAvailableForTenant getAvailableForTenant
  cases h : db.models.find? id with
  | none => simp
  | some row =>
    by_cases hv : row.tenantId ≠ none ∧ row.tenantId ≠ some ctx.tenantId
    · simp only [if_pos hv, Option.some.injEq]
      constructor
      · intro h
        cases h
      · rintro ⟨rfl, ht | ht⟩
        · exact absurd ht hv.1
        · exact absurd ht hv.2
    · simp only [if_neg hv, Except.ok.injEq, Option.some.injEq]
      constructor
      · rintro rfl
        exact ⟨rfl, by tauto⟩
      · rintro ⟨rfl, -⟩
        rfl

theorem scalarOneOrNone_ok {α : Type} {l : List α} {r : Option α} :
    scalarOneOrNone l = .ok r ↔ l = r.toList := by
  match l with
  | [] => cases r <;> simp [scalarOneOrNone]
  | [a] => cases r <;> simp [scalarOneOrNone]
  | a :: b :: l => cases r <;> simp [scalarOneOrNone]

end Registry

end HermesRpt
