import HermesRpt.Common.AuditTrail
import HermesRpt.Registry.Isolation

/-!
# HermesRpt.Registry.AuditTrail

The audit trail of the model registry, read back. Every call that succeeds writes one event, a call
that raises writes none, and the events alone tell the stage and the activity of each model and
adapter and the target of each alias.

* `tellStatus`, `tellPointer` : what an event tells of its subject, by its action and its details.
* `Recorded`  : the event of a call that succeeded.
* `Told`      : the tables are what the trail tells.
* `Plain`     : the call registers a new active object, or one as it is stored.
* `registry_audited` : every run keeps both.
-/

namespace HermesRpt

namespace Registry

open Keyed (Table HasKey)
open Keyed.HasKey
open Transaction Machine EventLog
open Versioned Staged

/-! ## What an event tells -/

def stageNamed (text : String) : Option ModelStage :=
  [ModelStage.CANDIDATE, .STAGING, .PRODUCTION, .ARCHIVED].find? (·.value = text)

@[simp] theorem stageNamed_value (stage : ModelStage) : stageNamed stage.value = some stage := by
  cases stage <;> decide

structure Status where
  stage : ModelStage
  isActive : Bool
  deriving DecidableEq

/-- The actions of models and of adapters that say the same. -/
def registrations : List String := ["model.register_candidate", "model.register_adapter_candidate"]

def transitions : List String := ["model.transition_stage", "model.transition_adapter_stage"]

def deactivations : List String := ["model.deactivate", "model.deactivate_adapter"]

/-- A registration does not say whether the object is active; a new one is. -/
def tellStatus (event : AuditEvent) (known : Option Status) : Option Status :=
  if event.action ∈ registrations then some ⟨.CANDIDATE, (known.map (·.isActive)).getD true⟩
  else if event.action ∈ transitions then
    match (detailText event "to_stage").bind stageNamed with
    | some stage => known.map fun status => { status with stage }
    | none => known
  else if event.action ∈ deactivations then known.map fun status => { status with isActive := false }
  else known

/-- The target of an alias, as an event gives it. -/
structure Pointer where
  aliasName : String
  modelVersionId : String
  tenantModelAdapterId : Option String
  deriving DecidableEq

def tellPointer (event : AuditEvent) (known : Option Pointer) : Option Pointer :=
  match detailText event "alias_name", detailText event "model_version_id" with
  | some aliasName, some modelVersionId =>
    some ⟨aliasName, modelVersionId, detailText event "tenant_model_adapter_id"⟩
  | _, _ => known

def pointerOf (a : ModelAlias) : Pointer :=
  ⟨a.aliasName, uuidStr a.modelVersionId, a.tenantModelAdapterId.map uuidStr⟩

def AliasArgs.pointer (args : AliasArgs) : Pointer :=
  ⟨args.aliasName, uuidStr args.modelVersionId, args.tenantModelAdapterId.map uuidStr⟩

/-! ## What a call records -/

def Call.action : Call → String
  | .registerCandidate _ => "model.register_candidate"
  | .transitionStage .. => "model.transition_stage"
  | .deactivateModelVersion .. => "model.deactivate"
  | .registerAdapterCandidate .. => "model.register_adapter_candidate"
  | .transitionAdapterStage .. => "model.transition_adapter_stage"
  | .deactivateAdapter .. => "model.deactivate_adapter"
  | .setAlias _ => "model.set_alias"
  | .rollbackAlias _ => "model.rollback_alias"

def Call.resourceType : Call → String
  | .registerCandidate _ | .transitionStage .. | .deactivateModelVersion .. => "ModelVersion"
  | .registerAdapterCandidate .. | .transitionAdapterStage .. | .deactivateAdapter .. =>
    "TenantModelAdapter"
  | .setAlias _ | .rollbackAlias _ => "ModelAlias"

def Response.id : Response → Uuid
  | .model m => m.id
  | .adapter a => a.id
  | .modelAlias a => a.id

/-- The event of a call that succeeded: it names the caller, the resource and the action. -/
structure Recorded (call : Call) (response : Response) (event : AuditEvent) : Prop where
  outcome : event.outcome = .SUCCESS
  action : event.action = call.action
  resourceType : event.resourceType = some call.resourceType
  resourceId : event.resourceId = some response.id
  principalId : event.principalId = (callContext call).map (·.principalId)
  correlationId : event.correlationId = (callContext call).bind (·.correlationId)

/-- The rows that `op` is about, and what is known of them after it. -/
def Operation.target {ρ : Type} [HasKey ρ Uuid] : Operation ρ → Uuid
  | .register object => key object.row
  | .move id _ _ => id
  | .deactivate id _ => id

def Operation.told {ρ : Type} (known : Option Status) : Operation ρ → Option Status
  | .register _ => some ⟨.CANDIDATE, (known.map (·.isActive)).getD true⟩
  | .move _ toStage _ => known.map fun status => { status with stage := toStage }
  | .deactivate _ _ => known.map fun status => { status with isActive := false }

section

variable {ρ : Type} [HasKey ρ Uuid] [Staged ρ]

def statusOf (row : ρ) : Status := ⟨stage row, isActive row⟩

/-- The object is new and active, or it is a row as it is stored. -/
def PlainObject (t : Table ρ) : Operation ρ → Prop
  | .register (.new row _) => isActive row = true
  | .register (.loaded row) => row ∈ t
  | _ => True

@[simp] theorem statusOf_candidate (row : ρ) : statusOf (candidate row) = ⟨.CANDIDATE, isActive row⟩ := by
  simp [statusOf, candidate, isActive_atVersion, isActive_setStage, stage_atVersion, stage_setStage]

variable [DecidableEq ρ]

@[simp] theorem statusOf_written_setStage (s : ModelStage) (row : ρ) :
    statusOf (written (setStage s) row) = { statusOf row with stage := s } := by
  simp [statusOf]

@[simp] theorem statusOf_written_deactivated (row : ρ) :
    statusOf (written deactivated row) = { statusOf row with isActive := false } := by
  simp [statusOf]

/-- What an operation that succeeded did to the statuses: it returns its row, and only that row has
another status. -/
structure Restated (op : Operation ρ) (t t' : Table ρ) (r : ρ) : Prop where
  target : (key r : Uuid) = op.target
  status : ∀ id, (t'.find? id).map statusOf =
    if op.target = id then op.told ((t.find? id).map statusOf) else (t.find? id).map statusOf

/-- An update of the operation's row. -/
theorem restated_update (op : Operation ρ) {t : Table ρ} {r : ρ} {change : Change ρ}
    (hkey : (key r : Uuid) = op.target)
    (htold : (t.find? op.target).map (statusOf ∘ written change) =
      op.told ((t.find? op.target).map statusOf)) :
    Restated op t (t.update op.target (written change) (key_written change)) r := by
  refine ⟨hkey, fun id => ?_⟩
  rw [Table.find?_update]
  by_cases hid : op.target = id
  · subst hid
    rw [if_pos rfl, if_pos rfl, Option.map_map, htold]
  · rw [if_neg (Ne.symm hid), if_neg hid]

variable {db db' : ControlPlane} {row r : ρ}

theorem addCandidate_restated {object : Registered ρ}
    (hplain : PlainObject (table db) (.register object)) (h : addCandidate object db = .ok (r, db')) :
    Restated (.register object) (table db) (table db') r := by
  cases object with
  | new row idDrawn =>
    obtain ⟨db₁, hi, h⟩ := unit_bind_ok.1 h
    obtain ⟨-, t, ht, rfl⟩ := insert_ok.1 hi
    cases pure_ok.1 h
    have hactive : isActive row = true := hplain
    have hinsert : (table db : Table ρ).insert? (candidate row) = some t := ht
    have hnew := (Table.insert?_eq_some.1 hinsert).1
    rw [key_candidate] at hnew
    refine ⟨key_candidate row, fun id => ?_⟩
    show _ = if (key row : Uuid) = id then _ else _
    rw [table_setTable, Table.find?_insert? hinsert, key_candidate]
    by_cases hid : (key row : Uuid) = id
    · subst hid
      rw [if_pos rfl, if_pos rfl, hnew, Option.map_some, statusOf_candidate, hactive]
      rfl
    · rw [if_neg hid, if_neg hid]
  | loaded row =>
    obtain ⟨db₁, hf, h⟩ := unit_bind_ok.1 h
    cases pure_ok.1 h
    have hrow : (table db : Table ρ).find? (key row) = some row := Table.find?_key hplain
    rw [flush_ok hrow] at hf
    subst hf
    rw [table_setTable]
    refine restated_update (.register (.loaded row)) (key_written _ row) ?_
    show Option.map _ ((table db : Table ρ).find? (key row)) = Operation.told (Option.map _ ((table db : Table ρ).find? (key row))) _
    rw [hrow, Option.map_some, Option.map_some, Function.comp_apply, statusOf_written_setStage]
    rfl

/-- The assignment is all that a move which passed its checks does. -/
theorem moveTo_flushed {toStage : ModelStage} {tenantContext : Option TenantContext}
    (h : moveTo row toStage tenantContext db = .ok (r, db')) :
    r = written (setStage toStage) row ∧ flush row (setStage toStage) db = .ok ((), db') := by
  obtain ⟨-, h⟩ := raiseIf_bind_ok.1 h
  have hassign : (do flush row (setStage toStage); return written (setStage toStage) row : Session ρ) db =
      .ok (r, db') := by
    by_cases hp : toStage ∈ promotionStages
    · rw [if_pos hp] at h
      exact (raiseIf_bind_ok.1 h).2
    · rwa [if_neg hp] at h
  obtain ⟨db₁, hf, hassign⟩ := unit_bind_ok.1 hassign
  cases pure_ok.1 hassign
  exact ⟨rfl, hf⟩

theorem moveTo_restated {id : Uuid} {toStage : ModelStage} {tenantContext : Option TenantContext}
    (hrow : (table db : Table ρ).find? id = some row)
    (h : moveTo row toStage tenantContext db = .ok (r, db')) :
    Restated (.move id toStage tenantContext) (table db) (table db') r := by
  obtain rfl : key row = id := (Table.find?_eq_some.1 hrow).2
  obtain ⟨rfl, hf⟩ := moveTo_flushed h
  rw [flush_ok hrow] at hf
  subst hf
  rw [table_setTable]
  refine restated_update (.move (key row) toStage tenantContext) (key_written _ row) ?_
  rw [Operation.told, Option.map_map]
  congr 1
  funext row
  simp

theorem deactivate_restated {id : Uuid} (c : Option TenantContext)
    (hrow : (table db : Table ρ).find? id = some row) (h : deactivate row db = .ok (r, db')) :
    Restated (.deactivate id c) (table db) (table db') r := by
  obtain rfl : key row = id := (Table.find?_eq_some.1 hrow).2
  obtain ⟨db₁, hf, h⟩ := unit_bind_ok.1 h
  cases pure_ok.1 h
  rw [flush_ok hrow] at hf
  subst hf
  rw [table_setTable]
  refine restated_update (.deactivate (key row) c) (key_written _ row) ?_
  rw [Operation.told, Option.map_map]
  congr 1
  funext row
  simp

end

/-! ## The event of a call -/

section

variable {db db' : ControlPlane}

/-- The method that records an event last. -/
theorem recorded_event {α : Type} {x : Session α} {action : String} {tenantId : α → Option Uuid}
    {tenantContext : Option TenantContext} {resourceType : String} {resourceId : α → Uuid}
    {details : α → List (String × Option Value)} {a : α}
    (h : (do
      let y ← x
      recordFor action (tenantId y) tenantContext resourceType (resourceId y) (details y)
      return y : Session α) db = .ok (a, db')) :
    ∃ db₁, x db = .ok (a, db₁) ∧ db' = { db₁ with audit := db₁.audit ++ [{
      tenantId := tenantId a, principalId := tenantContext.map (·.principalId), action,
      outcome := .SUCCESS, resourceType := some resourceType, resourceId := some (resourceId a),
      correlationId := tenantContext.bind (·.correlationId), details := details a }] } := by
  obtain ⟨y, db₁, hx, h⟩ := bind_ok.1 h
  obtain ⟨db₂, hr, h⟩ := unit_bind_ok.1 h
  cases pure_ok.1 h
  rw [recordFor, write_ok] at hr
  cases hr
  exact ⟨db₁, hx, rfl⟩

theorem map_ok_eq {α β : Type} {f : α → β} {x : Session α} {b : β}
    (h : (f <$> x) db = .ok (b, db')) : ∃ a, b = f a ∧ x db = .ok (a, db') := by
  rw [map_eq_pure_bind] at h
  obtain ⟨a, s, hx, h⟩ := bind_ok.1 h
  cases pure_ok.1 h
  exact ⟨a, rfl, hx⟩

/-- What a call that points an alias did to the targets. -/
structure Repointed (args : AliasArgs) (t t' : Table ModelAlias) (pointed : ModelAlias) : Prop where
  pointer : ∀ id, (t'.find? id).map pointerOf =
    if pointed.id = id then some args.pointer else (t.find? id).map pointerOf

theorem pointerOf_written (modelVersionId : Uuid) (adapterId : Option Uuid) (a : ModelAlias) :
    pointerOf (written (repoint modelVersionId adapterId) a) =
      ⟨a.aliasName, uuidStr modelVersionId, adapterId.map uuidStr⟩ := by
  unfold written
  split
  · rename_i hsame
    rw [← hsame]
    rfl
  · rfl

theorem upsertAlias_repointed {args : AliasArgs} {existing : Option ModelAlias}
    {pointed : ModelAlias} (hfound : find db args.taskDefinitionId args.aliasName args.aliasTenantId =
      .ok existing)
    (h : upsertAlias args existing args.modelVersionId args.tenantModelAdapterId db =
      .ok (pointed, db')) :
    Repointed args db.aliases db'.aliases pointed ∧ db'.audit = db.audit ∧
      db'.versions = db.versions := by
  have hnamed := find_ok.1 hfound
  cases existing with
  | some existing =>
    obtain ⟨db₁, hf, h⟩ := unit_bind_ok.1 h
    cases pure_ok.1 h
    have hin : existing ∈ aliasesNamed db args.taskDefinitionId args.aliasName args.aliasTenantId := by
      rw [hnamed]
      exact List.mem_singleton_self existing
    obtain ⟨hmem, -, hname, -⟩ := mem_aliasesNamed.1 hin
    rw [flush_ok (Table.find?_key hmem)] at hf
    have htable : db'.aliases = db.aliases.update existing.id
        (written (repoint args.modelVersionId args.tenantModelAdapterId)) (key_written _) := by
      rw [hf]
      rfl
    have hid : (written (repoint args.modelVersionId args.tenantModelAdapterId) existing).id =
        existing.id := key_written _ existing
    refine ⟨⟨fun id => ?_⟩, by rw [hf]; rfl, by rw [hf]; rfl⟩
    rw [htable, Table.find?_update, hid]
    by_cases hk : id = existing.id
    · subst hk
      have hrow : db.aliases.find? existing.id = some existing := Table.find?_key hmem
      rw [if_pos rfl, if_pos rfl, hrow, Option.map_some, Option.map_some, pointerOf_written, hname]
      rfl
    · rw [if_neg hk, if_neg (Ne.symm hk)]
  | none =>
    obtain ⟨db₁, hi, h⟩ := unit_bind_ok.1 h
    cases pure_ok.1 h
    obtain ⟨-, t, ht, rfl⟩ := insert_ok.1 hi
    refine ⟨⟨fun id => ?_⟩, rfl, rfl⟩
    show Option.map _ (t.find? id) = _
    rw [Table.find?_insert? ht]
    show Option.map _ (if args.aliasId = id then _ else _) = if args.aliasId = id then _ else _
    by_cases hk : args.aliasId = id
    · rw [if_pos hk, if_pos hk]
      rfl
    · rw [if_neg hk, if_neg hk]
      rfl

/-- The event of a pointed alias. -/
def pointedEvent (args : AliasArgs) (action : String) (pointed : ModelAlias) : AuditEvent :=
  { tenantId := args.aliasTenantId, principalId := args.tenantContext.map (·.principalId), action,
    outcome := .SUCCESS, resourceType := some "ModelAlias", resourceId := some pointed.id,
    correlationId := args.tenantContext.bind (·.correlationId),
    details := [("alias_name", some (.str args.aliasName)),
      ("model_version_id", some (.str (uuidStr args.modelVersionId))),
      ("tenant_model_adapter_id", args.tenantModelAdapterId.map fun id => .str (uuidStr id))] }

theorem tellPointer_pointedEvent (args : AliasArgs) (action : String) (pointed : ModelAlias)
    (known : Option Pointer) :
    tellPointer (pointedEvent args action pointed) known = some args.pointer := by
  cases hid : args.tenantModelAdapterId with
  | none => simp [tellPointer, pointedEvent, detailText, AliasArgs.pointer, hid, List.lookup_cons]
  | some id => simp [tellPointer, pointedEvent, detailText, AliasArgs.pointer, hid, List.lookup_cons]

theorem pointAlias_recorded {args : AliasArgs} {action : String} {pointed : ModelAlias}
    (h : pointAlias args action db = .ok (pointed, db')) :
    Repointed args db.aliases db'.aliases pointed ∧
      db'.audit = db.audit ++ [pointedEvent args action pointed] ∧ db'.versions = db.versions := by
  obtain ⟨-, h⟩ := raiseIf_bind_ok.1 h
  obtain ⟨m, hm, h⟩ := read_bind_ok.1 h
  obtain ⟨adapter, ha, h⟩ := read_bind_ok.1 h
  obtain ⟨existing, he, h⟩ := read_bind_ok.1 h
  have hid : m.id = args.modelVersionId := (Table.find?_eq_some.1 (modelForAlias_ok hm).1).2
  have hnamed := (adapterForAlias_ok ha).1
  obtain ⟨db₁, hu, rfl⟩ := recorded_event h
  rw [hid, hnamed] at hu
  obtain ⟨hpointed, haudit, hversions⟩ := upsertAlias_repointed he hu
  refine ⟨hpointed, ?_, hversions⟩
  simp only [haudit, pointedEvent, hid, ← hnamed, Option.map_map, Function.comp_def]

/-- What a call that succeeded wrote to the trail, against what it did to the tables. -/
structure Writes (call : Call) (db db' : ControlPlane) (response : Response) (event : AuditEvent) :
    Prop where
  audit : db'.audit = db.audit ++ [event]
  versions : db'.versions = db.versions
  recorded : Recorded call response event
  model : ∀ op, modelOperation call = some op →
    (∀ known, tellStatus event known = op.told known) ∧ (PlainObject db.models op →
      ∃ m, response = .model m ∧ Restated op db.models db'.models m)
  adapter : ∀ op, adapterOperation call = some op →
    (∀ known, tellStatus event known = op.told known) ∧ (PlainObject db.adapters op →
      ∃ a, response = .adapter a ∧ Restated op db.adapters db'.adapters a)
  pointed : ∀ args, aliasOperation call = some args →
    (∀ known, tellPointer event known = some args.pointer) ∧
      ∃ a, response = .modelAlias a ∧ Repointed args db.aliases db'.aliases a

section

attribute [local simp] tellStatus registrations transitions deactivations detailText List.lookup_cons
  Operation.told

theorem writes_of_ok {call : Call} {response : Response} (h : perform call db = .ok (response, db')) :
    ∃ event, Writes call db db' response event := by
  cases call with
  | registerCandidate modelVersion =>
    obtain ⟨m, rfl, hcall⟩ := map_ok_eq h
    obtain ⟨db₁, ha, rfl⟩ := recorded_event hcall
    obtain ⟨t, -, rfl⟩ := addCandidate_ok ha
    refine ⟨_, rfl, rfl, ⟨rfl, rfl, rfl, rfl, rfl, rfl⟩, fun op hop => ?_, nofun, nofun⟩
    cases hop
    exact ⟨fun known => by simp, fun hplain => ⟨m, rfl, (addCandidate_restated hplain ha :)⟩⟩
  | transitionStage id toStage ctx =>
    obtain ⟨m, rfl, hcall⟩ := map_ok_eq h
    obtain ⟨row, hrow, hcall⟩ := read_bind_ok.1 hcall
    obtain ⟨hrow, hmay⟩ := getForStageMutation_ok hrow
    obtain ⟨db₁, hm, rfl⟩ := recorded_event hcall
    obtain ⟨t, -, rfl⟩ := moveTo_ok hrow hmay hm
    refine ⟨_, rfl, rfl, ⟨rfl, rfl, rfl, rfl, rfl, rfl⟩, fun op hop => ?_, nofun, nofun⟩
    cases hop
    exact ⟨fun known => by simp, fun _ => ⟨m, rfl, (moveTo_restated hrow hm :)⟩⟩
  | deactivateModelVersion id ctx =>
    obtain ⟨m, rfl, hcall⟩ := map_ok_eq h
    obtain ⟨row, hrow, hcall⟩ := read_bind_ok.1 hcall
    obtain ⟨hrow, hmay⟩ := getForStageMutation_ok hrow
    obtain ⟨db₁, hm, rfl⟩ := recorded_event hcall
    obtain ⟨t, -, rfl⟩ := deactivate_ok hrow hmay hm
    refine ⟨_, rfl, rfl, ⟨rfl, rfl, rfl, rfl, rfl, rfl⟩, fun op hop => ?_, nofun, nofun⟩
    cases hop
    exact ⟨fun known => by simp, fun _ => ⟨m, rfl, (deactivate_restated ctx hrow hm :)⟩⟩
  | registerAdapterCandidate adapter base ctx =>
    obtain ⟨a, rfl, hcall⟩ := map_ok_eq h
    obtain ⟨u, -, hcall⟩ := read_bind_ok.1 hcall
    obtain ⟨-, hcall⟩ := raiseIf_bind_ok.1 hcall
    obtain ⟨db₁, ha, rfl⟩ := recorded_event hcall
    obtain ⟨t, -, rfl⟩ := addCandidate_ok ha
    refine ⟨_, rfl, rfl, ⟨rfl, rfl, rfl, rfl, rfl, rfl⟩, nofun, fun op hop => ?_, nofun⟩
    cases hop
    exact ⟨fun known => by simp, fun hplain => ⟨a, rfl, (addCandidate_restated hplain ha :)⟩⟩
  | transitionAdapterStage id toStage ctx =>
    obtain ⟨a, rfl, hcall⟩ := map_ok_eq h
    obtain ⟨row, hrow, hcall⟩ := read_bind_ok.1 hcall
    obtain ⟨hrow, hmay⟩ := require_mayChange hrow
    obtain ⟨db₁, hm, rfl⟩ := recorded_event hcall
    obtain ⟨t, -, rfl⟩ := moveTo_ok hrow hmay hm
    refine ⟨_, rfl, rfl, ⟨rfl, rfl, rfl, rfl, rfl, rfl⟩, nofun, fun op hop => ?_, nofun⟩
    cases hop
    exact ⟨fun known => by simp, fun _ => ⟨a, rfl, (moveTo_restated hrow hm :)⟩⟩
  | deactivateAdapter id ctx =>
    obtain ⟨a, rfl, hcall⟩ := map_ok_eq h
    obtain ⟨row, hrow, hcall⟩ := read_bind_ok.1 hcall
    obtain ⟨hrow, hmay⟩ := require_mayChange hrow
    obtain ⟨db₁, hm, rfl⟩ := recorded_event hcall
    obtain ⟨t, -, rfl⟩ := deactivate_ok hrow hmay hm
    refine ⟨_, rfl, rfl, ⟨rfl, rfl, rfl, rfl, rfl, rfl⟩, nofun, fun op hop => ?_, nofun⟩
    cases hop
    exact ⟨fun known => by simp, fun _ => ⟨a, rfl, (deactivate_restated (some ctx) hrow hm :)⟩⟩
  | setAlias args =>
    obtain ⟨a, rfl, hcall⟩ := map_ok_eq h
    obtain ⟨hpointed, haudit, hversions⟩ := pointAlias_recorded hcall
    refine ⟨_, haudit, hversions, ⟨rfl, rfl, rfl, rfl, rfl, rfl⟩, nofun, nofun, fun args' hargs => ?_⟩
    cases hargs
    exact ⟨tellPointer_pointedEvent args _ a, a, rfl, hpointed⟩
  | rollbackAlias args =>
    obtain ⟨a, rfl, hcall⟩ := map_ok_eq h
    obtain ⟨hpointed, haudit, hversions⟩ := pointAlias_recorded hcall
    refine ⟨_, haudit, hversions, ⟨rfl, rfl, rfl, rfl, rfl, rfl⟩, nofun, nofun, fun args' hargs => ?_⟩
    cases hargs
    exact ⟨tellPointer_pointedEvent args _ a, a, rfl, hpointed⟩

end

end

/-! ## The trail of a run -/

/-- The tables are what the trail tells. -/
structure Told (db : ControlPlane) : Prop where
  models : Explains (aboutResource "ModelVersion") tellStatus db.audit fun id =>
    (db.models.find? id).map statusOf
  adapters : Explains (aboutResource "TenantModelAdapter") tellStatus db.audit fun id =>
    (db.adapters.find? id).map statusOf
  aliases : Explains (aboutResource "ModelAlias") tellPointer db.audit fun id =>
    (db.aliases.find? id).map pointerOf

/-- A registered object is new and active, or it is a row as it is stored. -/
def Plain (db : ControlPlane) (call : Call) : Prop :=
  (∀ op, modelOperation call = some op → PlainObject db.models op) ∧
    ∀ op, adapterOperation call = some op → PlainObject db.adapters op

/-- The call with its answer, if it succeeds. -/
def answered (db : ControlPlane) (call : Call) : List (Call × Response) :=
  match perform call db with
  | .ok (response, _) => [(call, response)]
  | .error _ => []

section

variable {db db' : ControlPlane} {call : Call} {response : Response} {event : AuditEvent}

theorem Writes.about (h : Writes call db db' response event) {resourceType : String}
    (htype : call.resourceType = resourceType) :
    aboutResource resourceType event = some response.id := by
  rw [aboutResource_eq (by rw [h.recorded.resourceType, htype]), h.recorded.resourceId]

theorem Writes.notAbout (h : Writes call db db' response event) {resourceType : String}
    (htype : call.resourceType ≠ resourceType) : aboutResource resourceType event = none := by
  refine aboutResource_ne ?_
  rw [h.recorded.resourceType]
  exact fun heq => htype (Option.some.inj heq)

theorem resourceType_model : call.resourceType = "ModelVersion" ↔ (modelOperation call).isSome := by
  cases call <;> simp [Call.resourceType, modelOperation]

theorem resourceType_adapter :
    call.resourceType = "TenantModelAdapter" ↔ (adapterOperation call).isSome := by
  cases call <;> simp [Call.resourceType, adapterOperation]

theorem resourceType_alias : call.resourceType = "ModelAlias" ↔ (aliasOperation call).isSome := by
  cases call <;> simp [Call.resourceType, aliasOperation]

/-- An operation and its event, or neither. -/
theorem explains_changed {ρ : Type} [HasKey ρ Uuid] [DecidableEq ρ] [Staged ρ]
    {about : AuditEvent → Option Uuid} {log : List AuditEvent} (op : Option (Operation ρ))
    {t t' : Table ρ} (h : Explains about tellStatus log fun id => (t.find? id).map statusOf)
    (hnone : op = none → t' = t ∧ about event = none)
    (hsome : ∀ o, op = some o → about event = some o.target ∧
      (∀ known, tellStatus event known = o.told known) ∧ ∃ r, Restated o t t' r) :
    Explains about tellStatus (log ++ [event]) fun id => (t'.find? id).map statusOf := by
  cases op with
  | none =>
    obtain ⟨rfl, habout⟩ := hnone rfl
    exact h.silent habout
  | some o =>
    obtain ⟨habout, htell, r, -, hstatus⟩ := hsome o rfl
    refine h.snoc fun id => ?_
    rw [learn, habout, hstatus, htell]
    simp only [Option.some.injEq]

theorem told_writes (h : Writes call db db' response event) (heffects : Effects call db db')
    (hplain : Plain db call) (htold : Told db) : Told db' where
  models := by
    have hchanged := heffects.models
    rw [h.audit]
    refine explains_changed (modelOperation call) htold.models (fun hop => ?_) fun op hop => ?_
    · rw [hop] at hchanged
      exact ⟨hchanged, h.notAbout (by simp [resourceType_model, hop])⟩
    · obtain ⟨htell, hrestated⟩ := h.model op hop
      obtain ⟨m, rfl, hm⟩ := hrestated (hplain.1 op hop)
      refine ⟨?_, htell, m, hm⟩
      rw [h.about (resourceType_model.2 (by simp [hop])), ← hm.target]
      rfl
  adapters := by
    have hchanged := heffects.adapters
    rw [h.audit]
    refine explains_changed (adapterOperation call) htold.adapters (fun hop => ?_)
      fun op hop => ?_
    · rw [hop] at hchanged
      exact ⟨hchanged, h.notAbout (by simp [resourceType_adapter, hop])⟩
    · obtain ⟨htell, hrestated⟩ := h.adapter op hop
      obtain ⟨a, rfl, ha⟩ := hrestated (hplain.2 op hop)
      refine ⟨?_, htell, a, ha⟩
      rw [h.about (resourceType_adapter.2 (by simp [hop])), ← ha.target]
      rfl
  aliases := by
    have hchanged := heffects.aliases
    rw [h.audit]
    cases hop : aliasOperation call with
    | none =>
      rw [hop] at hchanged
      have hsame : db'.aliases = db.aliases := hchanged
      rw [hsame]
      exact htold.aliases.silent (h.notAbout (by simp [resourceType_alias, hop]))
    | some args =>
      obtain ⟨htell, a, rfl, hpointer⟩ := h.pointed args hop
      refine htold.aliases.snoc fun id => ?_
      rw [learn, h.about (resourceType_alias.2 (by simp [hop])), hpointer.pointer, htell]
      simp only [Option.some.injEq]
      rfl

theorem told_step (htold : Told db) (hplain : Plain db call) : Told (step db call) := by
  rcases after_cases (perform call) db with ⟨r, h⟩ | ⟨-, h⟩
  · obtain ⟨event, hwrites⟩ := writes_of_ok h
    exact told_writes hwrites (effects_of_ok h) hplain htold
  · rw [step, h]
    exact htold

/-- The trail grows by the events of the calls that succeed, in their order. -/
theorem recorded_run (start : ControlPlane) (calls : List Call) :
    ∃ events, (run step start calls).audit = start.audit ++ events ∧
      List.Forall₂ (fun answer event => Recorded answer.1 answer.2 event)
        (outputs step answered start calls) events := by
  refine run_history (s := start) (fun calls (db : ControlPlane) => ∃ events, db.audit = start.audit ++ events ∧
    List.Forall₂ (fun answer event => Recorded answer.1 answer.2 event)
      (outputs step answered start calls) events) ⟨[], by simp, .nil⟩ (fun calls call h => ?_) calls
  obtain ⟨events, haudit, hrecorded⟩ := h
  rw [outputs_snoc]
  rcases after_cases (perform call) (run step start calls) with ⟨r, h⟩ | ⟨⟨e, h⟩, hsame⟩
  · obtain ⟨event, hwrites⟩ := writes_of_ok h
    refine ⟨events ++ [event], ?_, List.rel_append hrecorded ?_⟩
    · rw [step, hwrites.audit, haudit, List.append_assoc]
    · rw [answered, h]
      exact .cons hwrites.recorded .nil
  · refine ⟨events, by rw [step, hsame, haudit], ?_⟩
    rw [answered, h, List.append_nil]
    exact hrecorded

end

/-- From any tables that the trail tells, every run of registry calls leaves tables that it tells, and
adds exactly the events of the calls that succeeded. -/
theorem registry_audited {start : ControlPlane} (hstart : Told start) {calls : List Call}
    (hplain : Meets step Plain start calls) :
    Told (run step start calls) ∧ ∃ events, (run step start calls).audit = start.audit ++ events ∧
      List.Forall₂ (fun answer event => Recorded answer.1 answer.2 event)
        (outputs step answered start calls) events :=
  ⟨run_invariant_of_meets (fun _ _ h => told_step h) hstart hplain, recorded_run start calls⟩

namespace Sample

theorem told_db : Told db := ⟨fun _ => rfl, fun _ => rfl, fun _ => rfl⟩

/-- A model and an adapter are promoted, and then the tenant's alias is pointed at them. -/
def promotedAndPointed : List Call := promotion ++ promoteAdapter adapter ++ [pointTo 20]

theorem plain_promotedAndPointed : Meets step Plain db promotedAndPointed := by
  refine meets_of_forall (fun call hcall db => ⟨fun op hop => ?_, fun op hop => ?_⟩) db
  all_goals
    simp only [promotedAndPointed, promotion, promote, promoteAdapter, List.cons_append,
      List.nil_append, List.mem_cons, List.not_mem_nil, or_false] at hcall
    rcases hcall with rfl | rfl | rfl | rfl | rfl | rfl | rfl
    all_goals
      cases hop
      try trivial

end Sample

theorem registry_audited_promotion :
    Told (run step Sample.db Sample.promotedAndPointed) ∧
      ∃ events, (run step Sample.db Sample.promotedAndPointed).audit = Sample.db.audit ++ events ∧
        List.Forall₂ (fun answer event => Recorded answer.1 answer.2 event)
          (outputs step answered Sample.db Sample.promotedAndPointed) events :=
  registry_audited Sample.told_db Sample.plain_promotedAndPointed

/-- The trail of the sample, read back. -/
example : replay (aboutResource "ModelVersion") tellStatus
      (run step Sample.db Sample.promotedAndPointed).audit 20 = some ⟨.PRODUCTION, true⟩ ∧
    (run step Sample.db Sample.promotedAndPointed).audit.length = 7 := by
  decide +kernel

end Registry

end HermesRpt
