import HermesRpt.Lib.Process
import HermesRpt.Registry.Service

/-!
# HermesRpt.Registry.Changes

What the calls of the registry do to its tables, for every later proof.

* `Operation`  : what a call asks of the models or of the adapters.
* `Done`       : what an operation that succeeded did to the rows.
* `Governed`   : a table whose rows only change by operations.
* `Became`, `Turned` : where a row comes from, and what may happen to a row that is there.
* `Pointed`    : what a call that sets an alias did to the aliases.
-/

namespace HermesRpt

namespace Registry

open Keyed (Table HasKey)
open Keyed.HasKey
open Transaction Machine
open Versioned Staged

inductive Operation (ρ : Type) where
  | register (object : Registered ρ)
  | move (id : Uuid) (toStage : ModelStage) (tenantContext : Option TenantContext)
  | deactivate (id : Uuid) (tenantContext : Option TenantContext)

section

variable {ρ : Type} [HasKey ρ Uuid] [DecidableEq ρ] [Staged ρ]

/-- The row is the caller's or shared; the trusted caller has no tenant. -/
def MayChange (tenantContext : Option TenantContext) (row : ρ) : Prop :=
  ∀ ctx ∈ tenantContext, owner row = none ∨ owner row = some ctx.tenantId

inductive Done (t : Table ρ) : Operation ρ → Table ρ → Prop where
  | registered {row : ρ} {idDrawn : Bool} {t' : Table ρ} (h : t.insert? (candidate row) = some t') :
      Done t (.register (.new row idDrawn)) t'
  | unchanged {row : ρ} : Done t (.register (.loaded row)) t
  | registeredAgain {row : ρ} {n : Nat} : Done t (.register (.loaded row))
      (t.update (key row) (flushed (setStage .CANDIDATE) n) (key_flushed _ n))
  | moved {id : Uuid} {toStage : ModelStage} {tenantContext : Option TenantContext} {row : ρ}
      (hrow : t.find? id = some row) (hmay : MayChange tenantContext row)
      (hvalid : toStage ∈ validTransitions (stage row))
      (hauthorised : toStage ∈ promotionStages → Authorised tenantContext) :
      Done t (.move id toStage tenantContext)
        (t.update id (written (setStage toStage)) (key_written _))
  | deactivated {id : Uuid} {tenantContext : Option TenantContext} {row : ρ}
      (hrow : t.find? id = some row) (hmay : MayChange tenantContext row) :
      Done t (.deactivate id tenantContext) (t.update id (written deactivated) (key_written _))

/-- The table before and after a call that asks for `op`, or for nothing. -/
def Changed (op : Option (Operation ρ)) (t t' : Table ρ) : Prop :=
  match op with
  | some op => Done t op t'
  | none => t' = t

/-! ## The parts of a method -/

variable {db db' : ControlPlane} {row r : ρ}

theorem addCandidate_ok {object : Registered ρ} (h : addCandidate object db = .ok (r, db')) :
    ∃ t : Table ρ, Done (table db) (.register object) t ∧ db' = setTable db t := by
  cases object with
  | new row idDrawn =>
    obtain ⟨db₁, hi, h⟩ := unit_bind_ok.1 h
    obtain ⟨-, t, ht, rfl⟩ := insert_ok.1 hi
    cases pure_ok.1 h
    exact ⟨t, .registered ht, rfl⟩
  | loaded row =>
    obtain ⟨db₁, hf, h⟩ := unit_bind_ok.1 h
    cases pure_ok.1 h
    rw [flush, write_ok] at hf
    split at hf
    · cases hf
      exact ⟨_, .unchanged, (setTable_table db).symm⟩
    · split at hf
      · split at hf
        · cases hf
          exact ⟨_, .registeredAgain, rfl⟩
        · cases hf
      · cases hf

theorem moveTo_ok {id : Uuid} {toStage : ModelStage} {tenantContext : Option TenantContext}
    (hrow : (table db : Table ρ).find? id = some row) (hmay : MayChange tenantContext row)
    (h : moveTo row toStage tenantContext db = .ok (r, db')) :
    ∃ t : Table ρ, Done (table db) (.move id toStage tenantContext) t ∧ db' = setTable db t := by
  obtain rfl : key row = id := (Table.find?_eq_some.1 hrow).2
  obtain ⟨hvalid, h⟩ := raiseIf_bind_ok.1 h
  have hauthorised : toStage ∈ promotionStages → Authorised tenantContext := by
    intro hp
    rw [if_pos hp] at h
    exact not_not.1 (raiseIf_bind_ok.1 h).1
  have h' : (do flush row (setStage toStage); return written (setStage toStage) row : Session ρ) db =
      .ok (r, db') := by
    by_cases hp : toStage ∈ promotionStages
    · rw [if_pos hp] at h
      exact (raiseIf_bind_ok.1 h).2
    · rw [if_neg hp] at h
      exact h
  obtain ⟨db₁, hf, h'⟩ := unit_bind_ok.1 h'
  cases pure_ok.1 h'
  rw [flush_ok hrow] at hf
  exact ⟨_, .moved hrow hmay (not_not.1 hvalid) hauthorised, hf⟩

theorem deactivate_ok {id : Uuid} {tenantContext : Option TenantContext}
    (hrow : (table db : Table ρ).find? id = some row) (hmay : MayChange tenantContext row)
    (h : deactivate row db = .ok (r, db')) :
    ∃ t : Table ρ, Done (table db) (.deactivate id tenantContext) t ∧ db' = setTable db t := by
  obtain rfl : key row = id := (Table.find?_eq_some.1 hrow).2
  obtain ⟨db₁, hf, h⟩ := unit_bind_ok.1 h
  cases pure_ok.1 h
  rw [flush_ok hrow] at hf
  exact ⟨_, .deactivated hrow hmay, hf⟩

end

theorem recordFor_ok {action : String} {tenantId : Option Uuid}
    {tenantContext : Option TenantContext} {resourceType : String} {resourceId : Uuid}
    {details : List (String × Option Value)} {db db' : ControlPlane} {u : Unit}
    (h : recordFor action tenantId tenantContext resourceType resourceId details db =
      .ok (u, db')) : db' = { db with audit := db'.audit } := by
  rw [recordFor, write_ok] at h
  cases h
  rfl

/-- The method that records an event last. -/
theorem recorded_ok {α : Type} {x : Session α} {action : String} {tenantId : α → Option Uuid}
    {tenantContext : Option TenantContext} {resourceType : String} {resourceId : α → Uuid}
    {details : α → List (String × Option Value)} {a : α} {db db' : ControlPlane}
    (h : (do
      let y ← x
      recordFor action (tenantId y) tenantContext resourceType (resourceId y) (details y)
      return y : Session α) db = .ok (a, db')) :
    ∃ db₁, x db = .ok (a, db₁) ∧ db' = { db₁ with audit := db'.audit } := by
  obtain ⟨y, db₁, hx, h⟩ := bind_ok.1 h
  obtain ⟨db₂, hr, h⟩ := unit_bind_ok.1 h
  cases pure_ok.1 h
  exact ⟨db₁, hx, recordFor_ok hr⟩

/-! ## Aliases -/

/-- What `_point_alias` has checked of the model and the adapter it read. -/
structure Checked (db : ControlPlane) (args : AliasArgs) (modelVersion : ModelVersion)
    (adapter : Option TenantModelAdapter) : Prop where
  authorised : Authorised args.tenantContext
  model : db.models.find? args.modelVersionId = some modelVersion
  active : modelVersion.isActive = true
  stage : modelVersion.stage ≠ .ARCHIVED
  scope : modelVersion.tenantId = none ∨ modelVersion.tenantId = args.aliasTenantId
  named : adapter.map (·.id) = args.tenantModelAdapterId
  adapter : ∀ a ∈ adapter, db.adapters.find? a.id = some a ∧
    args.aliasTenantId = some a.tenantId ∧ ¬Incompatible modelVersion a

inductive Pointed (db : ControlPlane) (args : AliasArgs) : Table ModelAlias → Prop where
  | repointed {modelVersion : ModelVersion} {adapter : Option TenantModelAdapter}
      {existing : ModelAlias} (hchecked : Checked db args modelVersion adapter)
      (hfound : aliasesNamed db args.taskDefinitionId args.aliasName args.aliasTenantId =
        [existing]) :
      Pointed db args (db.aliases.update existing.id
        (written (repoint args.modelVersionId args.tenantModelAdapterId)) (key_written _))
  | added {modelVersion : ModelVersion} {adapter : Option TenantModelAdapter}
      {t : Table ModelAlias} (hchecked : Checked db args modelVersion adapter)
      (hnone : aliasesNamed db args.taskDefinitionId args.aliasName args.aliasTenantId = [])
      (h : db.aliases.insert? (newAlias args args.modelVersionId args.tenantModelAdapterId) =
        some t) : Pointed db args t

theorem modelForAlias_ok {db : ControlPlane} {args : AliasArgs} {m : ModelVersion}
    (h : modelForAlias db args = .ok m) :
    db.models.find? args.modelVersionId = some m ∧ m.isActive = true ∧ m.stage ≠ .ARCHIVED ∧
      (m.tenantId = none ∨ m.tenantId = args.aliasTenantId) := by
  unfold modelForAlias at h
  split at h
  · rename_i row hrow
    split at h
    · cases h
    · rename_i hactive
      split at h
      · cases h
      · rename_i hscope
        cases h
        simp only [not_or, Bool.not_eq_true'] at hactive
        exact ⟨hrow, by simpa using hactive.1, hactive.2, by tauto⟩
  · cases h

theorem ensureCompatible_ok {adapterId : Option Uuid} {base : ModelVersion}
    {adapter : TenantModelAdapter} {u : Unit} :
    ensureCompatible adapterId base adapter = .ok u ↔ ¬Incompatible base adapter := by
  unfold ensureCompatible
  split <;> simp [*]

theorem adapterForAlias_ok {db : ControlPlane} {args : AliasArgs} {m : ModelVersion}
    {adapter : Option TenantModelAdapter} (h : adapterForAlias db args m = .ok adapter) :
    adapter.map (·.id) = args.tenantModelAdapterId ∧
      ∀ a ∈ adapter, db.adapters.find? a.id = some a ∧ args.aliasTenantId = some a.tenantId ∧
        ¬Incompatible m a := by
  unfold adapterForAlias at h
  split at h
  · rename_i hnone
    cases h
    simp [hnone]
  · rename_i adapterId hid
    split at h
    · cases h
    · rename_i ctx hctx
      obtain ⟨a, ha, h⟩ := Effect.except_bind_ok.1 h
      obtain ⟨u, hu, h⟩ := Effect.except_bind_ok.1 h
      cases h
      obtain ⟨hrow, htenant⟩ := require_ok.1 ha
      have hkey : a.id = adapterId := (Table.find?_eq_some.1 hrow).2
      refine ⟨by rw [hid, Option.map_some, hkey], fun b hb => ?_⟩
      cases hb
      refine ⟨by rw [hkey]; exact hrow, ?_, ensureCompatible_ok.1 hu⟩
      rw [AliasArgs.aliasTenantId, hctx, Option.map_some]
      exact congrArg some htenant.symm

theorem find_ok {db : ControlPlane} {taskDefinitionId : Uuid} {aliasName : String}
    {tenantId : Option Uuid} {found : Option ModelAlias} :
    find db taskDefinitionId aliasName tenantId = .ok found ↔
      aliasesNamed db taskDefinitionId aliasName tenantId = found.toList := scalarOneOrNone_ok

theorem mem_aliasesNamed {db : ControlPlane} {taskDefinitionId : Uuid} {aliasName : String}
    {tenantId : Option Uuid} {a : ModelAlias} :
    a ∈ aliasesNamed db taskDefinitionId aliasName tenantId ↔ a ∈ db.aliases ∧
      a.taskDefinitionId = taskDefinitionId ∧ a.aliasName = aliasName ∧ a.tenantId = tenantId := by
  simp [aliasesNamed, Table.mem_def]

theorem upsertAlias_ok {db db' : ControlPlane} {args : AliasArgs} {modelVersion : ModelVersion}
    {adapter : Option TenantModelAdapter} {existing : Option ModelAlias} {pointed : ModelAlias}
    (hchecked : Checked db args modelVersion adapter)
    (hfound : aliasesNamed db args.taskDefinitionId args.aliasName args.aliasTenantId =
      existing.toList)
    (h : upsertAlias args existing args.modelVersionId args.tenantModelAdapterId db =
      .ok (pointed, db')) :
    ∃ t, Pointed db args t ∧ db' = { db with aliases := t } := by
  cases existing with
  | some existing =>
    obtain ⟨db₁, hf, h⟩ := unit_bind_ok.1 h
    cases pure_ok.1 h
    have hmem : existing ∈ db.aliases := by
      refine (mem_aliasesNamed.1 (?_ : existing ∈ aliasesNamed db args.taskDefinitionId
        args.aliasName args.aliasTenantId)).1
      simp [hfound]
    rw [flush_ok (Table.find?_key hmem)] at hf
    exact ⟨_, .repointed hchecked hfound, hf⟩
  | none =>
    obtain ⟨db₁, hi, h⟩ := unit_bind_ok.1 h
    cases pure_ok.1 h
    obtain ⟨-, t, ht, rfl⟩ := insert_ok.1 hi
    exact ⟨t, .added hchecked hfound ht, rfl⟩

theorem pointAlias_ok {db db' : ControlPlane} {args : AliasArgs} {action : String}
    {pointed : ModelAlias} (h : pointAlias args action db = .ok (pointed, db')) :
    ∃ t, Pointed db args t ∧ db' = { db with aliases := t, audit := db'.audit } := by
  obtain ⟨hauth, h⟩ := raiseIf_bind_ok.1 h
  obtain ⟨m, hm, h⟩ := read_bind_ok.1 h
  obtain ⟨adapter, ha, h⟩ := read_bind_ok.1 h
  obtain ⟨existing, he, h⟩ := read_bind_ok.1 h
  obtain ⟨hrow, hactive, hstage, hscope⟩ := modelForAlias_ok hm
  obtain ⟨hnamed, hadapter⟩ := adapterForAlias_ok ha
  have hchecked : Checked db args m adapter :=
    ⟨not_not.1 hauth, hrow, hactive, hstage, hscope, hnamed, hadapter⟩
  have hid : m.id = args.modelVersionId := (Table.find?_eq_some.1 hrow).2
  obtain ⟨db₁, hu, hdb'⟩ := recorded_ok h
  rw [hid, hnamed] at hu
  obtain ⟨t, ht, rfl⟩ := upsertAlias_ok hchecked (find_ok.1 he) hu
  exact ⟨t, ht, hdb'⟩

/-! ## A call -/

def modelOperation : Call → Option (Operation ModelVersion)
  | .registerCandidate modelVersion => some (.register modelVersion)
  | .transitionStage id toStage ctx => some (.move id toStage ctx)
  | .deactivateModelVersion id ctx => some (.deactivate id ctx)
  | _ => none

def adapterOperation : Call → Option (Operation TenantModelAdapter)
  | .registerAdapterCandidate adapter _ _ => some (.register adapter)
  | .transitionAdapterStage id toStage ctx => some (.move id toStage (some ctx))
  | .deactivateAdapter id ctx => some (.deactivate id (some ctx))
  | _ => none

def aliasOperation : Call → Option AliasArgs
  | .setAlias args => some args
  | .rollbackAlias args => some args
  | _ => none

/-- What a call that succeeded did to the tables. -/
structure Effects (call : Call) (db db' : ControlPlane) : Prop where
  models : Changed (modelOperation call) db.models db'.models
  adapters : Changed (adapterOperation call) db.adapters db'.adapters
  aliases : match aliasOperation call with
    | some args => Pointed db args db'.aliases
    | none => db'.aliases = db.aliases
  tasks : db'.tasks = db.tasks

theorem getForStageMutation_ok {db : ControlPlane} {id : Uuid}
    {tenantContext : Option TenantContext} {m : ModelVersion}
    (h : getForStageMutation db id tenantContext = .ok m) :
    db.models.find? id = some m ∧ MayChange tenantContext m := by
  cases tenantContext with
  | some ctx =>
    obtain ⟨hrow, hscope⟩ := requireAvailableForTenant_ok.1 h
    refine ⟨hrow, fun c hc => ?_⟩
    cases hc
    exact hscope
  | none =>
    simp only [getForStageMutation] at h
    split at h
    · cases h
      exact ⟨‹_›, fun c hc => by cases hc⟩
    · cases h

theorem require_mayChange {db : ControlPlane} {id : Uuid} {ctx : TenantContext}
    {a : TenantModelAdapter} (h : require TenantModelAdapter db id ctx = .ok a) :
    db.adapters.find? id = some a ∧ MayChange (some ctx) a := by
  obtain ⟨hrow, htenant⟩ := require_ok.1 h
  refine ⟨hrow, fun c hc => ?_⟩
  cases hc
  exact .inr (congrArg some htenant)

theorem map_ok {α β : Type} {f : α → β} {x : Session α} {db db' : ControlPlane} {b : β}
    (h : (f <$> x) db = .ok (b, db')) : ∃ a, x db = .ok (a, db') := by
  rw [map_eq_pure_bind] at h
  obtain ⟨a, s, hx, h⟩ := bind_ok.1 h
  cases pure_ok.1 h
  exact ⟨a, hx⟩

theorem effects_of_ok {call : Call} {db db' : ControlPlane} {r : Response}
    (h : perform call db = .ok (r, db')) : Effects call db db' := by
  cases call with
  | registerCandidate modelVersion =>
    obtain ⟨m, h⟩ := map_ok h
    obtain ⟨db₁, ha, hdb'⟩ := recorded_ok h
    obtain ⟨t, ht, rfl⟩ := addCandidate_ok ha
    rw [hdb']
    exact ⟨ht, rfl, rfl, rfl⟩
  | transitionStage id toStage ctx =>
    obtain ⟨m, h⟩ := map_ok h
    obtain ⟨row, hrow, h⟩ := read_bind_ok.1 h
    obtain ⟨hrow, hmay⟩ := getForStageMutation_ok hrow
    obtain ⟨db₁, hm, hdb'⟩ := recorded_ok h
    obtain ⟨t, ht, rfl⟩ := moveTo_ok hrow hmay hm
    rw [hdb']
    exact ⟨ht, rfl, rfl, rfl⟩
  | deactivateModelVersion id ctx =>
    obtain ⟨m, h⟩ := map_ok h
    obtain ⟨row, hrow, h⟩ := read_bind_ok.1 h
    obtain ⟨hrow, hmay⟩ := getForStageMutation_ok hrow
    obtain ⟨db₁, hm, hdb'⟩ := recorded_ok h
    obtain ⟨t, ht, rfl⟩ := deactivate_ok hrow hmay hm
    rw [hdb']
    exact ⟨ht, rfl, rfl, rfl⟩
  | registerAdapterCandidate adapter base ctx =>
    obtain ⟨a, h⟩ := map_ok h
    obtain ⟨u, -, h⟩ := read_bind_ok.1 h
    obtain ⟨-, h⟩ := raiseIf_bind_ok.1 h
    obtain ⟨db₁, ha, hdb'⟩ := recorded_ok h
    obtain ⟨t, ht, rfl⟩ := addCandidate_ok ha
    rw [hdb']
    exact ⟨rfl, ht, rfl, rfl⟩
  | transitionAdapterStage id toStage ctx =>
    obtain ⟨a, h⟩ := map_ok h
    obtain ⟨row, hrow, h⟩ := read_bind_ok.1 h
    obtain ⟨hrow, hmay⟩ := require_mayChange hrow
    obtain ⟨db₁, hm, hdb'⟩ := recorded_ok h
    obtain ⟨t, ht, rfl⟩ := moveTo_ok hrow hmay hm
    rw [hdb']
    exact ⟨rfl, ht, rfl, rfl⟩
  | deactivateAdapter id ctx =>
    obtain ⟨a, h⟩ := map_ok h
    obtain ⟨row, hrow, h⟩ := read_bind_ok.1 h
    obtain ⟨hrow, hmay⟩ := require_mayChange hrow
    obtain ⟨db₁, hm, hdb'⟩ := recorded_ok h
    obtain ⟨t, ht, rfl⟩ := deactivate_ok hrow hmay hm
    rw [hdb']
    exact ⟨rfl, ht, rfl, rfl⟩
  | setAlias args =>
    obtain ⟨a, h⟩ := map_ok h
    obtain ⟨t, ht, hdb'⟩ := pointAlias_ok h
    rw [hdb']
    exact ⟨rfl, rfl, ht, rfl⟩
  | rollbackAlias args =>
    obtain ⟨a, h⟩ := map_ok h
    obtain ⟨t, ht, hdb'⟩ := pointAlias_ok h
    rw [hdb']
    exact ⟨rfl, rfl, ht, rfl⟩

/-- A call either raises and leaves the database as it was, or has its effects. -/
theorem step_cases (db : ControlPlane) (call : Call) :
    step db call = db ∨ Succeeds db call ∧ Effects call db (step db call) := by
  rcases after_cases (perform call) db with ⟨r, h⟩ | ⟨-, h⟩
  · exact .inr ⟨⟨r, _, h⟩, effects_of_ok h⟩
  · exact .inl h

/-! ## The rows of a table -/

/-- A table whose rows only change by the operations of its calls. -/
class Governed (ρ : Type) [HasKey ρ Uuid] [DecidableEq ρ] extends Staged ρ where
  operation : Call → Option (Operation ρ)
  changed_of_effects : ∀ {call : Call} {db db' : ControlPlane}, Effects call db db' →
    Changed (operation call) (table db : Table ρ) (table db')

instance : Governed ModelVersion where
  operation := modelOperation
  changed_of_effects h := h.models

instance : Governed TenantModelAdapter where
  operation := adapterOperation
  changed_of_effects h := h.adapters

section

variable {ρ : Type} [HasKey ρ Uuid]

theorem key_candidate [Staged ρ] (row : ρ) : (key (candidate row) : Uuid) = key row := by
  rw [candidate, Change.key_set, Change.key_set]

variable [DecidableEq ρ]

/-- Where a row comes from, after an operation. -/
inductive Became [Staged ρ] (t : Table ρ) (op : Operation ρ) (r' : ρ) : Prop where
  | kept (h : r' ∈ t)
  | registered {row : ρ} {idDrawn : Bool} (hop : op = .register (.new row idDrawn))
      (hnew : t.find? (key row) = none) (h : r' = candidate row)
  | registeredAgain {row r : ρ} {n : Nat} (hop : op = .register (.loaded row)) (hr : r ∈ t)
      (hkey : (key r : Uuid) = key row) (h : r' = flushed (setStage .CANDIDATE) n r)
  | moved {toStage : ModelStage} {tenantContext : Option TenantContext} {r : ρ}
      (hop : op = .move (key r) toStage tenantContext) (hr : r ∈ t)
      (hmay : MayChange tenantContext r) (hvalid : toStage ∈ validTransitions (stage r))
      (hauthorised : toStage ∈ promotionStages → Authorised tenantContext)
      (h : r' = written (setStage toStage) r)
  | deactivated {tenantContext : Option TenantContext} {r : ρ}
      (hop : op = .deactivate (key r) tenantContext) (hr : r ∈ t)
      (hmay : MayChange tenantContext r) (h : r' = written deactivated r)

theorem Done.became [Staged ρ] {t t' : Table ρ} {op : Operation ρ} (h : Done t op t') {r' : ρ}
    (hr' : r' ∈ t') : Became t op r' := by
  cases h with
  | registered hi =>
    rcases (Table.mem_insert? hi).1 hr' with hr | hr
    · exact .kept hr
    · exact .registered rfl (by rw [← key_candidate]; exact (Table.insert?_eq_some.1 hi).1) hr
  | unchanged => exact .kept hr'
  | registeredAgain =>
    obtain ⟨r, hr, rfl⟩ := Table.mem_update.1 hr'
    split
    · exact .registeredAgain rfl hr ‹_› rfl
    · exact .kept hr
  | moved hrow hmay hvalid hauthorised =>
    obtain ⟨r, hr, rfl⟩ := Table.mem_update.1 hr'
    split
    · rename_i hk
      subst hk
      rw [Table.find?_key hr] at hrow
      cases hrow
      exact .moved rfl hr hmay hvalid hauthorised rfl
    · exact .kept hr
  | deactivated hrow hmay =>
    obtain ⟨r, hr, rfl⟩ := Table.mem_update.1 hr'
    split
    · rename_i hk
      subst hk
      rw [Table.find?_key hr] at hrow
      cases hrow
      exact .deactivated rfl hr hmay rfl
    · exact .kept hr

/-- A row after a call was there before it, or is what an operation that succeeded made of one. -/
theorem became_of_step [Governed ρ] {db : ControlPlane} {call : Call} {r' : ρ}
    (hr' : r' ∈ (table (step db call) : Table ρ)) : r' ∈ (table db : Table ρ) ∨
      ∃ op, Governed.operation call = some op ∧ Succeeds db call ∧ Became (table db) op r' := by
  rcases step_cases db call with h | ⟨hs, he⟩
  · rw [h] at hr'
    exact .inl hr'
  · have hd : Changed (Governed.operation call) (table db : Table ρ) (table (step db call)) :=
      Governed.changed_of_effects he
    cases hop : (Governed.operation call : Option (Operation ρ)) with
    | none =>
      rw [hop] at hd
      have hsame : (table (step db call) : Table ρ) = table db := hd
      rw [hsame] at hr'
      exact .inl hr'
    | some op =>
      rw [hop] at hd
      exact .inr ⟨op, rfl, hs, hd.became hr'⟩

end

section

variable {ρ : Type} [HasKey ρ Uuid] [Staged ρ]

@[simp] theorem stage_candidate (row : ρ) : stage (candidate row) = .CANDIDATE := by
  rw [candidate, stage_atVersion, stage_setStage]

@[simp] theorem stage_flushed_setStage (s : ModelStage) (n : Nat) (row : ρ) :
    stage (flushed (setStage s) n row) = s := by
  rw [flushed, stage_atVersion, stage_setStage]

@[simp] theorem frozen_flushed_setStage (s : ModelStage) (n : Nat) (row : ρ) :
    frozen (flushed (setStage s) n row) = frozen row := by
  rw [flushed, frozen_atVersion, frozen_setStage]

variable [DecidableEq ρ]

@[simp] theorem stage_written_setStage (s : ModelStage) (row : ρ) :
    stage (written (setStage s) row) = s := by
  unfold written
  split
  · rename_i h
    rw [← h, stage_setStage]
  · exact stage_flushed_setStage s _ row

@[simp] theorem isActive_written_setStage (s : ModelStage) (row : ρ) :
    isActive (written (setStage s) row) = isActive row := by
  unfold written
  split
  · rfl
  · rw [flushed, isActive_atVersion, isActive_setStage]

@[simp] theorem frozen_written_setStage (s : ModelStage) (row : ρ) :
    frozen (written (setStage s) row) = frozen row := by
  unfold written
  split
  · rfl
  · exact frozen_flushed_setStage s _ row

@[simp] theorem stage_written_deactivated (row : ρ) :
    stage (written deactivated row) = stage row := by
  unfold written
  split
  · rfl
  · rw [flushed, stage_atVersion, stage_deactivated]

@[simp] theorem isActive_written_deactivated (row : ρ) :
    isActive (written deactivated row) = false := by
  unfold written
  split
  · rename_i h
    rw [← h, isActive_deactivated]
  · rw [flushed, isActive_atVersion, isActive_deactivated]

@[simp] theorem frozen_written_deactivated (row : ρ) :
    frozen (written deactivated row) = frozen row := by
  unfold written
  split
  · rfl
  · rw [flushed, frozen_atVersion, frozen_deactivated]

end

section

variable {ρ : Type} [HasKey ρ Uuid] [DecidableEq ρ] [Governed ρ] {id : Uuid} {db : ControlPlane}

/-- The row of `id`, if there is one. -/
def rowOf (ρ : Type) [HasKey ρ Uuid] [DecidableEq ρ] [Governed ρ] (id : Uuid) (db : ControlPlane) :
    Option ρ :=
  (table db : Table ρ).find? id

theorem rowOf_eq_some {row : ρ} :
    rowOf ρ id db = some row ↔ row ∈ (table db : Table ρ) ∧ key row = id := Table.find?_eq_some

theorem rowOf_step_isSome {row : ρ} (hrow : rowOf ρ id db = some row) (call : Call) :
    ∃ row', rowOf ρ id (step db call) = some row' := by
  rcases step_cases db call with h | ⟨-, he⟩
  · rw [h]
    exact ⟨row, hrow⟩
  · have hd : Changed (Governed.operation call) (table db : Table ρ) (table (step db call)) :=
      Governed.changed_of_effects he
    unfold rowOf at hrow ⊢
    generalize (table (step db call) : Table ρ) = t' at hd ⊢
    unfold Changed at hd
    split at hd
    · cases hd with
      | registered hi =>
        rw [Table.find?_insert? hi]
        split
        · exact ⟨_, rfl⟩
        · exact ⟨row, hrow⟩
      | unchanged => exact ⟨row, hrow⟩
      | registeredAgain => rw [Table.find?_update]; split <;> simp [hrow]
      | moved => rw [Table.find?_update]; split <;> simp [hrow]
      | deactivated => rw [Table.find?_update]; split <;> simp [hrow]
    · subst hd
      exact ⟨row, hrow⟩

/-- What a call may do to a row that is there. -/
inductive Turned (db : ControlPlane) (call : Call) (row row' : ρ) : Prop where
  | same (h : row' = row)
  | registeredAgain {object : ρ} {n : Nat} (hs : Succeeds db call)
      (hop : Governed.operation call = some (.register (.loaded object)))
      (hkey : (key row : Uuid) = key object) (h : row' = flushed (setStage .CANDIDATE) n row)
  | moved {toStage : ModelStage} {tenantContext : Option TenantContext} (hs : Succeeds db call)
      (hop : @Governed.operation ρ _ _ _ call = some (.move (key row) toStage tenantContext))
      (hmay : MayChange tenantContext row) (hvalid : toStage ∈ validTransitions (stage row))
      (hauthorised : toStage ∈ promotionStages → Authorised tenantContext)
      (h : row' = written (setStage toStage) row)
  | deactivated {tenantContext : Option TenantContext} (hs : Succeeds db call)
      (hop : @Governed.operation ρ _ _ _ call = some (.deactivate (key row) tenantContext))
      (hmay : MayChange tenantContext row) (h : row' = written deactivated row)

theorem turned_of_step {row row' : ρ} {call : Call} (hrow : rowOf ρ id db = some row)
    (hrow' : rowOf ρ id (step db call) = some row') : Turned db call row row' := by
  obtain ⟨hmem, hid⟩ := rowOf_eq_some.1 hrow
  obtain ⟨hmem', hid'⟩ := rowOf_eq_some.1 hrow'
  have hsame : ∀ {r : ρ}, r ∈ (table db : Table ρ) → (key r : Uuid) = id → r = row :=
    fun hr hk => Table.eq_of_key_eq hr hmem (hk.trans hid.symm)
  rcases became_of_step hmem' with hmem' | ⟨op, hop, hs, hb⟩
  · exact .same (hsame hmem' hid')
  · cases hb with
    | kept hmem' => exact .same (hsame hmem' hid')
    | registered hop' hnew hc =>
      subst hc
      rw [key_candidate] at hid'
      subst hid'
      exact absurd (hrow.symm.trans hnew) (by simp)
    | registeredAgain hop' hr hkey hc =>
      subst hop' hc
      rw [key_flushed] at hid'
      have he := hsame hr hid'
      subst he
      exact .registeredAgain hs hop hkey rfl
    | moved hop' hr hmay hvalid hauthorised hc =>
      subst hop' hc
      rw [key_written] at hid'
      have he := hsame hr hid'
      subst he
      exact .moved hs hop hmay hvalid hauthorised rfl
    | deactivated hop' hr hmay hc =>
      subst hop' hc
      rw [key_written] at hid'
      have he := hsame hr hid'
      subst he
      exact .deactivated hs hop hmay rfl

/-- No call of the registry removes a row, or changes more of it than its stage, its activity and its
version. -/
theorem rowOf_step {row : ρ} (hrow : rowOf ρ id db = some row) (call : Call) :
    ∃ row', rowOf ρ id (step db call) = some row' ∧ Turned db call row row' ∧
      frozen row' = frozen row := by
  obtain ⟨row', hrow'⟩ := rowOf_step_isSome hrow call
  have ht := turned_of_step hrow hrow'
  refine ⟨row', hrow', ht, ?_⟩
  cases ht with
  | same h => rw [h]
  | registeredAgain _ _ _ h => rw [h, frozen_flushed_setStage]
  | moved _ _ _ _ _ h => rw [h, frozen_written_setStage]
  | deactivated _ _ _ h => rw [h, frozen_written_deactivated]

end

/-! ## A shared model on its way to production -/

namespace Sample

/-- A caller of the tenant who may promote. -/
def callerOf (tenantId : Uuid) : TenantContext :=
  { tenantId, principalId := 3, scopes := [modelPromote] }

def db : ControlPlane := { tasks := [10] }

def model : ModelVersion :=
  { id := 20, tenantId := none, name := "delay", versionLabel := "1", taskDefinitionId := 10,
    artifactUri := "s3://models/20", artifactChecksum := "c20", ontologyVersion := "1",
    featureContractVersion := "1" }

/-- The calls that bring a new model into production. -/
def promote (model : ModelVersion) : List Call :=
  [.registerCandidate (.new model false), .transitionStage model.id .STAGING none,
    .transitionStage model.id .PRODUCTION none]

def promotion : List Call := promote model

/-- A second version of the model. -/
def model₂ : ModelVersion := { model with id := 21, versionLabel := "2", artifactChecksum := "c21" }

def adapter : TenantModelAdapter :=
  { id := 30, tenantId := 1, baseModelVersionId := 20, name := "delay", versionLabel := "1",
    artifactUri := "s3://adapters/30", artifactChecksum := "c30", ontologyVersion := "1",
    featureContractVersion := "1" }

def promoteAdapter (adapter : TenantModelAdapter) : List Call :=
  [.registerAdapterCandidate (.new adapter false) model (callerOf 1),
    .transitionAdapterStage adapter.id .STAGING (callerOf 1),
    .transitionAdapterStage adapter.id .PRODUCTION (callerOf 1)]

end Sample

end Registry

end HermesRpt
