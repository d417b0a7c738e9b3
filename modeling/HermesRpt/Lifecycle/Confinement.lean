import HermesRpt.Lib.Invariant
import HermesRpt.System

/-!
# HermesRpt.Lifecycle.Confinement

What a call of the mapping lifecycle or of the discovery may write: rows of the caller's tenant, and
events that name it.

* `Beside`   : the rows of the other tenants are those of before, and no row is gone.
* `Confined` : the control plane is the one of before, beside the tenant's own.
* `step_confined` : every call is confined to the tenant of its context.
-/

namespace HermesRpt

namespace Lifecycle

open Keyed (Table HasKey)
open Keyed.HasKey
open Transaction
open Connectors Schemas Mappings

section Beside

variable {ρ : Type} [HasKey ρ Uuid] [Stored ρ] {tenantId : Uuid} {t₀ t u : Table ρ} {r : ρ}

/-- The rows of the other tenants. -/
def foreign (tenantId : Uuid) (t : Table ρ) : Table ρ :=
  t.filter fun r => Stored.tenantId r ≠ tenantId

structure Beside (tenantId : Uuid) (t₀ t : Table ρ) : Prop where
  others : foreign tenantId t = foreign tenantId t₀
  kept : ∀ id : Uuid, (t₀.find? id).isSome → (t.find? id).isSome

/-- No other tenant has a row of the id. -/
def Unclaimed (tenantId : Uuid) (t : Table ρ) (id : Uuid) : Prop :=
  ∀ r ∈ t, key r = id → Stored.tenantId r = tenantId

theorem mem_foreign : r ∈ foreign tenantId t ↔ r ∈ t ∧ Stored.tenantId r ≠ tenantId := by
  simp [foreign, Table.mem_filter]

theorem Beside.refl (tenantId : Uuid) (t : Table ρ) : Beside tenantId t t := ⟨rfl, fun _ h => h⟩

theorem Beside.unclaimed_iff (h : Beside tenantId t₀ t) {id : Uuid} :
    Unclaimed tenantId t id ↔ Unclaimed tenantId t₀ id := by
  have hothers (r : ρ) : r ∈ t ∧ Stored.tenantId r ≠ tenantId ↔
      r ∈ t₀ ∧ Stored.tenantId r ≠ tenantId := by
    rw [← mem_foreign, h.others, mem_foreign]
  constructor
  · intro hid r hr hkey
    by_contra hne
    exact hne (hid r ((hothers r).2 ⟨hr, hne⟩).1 hkey)
  · intro hid r hr hkey
    by_contra hne
    exact hne (hid r ((hothers r).1 ⟨hr, hne⟩).1 hkey)

theorem unclaimed_key (hr : r ∈ t) (htenant : Stored.tenantId r = tenantId) :
    Unclaimed tenantId t (key r) := by
  intro r' hr' hkey
  rw [Table.eq_of_key_eq hr' hr hkey, htenant]

theorem Beside.insert (h : Beside tenantId t₀ t) (htenant : Stored.tenantId r = tenantId)
    (hi : t.insert? r = some u) : Beside tenantId t₀ u where
  others := by
    rw [← h.others]
    apply Table.ext
    show u.rows.filter _ = t.rows.filter _
    rw [(Table.insert?_eq_some.1 hi).2, List.filter_append]
    simp [htenant]
  kept id hid := by
    rw [Table.find?_insert? hi]
    split
    · rfl
    · exact h.kept id hid

theorem Beside.update (h : Beside tenantId t₀ t) {k : Uuid} {f : ρ → ρ}
    (hf : ∀ r, key (f r) = (key r : Uuid)) (hown : Unclaimed tenantId t₀ k)
    (htenant : ∀ r : ρ, Stored.tenantId r = tenantId → Stored.tenantId (f r) = tenantId) :
    Beside tenantId t₀ (t.update k f hf) where
  others := by
    rw [← h.others]
    apply Table.ext
    refine Table.filter_update fun r hr hkey => ?_
    have hr' : Stored.tenantId r = tenantId := h.unclaimed_iff.2 hown r hr hkey
    exact ⟨by simp [hr'], by simp [htenant r hr']⟩
  kept id hid := by
    rw [Table.find?_update]
    split
    · simpa using h.kept id hid
    · exact h.kept id hid

end Beside

/-- The actions of the lifecycle and of the discovery. -/
def lifecycleActions : List String :=
  ["mapping.create_draft", "mapping.create_new_version", "mapping.submit_for_validation",
    "mapping.approve", "mapping.activate", "mapping.deprecate", "mapping.reject",
    "mapping.suspend_due_to_drift", "schema_discovery.start", "schema_discovery.profiling",
    "schema_discovery.run"]

structure Confined (tenantId : Uuid) (db₀ db : ControlPlane) : Prop where
  snapshots : Beside tenantId db₀.snapshots db.snapshots
  mappings : Beside tenantId db₀.mappings db.mappings
  versions : Beside tenantId db₀.versions db.versions
  rest : db = { db₀ with
    snapshots := db.snapshots, mappings := db.mappings, versions := db.versions, audit := db.audit }
  audit : ∃ events, db.audit = db₀.audit ++ events ∧
    ∀ event ∈ events, event.tenantId = some tenantId ∧ event.action ∈ lifecycleActions

/-- The tenant a call is made for; other services have no context here. -/
def callContext : Call → Option TenantContext
  | .createDraft ctx .. => some ctx
  | .createNewVersion ctx .. => some ctx
  | .submitForValidation ctx _ => some ctx
  | .approve ctx _ => some ctx
  | .activate ctx _ => some ctx
  | .deprecateMapping ctx _ => some ctx
  | .reject ctx _ => some ctx
  | .suspendAffectedByDrift ctx _ => some ctx
  | .startDiscovery ctx .. => some ctx
  | .runDiscoveryJob ctx .. => some ctx
  | .otherServices .. => none

section

variable {std : Stdlib} {ctx : TenantContext} {db₀ : ControlPlane}

theorem Confined.refl (tenantId : Uuid) (db : ControlPlane) : Confined tenantId db db :=
  ⟨.refl _ _, .refl _ _, .refl _ _, rfl, [], by simp, nofun⟩

/-- The call keeps to the tenant of its context. -/
abbrev Keeping (ctx : TenantContext) (db₀ : ControlPlane) {α : Type} (x : Session α) : Prop :=
  Maintains (Confined ctx.tenantId db₀) (fun _ => True) x

/-! ## The steps -/

theorem keeping_record {action : String} {outcome : AuditOutcome} {resourceType : String}
    {resourceId : Uuid} {details : List (String × Option Value)} {principalId : Option Uuid}
    (haction : action ∈ lifecycleActions) :
    Keeping ctx db₀ (record ctx action outcome resourceType resourceId details principalId) := by
  intro db u db' h hrecord
  obtain rfl := record_ok.1 hrecord
  obtain ⟨events, haudit, hevents⟩ := h.audit
  refine ⟨⟨h.snapshots, h.mappings, h.versions, by rw [h.rest], ?_⟩, trivial⟩
  rw [haudit, List.append_assoc]
  refine ⟨_, rfl, fun event hevent => ?_⟩
  rcases List.mem_append.1 hevent with hold | hnew
  · exact hevents event hold
  · rw [List.mem_singleton.1 hnew]
    exact ⟨rfl, haction⟩

/-- A row that was read is the tenant's, and no other tenant has its id. -/
theorem maintains_require {ρ : Type} [HasKey ρ Uuid] [Stored ρ] (id : Uuid)
    (hbeside : ∀ db, Confined ctx.tenantId db₀ db →
      Beside ctx.tenantId (Stored.table db₀ : Table ρ) (Stored.table db)) :
    Maintains (Confined ctx.tenantId db₀)
      (fun row : ρ => Stored.tenantId row = ctx.tenantId ∧
        Unclaimed ctx.tenantId (Stored.table db₀ : Table ρ) (key row))
      (read fun db => require ρ db id ctx : Session ρ) := by
  refine .read fun db row h hrow => ?_
  obtain ⟨hfind, htenant⟩ := require_ok.1 hrow
  have hmem := (Table.find?_eq_some.1 hfind).1
  exact ⟨htenant, (hbeside db h).unclaimed_iff.1 (unclaimed_key hmem htenant)⟩

theorem keeping_addMapping (mapping : SchemaMapping) : Keeping ctx db₀ (add ctx mapping) := by
  intro db u db' h hadd
  obtain ⟨htenant, -, t, hi, rfl⟩ := add_ok.1 hadd
  exact ⟨⟨h.snapshots, h.mappings.insert htenant hi, h.versions, by rw [h.rest]; rfl, h.audit⟩,
    trivial⟩

theorem keeping_addVersion (version : MappingVersion) : Keeping ctx db₀ (add ctx version) := by
  intro db u db' h hadd
  obtain ⟨htenant, -, t, hi, rfl⟩ := add_ok.1 hadd
  exact ⟨⟨h.snapshots, h.mappings, h.versions.insert htenant hi, by rw [h.rest]; rfl, h.audit⟩,
    trivial⟩

theorem keeping_addSnapshot (snapshot : SchemaSnapshot) : Keeping ctx db₀ (add ctx snapshot) := by
  intro db u db' h hadd
  obtain ⟨htenant, -, t, hi, rfl⟩ := add_ok.1 hadd
  exact ⟨⟨h.snapshots.insert htenant hi, h.mappings, h.versions, by rw [h.rest]; rfl, h.audit⟩,
    trivial⟩

/-- A row of the tenant, as it is assigned. -/
def Own (ctx : TenantContext) (db₀ : ControlPlane) (mapping : SchemaMapping) : Prop :=
  mapping.tenantId = ctx.tenantId ∧ Unclaimed ctx.tenantId db₀.mappings mapping.id

theorem maintains_mapping (mappingId : Uuid) :
    Maintains (Confined ctx.tenantId db₀) (Own ctx db₀)
      (read fun db => require SchemaMapping db mappingId ctx : Session SchemaMapping) :=
  maintains_require mappingId fun _ h => h.mappings

theorem keeping_flushMapping {old new : SchemaMapping} (hold : Own ctx db₀ old)
    (hid : new.id = old.id) (htenant : new.tenantId = old.tenantId) :
    Keeping ctx db₀ (flushMapping old new) := by
  have hset : ∀ db, Confined ctx.tenantId db₀ db →
      Confined ctx.tenantId db₀ (setMapping db (bumped old new)) := by
    intro db h
    have hnew : (bumped old new).id = old.id ∧ (bumped old new).tenantId = ctx.tenantId := by
      unfold bumped
      split
      · exact ⟨rfl, hold.1⟩
      · exact ⟨hid, htenant.trans hold.1⟩
    refine ⟨h.snapshots, h.mappings.update (by intro _; rfl) ?_ fun _ _ => hnew.2, h.versions, by rw [h.rest]; rfl,
      h.audit⟩
    rw [hnew.1]
    exact hold.2
  refine .write fun db db' h hw => ?_
  split at hw
  · cases hw
    exact h
  · split at hw
    · split at hw
      · cases hw
        exact hset db h
      · cases hw
    · cases hw

theorem keeping_flushApproval {version : MappingVersion} (userId : Uuid)
    (hown : Unclaimed ctx.tenantId db₀.versions version.id) :
    Keeping ctx db₀ (flushApproval version userId) := by
  refine .write fun db db' h hw => ?_
  split at hw
  · cases hw
  · cases hw
    exact ⟨h.snapshots, h.mappings, h.versions.update (by intro _; rfl) hown fun _ htenant => htenant,
      by rw [h.rest]; rfl, h.audit⟩

theorem keeping_flushSnapshot {snapshot : SchemaSnapshot}
    (htenant : snapshot.tenantId = ctx.tenantId)
    (hown : Unclaimed ctx.tenantId db₀.snapshots snapshot.id) :
    Keeping ctx db₀ (flushSnapshot snapshot) := by
  refine .write fun db db' h hw => ?_
  cases hw
  exact ⟨h.snapshots.update (by intro _; rfl) hown fun _ _ => htenant, h.mappings, h.versions, by rw [h.rest]; rfl,
    h.audit⟩

/-- The latest version of a mapping is one that the tenant can see. -/
theorem maintains_latestVersion (mapping : SchemaMapping) :
    Maintains (Confined ctx.tenantId db₀)
      (fun version : MappingVersion => Unclaimed ctx.tenantId db₀.versions version.id)
      (read fun db => latestVersionFor db mapping ctx : Session MappingVersion) := by
  refine .read fun db version h hversion => ?_
  obtain ⟨hmem, -⟩ := latestVersionFor_ok hversion
  obtain ⟨hmem, htenant, -⟩ := mem_versionsOf.1 hmem
  exact h.versions.unclaimed_iff.1 (unclaimed_key hmem htenant)

/-- An assignment and its event. -/
theorem keeping_assigned {α : Type} {old new : SchemaMapping} {action : String}
    {details : List (String × Option Value)} {principalId : Option Uuid} {result : α}
    (hold : Own ctx db₀ old) (hnew : new.id = old.id ∧ new.tenantId = old.tenantId)
    (haction : action ∈ lifecycleActions) :
    Keeping ctx db₀ (do
      flushMapping old new
      record ctx action .SUCCESS "SchemaMapping" old.id details principalId
      return result) :=
  (keeping_flushMapping hold hnew.1 hnew.2).andThen fun _ => (keeping_record haction).andThen
    fun _ => .returned result

/-! ## The methods -/

section

attribute [local simp] lifecycleActions

theorem keeping_createDraft (schemaSnapshotId : Uuid) (document : MappingDocument)
    (ontologyVersion : String) (isAiSuggested : Bool) (confidence : Option ℚ)
    (explanation : Option String) (mappingId versionId : Uuid) :
    Keeping ctx db₀ (createDraft ctx schemaSnapshotId document ontologyVersion isAiSuggested
      confidence explanation mappingId versionId) := by
  refine (keeping_addMapping _).andThen fun _ => (keeping_addVersion _).andThen fun _ => ?_
  exact (keeping_record (by simp)).andThen fun _ => .returned _

theorem keeping_createNewVersion (mappingId : Uuid) (document : MappingDocument)
    (isAiSuggested : Bool) (confidence : Option ℚ) (explanation : Option String)
    (versionId : Uuid) :
    Keeping ctx db₀ (createNewVersion ctx mappingId document isAiSuggested confidence explanation
      versionId) := by
  refine (maintains_mapping mappingId).bind fun mapping hown => (Maintains.looked _).andThen
    fun number => (keeping_addVersion _).andThen fun _ => ?_
  exact keeping_assigned hown (by simp) (by simp)

theorem keeping_submitForValidation (mappingId : Uuid) :
    Keeping ctx db₀ (submitForValidation std ctx mappingId) := by
  refine (maintains_mapping mappingId).bind fun mapping hown => (Maintains.raiseIf _ _).andThen
    fun _ => (Maintains.looked _).andThen fun version => (Maintains.looked _).andThen fun _ => ?_
  exact keeping_assigned hown (by simp) (by simp)

theorem keeping_approve (mappingId : Uuid) : Keeping ctx db₀ (Mappings.approve ctx mappingId) := by
  refine (maintains_mapping mappingId).bind fun mapping hown => (Maintains.raiseIf _ _).andThen
    fun _ => (maintains_latestVersion _).bind fun version hversion => ?_
  refine (keeping_flushApproval _ hversion).andThen fun _ => ?_
  exact keeping_assigned hown (by simp) (by simp)

theorem keeping_activate (mappingId : Uuid) :
    Keeping ctx db₀ (Mappings.activate ctx mappingId) := by
  refine (maintains_mapping mappingId).bind fun mapping hown => (Maintains.raiseIf _ _).andThen
    fun _ => (Maintains.looked _).andThen fun version => ?_
  exact keeping_assigned hown (by simp) (by simp)

theorem keeping_deprecateMapping (mappingId : Uuid) :
    Keeping ctx db₀ (deprecateMapping ctx mappingId) := by
  refine (maintains_mapping mappingId).bind fun mapping hown => (Maintains.raiseIf _ _).andThen
    fun _ => ?_
  exact keeping_assigned hown (by simp) (by simp)

theorem keeping_reject (mappingId : Uuid) : Keeping ctx db₀ (Mappings.reject ctx mappingId) := by
  refine (maintains_mapping mappingId).bind fun mapping hown => (Maintains.raiseIf _ _).andThen
    fun _ => ?_
  exact keeping_assigned hown (by simp) (by simp)

theorem keeping_suspendIfAffected {snapshot : SchemaSnapshot} {mapping : SchemaMapping}
    (hown : Own ctx db₀ mapping) : Keeping ctx db₀ (suspendIfAffected ctx snapshot mapping) := by
  unfold suspendIfAffected
  split
  · exact .returned _
  · split
    · exact .returned _
    · refine (Maintains.looked _).andThen fun version => ?_
      dsimp only
      split
      · exact keeping_assigned hown (by simp) (by simp)
      · exact .returned _

theorem keeping_suspendAffectedByDrift (snapshot : SchemaSnapshot) :
    Keeping ctx db₀ (suspendAffectedByDrift ctx snapshot) := by
  unfold suspendAffectedByDrift
  split
  · exact .returned _
  · refine Maintains.bind (T := fun ms => ∀ m ∈ ms, Own ctx db₀ m) ?_ fun ms hms =>
      .gather fun m hm => keeping_suspendIfAffected (hms m hm)
    refine .read fun db ms h hlist m hm => ?_
    cases hlist
    obtain ⟨hmem, htenant⟩ := mem_listForTenant.1 hm
    exact ⟨htenant, h.mappings.unclaimed_iff.1 (unclaimed_key hmem htenant)⟩

theorem keeping_startDiscovery (connectionId snapshotId : Uuid) :
    Keeping ctx db₀ (startDiscovery ctx connectionId snapshotId) := by
  refine (Maintains.looked _).andThen fun number => (keeping_addSnapshot _).andThen fun _ => ?_
  exact (keeping_record (by simp)).andThen fun _ => .returned _

theorem keeping_runDiscovery (env : DiscoveryEnv) (snapshotId : Uuid)
    (profiling : Option ProfilingConfig) :
    Keeping ctx db₀ (runDiscovery std env ctx snapshotId profiling) := by
  refine (maintains_require snapshotId fun _ h => h.snapshots).bind fun snapshot hown => ?_
  refine (Maintains.looked _).andThen fun p => (Maintains.looked _).andThen fun result => ?_
  refine (Maintains.looked _).andThen fun previous => (Maintains.looked _).andThen fun profiles => ?_
  have hprofiled : Keeping ctx db₀ (recordProfiling ctx snapshot.id profiles) := by
    cases profiles with
    | none => exact .returned _
    | some profiles => exact keeping_record (by simp)
  refine hprofiled.andThen fun _ => Maintains.andThen ?_ fun _ => ?_
  · exact keeping_flushSnapshot hown.1 hown.2
  · exact (keeping_record (by simp)).andThen fun _ => .returned _

end

/-- A call writes rows of its tenant, and events that name it. -/
theorem step_confined {call : Call} (hctx : callContext call = some ctx) (db : ControlPlane) :
    Confined ctx.tenantId db (step std db call) := by
  refine Maintains.after (T := fun _ => True) ?_ (.refl ctx.tenantId db)
  cases call <;> cases hctx <;> refine Maintains.andThen ?_ fun _ => .returned ()
  · exact keeping_createDraft _ _ _ _ _ _ _ _
  · exact keeping_createNewVersion _ _ _ _ _ _
  · exact keeping_submitForValidation _
  · exact keeping_approve _
  · exact keeping_activate _
  · exact keeping_deprecateMapping _
  · exact keeping_reject _
  · exact keeping_suspendAffectedByDrift _
  · exact keeping_startDiscovery _ _
  · exact keeping_runDiscovery _ _ _

end

end Lifecycle

end HermesRpt
