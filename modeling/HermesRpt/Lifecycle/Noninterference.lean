import HermesRpt.Lib.Noninterference
import HermesRpt.Lifecycle.Confinement

/-!
# HermesRpt.Lifecycle.Noninterference

Tenants share the tables, and one tenant cannot tell from its mappings, its snapshots or the answers
it gets that it has no database of its own.

* `Mirrors` : two tables with the same rows of the tenant; an id that no other tenant has in the
  first is free of them in the second.
* `Alike`   : two control planes that mirror each other, with the same connections and users.
* `databaseOf` : the control plane without the rows and the events of the others.
* `Clear`   : the ids that a call draws are no other tenant's, and a draft names a snapshot that
  is no other tenant's. The service checks neither: the ids are random, and the reference to a
  snapshot is a foreign key of the whole table.
-/

namespace HermesRpt

namespace Lifecycle

open Keyed (Table HasKey)
open Keyed.HasKey
open Transaction Machine
open Connectors Schemas Mappings Features

section Mirrors

variable {ρ : Type} [HasKey ρ Uuid] [Stored ρ] {tenantId : Uuid} {t t' u : Table ρ} {r : ρ}
  {id : Uuid}

/-- The rows of the tenant. -/
def own (tenantId : Uuid) (t : Table ρ) : Table ρ := t.filter fun r => Stored.tenantId r = tenantId

structure Mirrors (tenantId : Uuid) (t u : Table ρ) : Prop where
  own : own tenantId t = own tenantId u
  unclaimed : ∀ id, Unclaimed tenantId t id → Unclaimed tenantId u id

instance : Decidable (Unclaimed tenantId t id) :=
  inferInstanceAs (Decidable (∀ r ∈ t.rows, key r = id → Stored.tenantId r = tenantId))

theorem mem_own : r ∈ own tenantId t ↔ r ∈ t ∧ Stored.tenantId r = tenantId := by
  simp [own, Table.mem_filter]

/-- A table without the rows of others. -/
theorem Mirrors.ofOwn (tenantId : Uuid) (t : Table ρ) :
    Mirrors tenantId t (Lifecycle.own tenantId t) where
  own := by
    apply Table.ext
    show t.rows.filter _ = (t.rows.filter _).filter _
    rw [List.filter_filter]
    exact List.filter_congr fun r _ => (Bool.and_self _).symm
  unclaimed _ hid r hr := hid r (mem_own.1 hr).1

/-- The repository looks among the tenant's rows. -/
theorem get_own (db : ControlPlane) (id : Uuid) (ctx : TenantContext) :
    (get db id ctx : Option ρ) = (own ctx.tenantId (Stored.table db)).find? id := by
  ext entity
  rw [get_eq_some, Table.find?_eq_some, Table.find?_eq_some, mem_own]
  tauto

theorem find?_own (hid : Unclaimed tenantId t id) : t.find? id = (own tenantId t).find? id := by
  ext entity
  rw [Table.find?_eq_some, Table.find?_eq_some, mem_own]
  constructor
  · rintro ⟨hmem, hkey⟩
    exact ⟨⟨hmem, hid entity hmem hkey⟩, hkey⟩
  · rintro ⟨⟨hmem, -⟩, hkey⟩
    exact ⟨hmem, hkey⟩

theorem Mirrors.find? (h : Mirrors tenantId t u) (hid : Unclaimed tenantId t id) :
    t.find? id = u.find? id := by
  rw [find?_own hid, find?_own (h.unclaimed id hid), h.own]

/-- A constraint on the tenant's rows. -/
theorem Mirrors.all (h : Mirrors tenantId t u) (p : ρ → Bool)
    (hp : ∀ r, Stored.tenantId r ≠ tenantId → p r = true) : t.rows.all p = u.rows.all p := by
  have hown (t : Table ρ) : t.rows.all p = (Lifecycle.own tenantId t).rows.all p := by
    rw [Bool.eq_iff_iff, List.all_eq_true, List.all_eq_true]
    constructor
    · intro hall r hr
      exact hall r (mem_own.1 hr).1
    · intro hall r hr
      by_cases htenant : Stored.tenantId r = tenantId
      · exact hall r (mem_own.2 ⟨hr, htenant⟩)
      · exact hp r htenant
  rw [hown t, hown u, h.own]

theorem unclaimed_insert {t' : Table ρ} (hi : t.insert? r = some t')
    (htenant : Stored.tenantId r = tenantId) :
    Unclaimed tenantId t' id ↔ Unclaimed tenantId t id := by
  constructor
  · intro hid r' hr' hkey
    exact hid r' ((Table.mem_insert? hi).2 (.inl hr')) hkey
  · intro hid r' hr' hkey
    rcases (Table.mem_insert? hi).1 hr' with hold | rfl
    · exact hid r' hold hkey
    · exact htenant

theorem own_insert (hi : t.insert? r = some t') (htenant : Stored.tenantId r = tenantId) :
    (own tenantId t').rows = (own tenantId t).rows ++ [r] := by
  show t'.rows.filter _ = t.rows.filter _ ++ [r]
  rw [(Table.insert?_eq_some.1 hi).2, List.filter_append]
  simp [htenant]

/-- A new row of the tenant is refused in both tables or in none. -/
theorem Mirrors.insert (h : Mirrors tenantId t u) (htenant : Stored.tenantId r = tenantId)
    (hid : Unclaimed tenantId t (key r)) :
    (∃ t' u', t.insert? r = some t' ∧ u.insert? r = some u' ∧ Mirrors tenantId t' u') ∨
      t.insert? r = none ∧ u.insert? r = none := by
  have hfind := h.find? hid
  cases hold : t.find? (key r) with
  | none =>
    obtain ⟨t', ht'⟩ := Table.insert?_isSome hold
    obtain ⟨u', hu'⟩ := Table.insert?_isSome (hfind.symm.trans hold)
    refine .inl ⟨t', u', ht', hu', Table.ext ?_, fun id hid => ?_⟩
    · rw [own_insert ht' htenant, own_insert hu' htenant, h.own]
    · rw [unclaimed_insert hu' htenant]
      exact h.unclaimed id ((unclaimed_insert ht' htenant).1 hid)
  | some row =>
    have hrefused (t : Table ρ) (hrow : t.find? (key r) = some row) : t.insert? r = none := by
      cases hi : t.insert? r with
      | none => rfl
      | some t' =>
        have hnone := (Table.insert?_eq_some.1 hi).1
        rw [hrow] at hnone
        cases hnone
    exact .inr ⟨hrefused t hold, hrefused u (hfind.symm.trans hold)⟩

section Update

variable {k : Uuid} {f : ρ → ρ} {hf : ∀ r, key (f r) = (key r : Uuid)}

theorem own_update (hk : Unclaimed tenantId t k)
    (hkeep : ∀ r : ρ, Stored.tenantId r = tenantId → Stored.tenantId (f r) = tenantId) :
    own tenantId (t.update k f hf) = (own tenantId t).update k f hf := by
  apply Table.ext
  show (t.rows.map _).filter _ = (t.rows.filter _).map _
  rw [List.filter_map]
  refine congrArg _ (List.filter_congr fun r hr => ?_)
  show decide (Stored.tenantId (if key r = k then f r else r) = tenantId) = _
  split
  · rename_i hkey
    have htenant := hk r hr hkey
    simp [htenant, hkeep r htenant]
  · rfl

theorem unclaimed_update (hk : Unclaimed tenantId t k)
    (hkeep : ∀ r : ρ, Stored.tenantId r = tenantId → Stored.tenantId (f r) = tenantId) :
    Unclaimed tenantId (t.update k f hf) id ↔ Unclaimed tenantId t id := by
  constructor
  · intro hid r hr hkey
    by_cases hrk : (key r : Uuid) = k
    · exact hk r hr hrk
    · exact hid r (Table.mem_update.2 ⟨r, hr, (if_neg hrk).symm⟩) hkey
  · rintro hid r' hr' hkey
    obtain ⟨r, hr, rfl⟩ := Table.mem_update.1 hr'
    split at hkey
    · rename_i hrk
      rw [if_pos hrk]
      exact hkeep r (hk r hr hrk)
    · rename_i hrk
      rw [if_neg hrk]
      exact hid r hr hkey

theorem Mirrors.update (h : Mirrors tenantId t u) (hf : ∀ r, key (f r) = (key r : Uuid))
    (hk : Unclaimed tenantId t k)
    (hkeep : ∀ r : ρ, Stored.tenantId r = tenantId → Stored.tenantId (f r) = tenantId) :
    Mirrors tenantId (t.update k f hf) (u.update k f hf) where
  own := by rw [own_update hk hkeep, own_update (h.unclaimed k hk) hkeep, h.own]
  unclaimed id hid := by
    rw [unclaimed_update (h.unclaimed k hk) hkeep]
    exact h.unclaimed id ((unclaimed_update hk hkeep).1 hid)

end Update

/-- What another tenant writes in the first table is not seen. -/
theorem Mirrors.grown (h : Mirrors tenantId t u) {other : Uuid} (hne : other ≠ tenantId)
    (hbeside : Beside other t t') : Mirrors tenantId t' u where
  own := by
    have hown (t : Table ρ) :
        Lifecycle.own tenantId t = Lifecycle.own tenantId (foreign other t) := by
      apply Table.ext
      show t.rows.filter _ = (t.rows.filter _).filter _
      rw [List.filter_filter]
      refine List.filter_congr fun r _ => ?_
      by_cases htenant : Stored.tenantId r = tenantId
      · simp [htenant, hne.symm]
      · simp [htenant]
    rw [hown t', hbeside.others, ← hown t, h.own]
  unclaimed id hid := by
    refine h.unclaimed id fun r hr hkey => ?_
    by_contra htenant
    obtain ⟨r', hr'⟩ := Option.isSome_iff_exists.1 (hbeside.kept id
      (Option.isSome_iff_exists.2 ⟨r, Table.find?_eq_some.2 ⟨hr, hkey⟩⟩))
    obtain ⟨hmem', hkey'⟩ := Table.find?_eq_some.1 hr'
    have howner := hid r' hmem' hkey'
    -- A row of the tenant itself was not written: it is the row `r` of before.
    have hold : r' ∈ foreign other t := by
      rw [← hbeside.others, mem_foreign]
      exact ⟨hmem', by rw [howner]; exact hne.symm⟩
    rw [Table.eq_of_key_eq hr (mem_foreign.1 hold).1 (hkey.trans hkey'.symm)] at htenant
    exact htenant howner

end Mirrors

/-- The tenant's events. -/
def eventsOf (tenantId : Uuid) (db : ControlPlane) : List AuditEvent :=
  db.audit.filter fun event => event.tenantId = some tenantId

structure Alike (tenantId : Uuid) (s t : ControlPlane) : Prop where
  snapshots : Mirrors tenantId s.snapshots t.snapshots
  mappings : Mirrors tenantId s.mappings t.mappings
  versions : Mirrors tenantId s.versions t.versions
  users : s.users = t.users
  credentials : s.credentials = t.credentials
  connections : s.connections = t.connections
  audit : eventsOf tenantId s = eventsOf tenantId t

section

variable {std : Stdlib} {ctx : TenantContext} {db₀ s t : ControlPlane} {tenantId : Uuid}

/-- A database of the tenant's own: the shared one without the other tenants' rows and events. -/
def databaseOf (tenantId : Uuid) (db : ControlPlane) : ControlPlane :=
  { db with
    snapshots := own tenantId db.snapshots, mappings := own tenantId db.mappings
    versions := own tenantId db.versions, audit := eventsOf tenantId db }

theorem Alike.databaseOf (tenantId : Uuid) (db : ControlPlane) :
    Alike tenantId db (databaseOf tenantId db) where
  snapshots := .ofOwn tenantId db.snapshots
  mappings := .ofOwn tenantId db.mappings
  versions := .ofOwn tenantId db.versions
  users := rfl
  credentials := rfl
  connections := rfl
  audit := by
    show db.audit.filter _ = (db.audit.filter _).filter _
    rw [List.filter_filter]
    exact List.filter_congr fun event _ => (Bool.and_self _).symm

/-- What another tenant's call writes is not seen. -/
theorem Alike.grown (h : Alike tenantId s t) {other : Uuid} (hne : other ≠ tenantId)
    {s' : ControlPlane} (hconfined : Confined other s s') : Alike tenantId s' t where
  snapshots := h.snapshots.grown hne hconfined.snapshots
  mappings := h.mappings.grown hne hconfined.mappings
  versions := h.versions.grown hne hconfined.versions
  users := by rw [hconfined.rest, ← h.users]
  credentials := by rw [hconfined.rest, ← h.credentials]
  connections := by rw [hconfined.rest, ← h.connections]
  audit := by
    obtain ⟨events, haudit, hevents⟩ := hconfined.audit
    have hnone : events.filter (fun event => event.tenantId = some tenantId) = [] := by
      rw [List.filter_eq_nil_iff]
      intro event hevent
      simp [(hevents event hevent).1, hne]
    rw [← h.audit, eventsOf, haudit, List.filter_append, hnone, List.append_nil, eventsOf]

/-! ## The reads -/

section Reads

variable {ρ : Type} [HasKey ρ Uuid] [Stored ρ]

theorem Mirrors.get
    (h : Mirrors ctx.tenantId (Stored.table s : Table ρ) (Stored.table t)) (id : Uuid) :
    (get s id ctx : Option ρ) = get t id ctx := by
  rw [get_own, get_own, h.own]

theorem Mirrors.require
    (h : Mirrors ctx.tenantId (Stored.table s : Table ρ) (Stored.table t)) (id : Uuid) :
    require ρ s id ctx = require ρ t id ctx := by
  rw [HermesRpt.require, HermesRpt.require, h.get id]

theorem Mirrors.listForTenant
    (h : Mirrors ctx.tenantId (Stored.table s : Table ρ) (Stored.table t)) :
    listForTenant ρ s ctx = listForTenant ρ t ctx := congrArg Table.rows h.own

end Reads

variable (h : Alike ctx.tenantId s t)

include h

theorem Alike.snapshotsOf (connectionId : Uuid) :
    snapshotsOf s connectionId ctx = snapshotsOf t connectionId ctx :=
  congrArg (List.filter _) h.snapshots.listForTenant

theorem Alike.versionsOf (mapping : SchemaMapping) :
    versionsOf s mapping ctx = versionsOf t mapping ctx :=
  congrArg (List.filter _) h.versions.listForTenant

theorem Alike.latestVersionFor (mapping : SchemaMapping) :
    latestVersionFor s mapping ctx = latestVersionFor t mapping ctx := by
  rw [Mappings.latestVersionFor, Mappings.latestVersionFor, h.versionsOf mapping]

theorem Alike.validateVersion (mapping : SchemaMapping) (version : MappingVersion) :
    validateVersion std s mapping version ctx = validateVersion std t mapping version ctx := by
  rw [Mappings.validateVersion, Mappings.validateVersion,
    h.snapshots.require mapping.schemaSnapshotId]

theorem Alike.getOrCreateEngine (secrets : SecretProvider) (pool : PoolRegistry)
    (connectionId : Uuid) :
    getOrCreateEngine secrets s pool connectionId ctx =
      getOrCreateEngine secrets t pool connectionId ctx := by
  have hconnection (id : Uuid) :
      require CustomerDatabaseConnection s id ctx =
        require CustomerDatabaseConnection t id ctx := by
    rw [HermesRpt.require, HermesRpt.require, HermesRpt.get, HermesRpt.get]
    simp only [Stored.table, h.connections]
  have hcredential (id : Uuid) :
      require DatabaseCredentialReference s id ctx =
        require DatabaseCredentialReference t id ctx := by
    rw [HermesRpt.require, HermesRpt.require, HermesRpt.get, HermesRpt.get]
    simp only [Stored.table, h.credentials]
  simp only [Connectors.getOrCreateEngine, Connectors.resolveTarget, hconnection, hcredential]

theorem Alike.getProductionVersion (mappingId : Uuid) :
    getProductionVersion s ctx mappingId = getProductionVersion t ctx mappingId := by
  simp only [Mappings.getProductionVersion, h.mappings.require, h.versions.require]

theorem Alike.getActiveByEntityName (entityName : String) :
    getActiveByEntityName s entityName ctx = getActiveByEntityName t entityName ctx := by
  have hrows (db : ControlPlane) : (db.mappings.rows.filter fun m =>
      m.tenantId = ctx.tenantId ∧ m.entityName = entityName ∧ m.state = .ACTIVE) =
      (listForTenant SchemaMapping db ctx).filter fun m =>
        m.entityName = entityName ∧ m.state = .ACTIVE := by
    rw [HermesRpt.listForTenant, List.filter_filter]
    refine List.filter_congr fun m _ => ?_
    rw [Bool.eq_iff_iff]
    simp only [Stored.tenantId, decide_eq_true_eq, Bool.and_eq_true]
    tauto
  rw [Features.getActiveByEntityName, Features.getActiveByEntityName, hrows s, hrows t,
    h.mappings.listForTenant]

theorem Alike.resolve (entityName : String) :
    resolve s entityName ctx = resolve t entityName ctx := by
  simp only [Features.resolve, h.getActiveByEntityName entityName, h.versions.get]

omit h

/-! ## The steps -/

/-- Two states of one call that started in `db₀`. -/
abbrev Twin (ctx : TenantContext) (db₀ s t : ControlPlane) : Prop :=
  Alike ctx.tenantId s t ∧ Confined ctx.tenantId db₀ s

/-- The call does the same beside other tenants. -/
abbrev Same (ctx : TenantContext) (db₀ : ControlPlane) {α : Type} (x : Session α) : Prop :=
  Agree (Twin ctx db₀) (fun _ => True) x

theorem same_record {action : String} {outcome : AuditOutcome} {resourceType : String}
    {resourceId : Uuid} {details : List (String × Option Value)} {principalId : Option Uuid}
    (haction : action ∈ lifecycleActions) :
    Same ctx db₀ (record ctx action outcome resourceType resourceId details principalId) := by
  refine .write_of_maintains (keeping_record haction) fun s t h _ => .inl ⟨_, _, rfl, rfl, ?_⟩
  refine ⟨h.snapshots, h.mappings, h.versions, h.users, h.credentials, h.connections, ?_⟩
  have hevents := h.audit
  rw [eventsOf, eventsOf] at hevents ⊢
  rw [List.filter_append, List.filter_append, hevents]

section Add

variable {ρ : Type} [HasKey ρ Uuid] [Stored ρ] {entity : ρ}

/-- A new row is refused in both states or in none. -/
theorem same_add (hkeeping : Keeping ctx db₀ (add ctx entity))
    (hadmits : ∀ s t, Twin ctx db₀ s t → Stored.admits s entity = Stored.admits t entity)
    (hmirrors : ∀ s t, Twin ctx db₀ s t →
      Mirrors ctx.tenantId (Stored.table s : Table ρ) (Stored.table t))
    (hset : ∀ s t, Alike ctx.tenantId s t → ∀ s' t' : Table ρ, Mirrors ctx.tenantId s' t' →
      Alike ctx.tenantId (Stored.setTable s s') (Stored.setTable t t'))
    (hclear : ∀ s, Confined ctx.tenantId db₀ s →
      Unclaimed ctx.tenantId (Stored.table s : Table ρ) (key entity)) :
    Same ctx db₀ (add ctx entity) := by
  refine .write_of_maintains hkeeping fun s t h hconfined => ?_
  by_cases htenant : Stored.tenantId entity = ctx.tenantId
  · simp only [htenant, ne_eq, not_true_eq_false, if_false, hadmits s t ⟨h, hconfined⟩]
    by_cases hadmitted : Stored.admits t entity = true
    · simp only [hadmitted, if_true]
      rcases (hmirrors s t ⟨h, hconfined⟩).insert htenant (hclear s hconfined) with
        ⟨s', t', hs, ht, hmirrors'⟩ | ⟨hs, ht⟩
      · rw [hs, ht]
        exact .inl ⟨_, _, rfl, rfl, hset s t h s' t' hmirrors'⟩
      · rw [hs, ht]
        exact .inr ⟨_, rfl, rfl⟩
    · simp only [hadmitted]
      exact .inr ⟨_, rfl, rfl⟩
  · simp only [ne_eq, htenant, not_false_eq_true, if_true]
    exact .inr ⟨_, rfl, rfl⟩

end Add

theorem same_addMapping {mapping : SchemaMapping}
    (hsnapshot : Unclaimed ctx.tenantId db₀.snapshots mapping.schemaSnapshotId)
    (hid : Unclaimed ctx.tenantId db₀.mappings mapping.id) : Same ctx db₀ (add ctx mapping) := by
  refine same_add (keeping_addMapping mapping) (fun s t h => ?_) (fun s t h => h.1.mappings)
    (fun s t h s' t' hmirrors => ?_) fun s h => h.mappings.unclaimed_iff.2 hid
  · show (s.snapshots.find? _).isSome = (t.snapshots.find? _).isSome
    rw [h.1.snapshots.find? (h.2.snapshots.unclaimed_iff.2 hsnapshot)]
  · exact ⟨h.snapshots, hmirrors, h.versions, h.users, h.credentials, h.connections, h.audit⟩

theorem same_addVersion {version : MappingVersion} (htenant : version.tenantId = ctx.tenantId)
    (hmapping : Unclaimed ctx.tenantId db₀.mappings version.schemaMappingId)
    (hid : Unclaimed ctx.tenantId db₀.versions version.id) : Same ctx db₀ (add ctx version) := by
  refine same_add (keeping_addVersion version) (fun s t h => ?_) (fun s t h => h.1.versions)
    (fun s t h s' t' hmirrors => ?_) fun s h => h.versions.unclaimed_iff.2 hid
  · simp only [Stored.admits]
    rw [h.1.mappings.find? (h.2.mappings.unclaimed_iff.2 hmapping), h.1.users,
      h.1.versions.all _ fun r hr => ?_]
    have hne : r.tenantId ≠ version.tenantId := by rw [htenant]; exact hr
    simp [hne]
  · exact ⟨h.snapshots, h.mappings, hmirrors, h.users, h.credentials, h.connections, h.audit⟩

theorem same_addSnapshot {snapshot : SchemaSnapshot} (htenant : snapshot.tenantId = ctx.tenantId)
    (hid : Unclaimed ctx.tenantId db₀.snapshots snapshot.id) : Same ctx db₀ (add ctx snapshot) := by
  refine same_add (keeping_addSnapshot snapshot) (fun s t h => ?_) (fun s t h => h.1.snapshots)
    (fun s t h s' t' hmirrors => ?_) fun s h => h.snapshots.unclaimed_iff.2 hid
  · simp only [Stored.admits]
    rw [h.1.connections, h.1.snapshots.all _ fun r hr => ?_]
    have hne : r.tenantId ≠ snapshot.tenantId := by rw [htenant]; exact hr
    simp [hne]
  · exact ⟨hmirrors, h.mappings, h.versions, h.users, h.credentials, h.connections, h.audit⟩

theorem same_mapping (mappingId : Uuid) :
    Agree (Twin ctx db₀) (Own ctx db₀)
      (read fun db => require SchemaMapping db mappingId ctx : Session SchemaMapping) :=
  .read_of_maintains (maintains_mapping mappingId) fun _ _ h => h.mappings.require mappingId

theorem same_latestVersion (mapping : SchemaMapping) :
    Agree (Twin ctx db₀)
      (fun version : MappingVersion => Unclaimed ctx.tenantId db₀.versions version.id)
      (read fun db => latestVersionFor db mapping ctx : Session MappingVersion) :=
  .read_of_maintains (maintains_latestVersion mapping) fun _ _ h => h.latestVersionFor mapping

theorem same_flushMapping {old new : SchemaMapping} (hold : Own ctx db₀ old)
    (hid : new.id = old.id) (htenant : new.tenantId = old.tenantId) :
    Same ctx db₀ (flushMapping old new) := by
  refine .write_of_maintains (keeping_flushMapping hold hid htenant) fun s t h hconfined => ?_
  have hclear := hconfined.mappings.unclaimed_iff.2 hold.2
  have hfind := h.mappings.find? hclear
  have hnew : (bumped old new).id = old.id ∧ (bumped old new).tenantId = ctx.tenantId :=
    ⟨bumped_id old new hid, (bumped_tenantId old new).trans (htenant.trans hold.1)⟩
  have hset :
      Alike ctx.tenantId (setMapping s (bumped old new)) (setMapping t (bumped old new)) := by
    refine ⟨h.snapshots, h.mappings.update (by intro _; rfl) ?_ fun _ _ => hnew.2, h.versions,
      h.users, h.credentials, h.connections, h.audit⟩
    rw [hnew.1]
    exact hclear
  rw [← hfind]
  by_cases hsame : new = old
  · simp only [hsame, if_true]
    exact .inl ⟨s, t, rfl, rfl, h⟩
  · simp only [hsame, if_false]
    cases s.mappings.find? old.id with
    | none => exact .inr ⟨_, rfl, rfl⟩
    | some row =>
      by_cases hversion : row.version = old.version
      · simp only [hversion, if_true]
        exact .inl ⟨_, _, rfl, rfl, hset⟩
      · simp only [hversion, if_false]
        exact .inr ⟨_, rfl, rfl⟩

theorem same_flushApproval {version : MappingVersion} (userId : Uuid)
    (hown : Unclaimed ctx.tenantId db₀.versions version.id) :
    Same ctx db₀ (flushApproval version userId) := by
  refine .write_of_maintains (keeping_flushApproval userId hown) fun s t h hconfined => ?_
  rw [← h.users]
  by_cases hunknown : version.approvedByUserId ≠ some userId ∧ userId ∉ s.users
  · simp only [if_pos hunknown]
    exact .inr ⟨_, rfl, rfl⟩
  · simp only [if_neg hunknown]
    refine .inl ⟨_, _, rfl, rfl, ⟨h.snapshots, h.mappings, ?_, h.users, h.credentials,
      h.connections, h.audit⟩⟩
    have hclear := hconfined.versions.unclaimed_iff.2 hown
    exact h.versions.update (by intro _; rfl) hclear fun _ htenant => htenant

theorem same_flushSnapshot {snapshot : SchemaSnapshot} (htenant : snapshot.tenantId = ctx.tenantId)
    (hown : Unclaimed ctx.tenantId db₀.snapshots snapshot.id) :
    Same ctx db₀ (flushSnapshot snapshot) := by
  refine .write_of_maintains (keeping_flushSnapshot htenant hown) fun s t h hconfined =>
    .inl ⟨_, _, rfl, rfl, ?_⟩
  have hclear := hconfined.snapshots.unclaimed_iff.2 hown
  exact ⟨h.snapshots.update (by intro _; rfl) hclear fun _ _ => htenant, h.mappings, h.versions,
    h.users, h.credentials, h.connections, h.audit⟩

/-- An assignment and its event. -/
theorem same_assigned {α : Type} {old new : SchemaMapping} {action : String}
    {details : List (String × Option Value)} {principalId : Option Uuid} {result : α}
    (hold : Own ctx db₀ old) (hnew : new.id = old.id ∧ new.tenantId = old.tenantId)
    (haction : action ∈ lifecycleActions) :
    Same ctx db₀ (do
      flushMapping old new
      record ctx action .SUCCESS "SchemaMapping" old.id details principalId
      return result) :=
  (same_flushMapping hold hnew.1 hnew.2).andThen fun _ => (same_record haction).andThen
    fun _ => .returned result

/-! ## The methods -/

section

attribute [local simp] lifecycleActions

theorem same_createDraft (schemaSnapshotId : Uuid) (document : MappingDocument)
    (ontologyVersion : String) (isAiSuggested : Bool) (confidence : Option ℚ)
    (explanation : Option String) (mappingId versionId : Uuid)
    (hsnapshot : Unclaimed ctx.tenantId db₀.snapshots schemaSnapshotId)
    (hmapping : Unclaimed ctx.tenantId db₀.mappings mappingId)
    (hversion : Unclaimed ctx.tenantId db₀.versions versionId) :
    Same ctx db₀ (createDraft ctx schemaSnapshotId document ontologyVersion isAiSuggested
      confidence explanation mappingId versionId) := by
  refine (same_addMapping hsnapshot hmapping).andThen fun _ =>
    (same_addVersion rfl hmapping hversion).andThen fun _ => ?_
  exact (same_record (by simp)).andThen fun _ => .returned _

theorem same_createNewVersion (mappingId : Uuid) (document : MappingDocument)
    (isAiSuggested : Bool) (confidence : Option ℚ) (explanation : Option String)
    (versionId : Uuid) (hversion : Unclaimed ctx.tenantId db₀.versions versionId) :
    Same ctx db₀ (createNewVersion ctx mappingId document isAiSuggested confidence explanation
      versionId) := by
  refine (same_mapping mappingId).bind fun mapping hown => Agree.andThen ?_ fun number => ?_
  · refine .looked fun s t h => ?_
    rw [nextNumber, nextNumber, h.1.versionsOf mapping]
  · refine (same_addVersion rfl hown.2 hversion).andThen fun _ => ?_
    exact same_assigned hown (by simp) (by simp)

theorem same_submitForValidation (mappingId : Uuid) :
    Same ctx db₀ (submitForValidation std ctx mappingId) := by
  refine (same_mapping mappingId).bind fun mapping hown => (Agree.raiseIf _ _).andThen fun _ => ?_
  refine (same_latestVersion mapping).bind fun version _ => Agree.andThen ?_ fun _ => ?_
  · exact .looked fun s t h => h.1.validateVersion mapping version
  · exact same_assigned hown (by simp) (by simp)

theorem same_approve (mappingId : Uuid) : Same ctx db₀ (Mappings.approve ctx mappingId) := by
  refine (same_mapping mappingId).bind fun mapping hown => (Agree.raiseIf _ _).andThen fun _ => ?_
  refine (same_latestVersion mapping).bind fun version hversion => ?_
  refine (same_flushApproval _ hversion).andThen fun _ => ?_
  exact same_assigned hown (by simp) (by simp)

theorem same_activate (mappingId : Uuid) : Same ctx db₀ (Mappings.activate ctx mappingId) := by
  refine (same_mapping mappingId).bind fun mapping hown => (Agree.raiseIf _ _).andThen fun _ => ?_
  refine (same_latestVersion mapping).bind fun version _ => ?_
  exact same_assigned hown (by simp) (by simp)

theorem same_deprecateMapping (mappingId : Uuid) :
    Same ctx db₀ (deprecateMapping ctx mappingId) := by
  refine (same_mapping mappingId).bind fun mapping hown => (Agree.raiseIf _ _).andThen fun _ => ?_
  exact same_assigned hown (by simp) (by simp)

theorem same_reject (mappingId : Uuid) : Same ctx db₀ (Mappings.reject ctx mappingId) := by
  refine (same_mapping mappingId).bind fun mapping hown => (Agree.raiseIf _ _).andThen fun _ => ?_
  exact same_assigned hown (by simp) (by simp)

theorem same_suspendIfAffected {snapshot : SchemaSnapshot} {mapping : SchemaMapping}
    (hown : Own ctx db₀ mapping) : Same ctx db₀ (suspendIfAffected ctx snapshot mapping) := by
  unfold suspendIfAffected
  split
  · exact .returned _
  · split
    · exact .returned _
    · rename_i versionId _ _
      refine Agree.andThen (.looked fun s t h => h.1.versions.require versionId) fun version => ?_
      dsimp only
      split
      · exact same_assigned hown (by simp) (by simp)
      · exact .returned _

theorem same_suspendAffectedByDrift (snapshot : SchemaSnapshot) :
    Same ctx db₀ (suspendAffectedByDrift ctx snapshot) := by
  unfold suspendAffectedByDrift
  split
  · exact .returned _
  · refine Agree.bind (T := fun ms => ∀ m ∈ ms, Own ctx db₀ m) ?_ fun ms hms =>
      .gather fun m hm => same_suspendIfAffected (hms m hm)
    refine .read (fun s t h => congrArg Except.ok h.1.mappings.listForTenant) ?_
    intro s t ms h hlist m hm
    cases hlist
    obtain ⟨hmem, htenant⟩ := mem_listForTenant.1 hm
    exact ⟨htenant, h.2.mappings.unclaimed_iff.1 (unclaimed_key hmem htenant)⟩

theorem same_startDiscovery (connectionId snapshotId : Uuid)
    (hid : Unclaimed ctx.tenantId db₀.snapshots snapshotId) :
    Same ctx db₀ (startDiscovery ctx connectionId snapshotId) := by
  refine Agree.andThen ?_ fun number => (same_addSnapshot rfl hid).andThen fun _ => ?_
  · refine .looked fun s t h => ?_
    rw [nextSequenceNumber, nextSequenceNumber, h.1.snapshotsOf connectionId]
  · exact (same_record (by simp)).andThen fun _ => .returned _

theorem same_runDiscovery (env : DiscoveryEnv) (snapshotId : Uuid)
    (profiling : Option ProfilingConfig) :
    Same ctx db₀ (runDiscovery std env ctx snapshotId profiling) := by
  refine Agree.bind (.read_of_maintains (maintains_require snapshotId fun _ h => h.snapshots)
    fun s t h => h.snapshots.require snapshotId) fun snapshot hown => ?_
  refine Agree.andThen (.looked fun s t h => h.1.getOrCreateEngine _ _ _) fun p => ?_
  refine Agree.andThen (.looked fun _ _ _ => rfl) fun result => Agree.andThen ?_ fun previous => ?_
  · refine .looked fun s t h => ?_
    rw [latestCompleted, latestCompleted, h.1.snapshotsOf snapshot.connectionId]
  refine Agree.andThen (.looked fun _ _ _ => rfl) fun profiles => ?_
  have hprofiled : Same ctx db₀ (recordProfiling ctx snapshot.id profiles) := by
    cases profiles with
    | none => exact .returned _
    | some profiles => exact same_record (by simp)
  refine hprofiled.andThen fun _ => Agree.andThen ?_ fun _ => ?_
  · exact same_flushSnapshot hown.1 hown.2
  · exact (same_record (by simp)).andThen fun _ => .returned _

end

/-! ## The runs -/

/-- The ids that a call draws are no other tenant's, and a draft names no other tenant's
snapshot. -/
def Clear (tenantId : Uuid) (db : ControlPlane) : Call → Prop
  | .createDraft _ schemaSnapshotId _ _ _ _ _ mappingId versionId =>
    Unclaimed tenantId db.snapshots schemaSnapshotId ∧ Unclaimed tenantId db.mappings mappingId ∧
      Unclaimed tenantId db.versions versionId
  | .createNewVersion _ _ _ _ _ _ versionId => Unclaimed tenantId db.versions versionId
  | .startDiscovery _ _ snapshotId => Unclaimed tenantId db.snapshots snapshotId
  | _ => True

/-- The calls of the tenant, and what other services store. -/
def concerns (tenantId : Uuid) (call : Call) : Bool :=
  match callContext call with
  | some ctx => ctx.tenantId = tenantId
  | none => true

/-- What the caller is told: nothing, or an error. -/
def answer (std : Stdlib) (db : ControlPlane) (call : Call) : Except PyError Unit :=
  (perform std call db).map Prod.fst

/-- The answers to the tenant. -/
def answers (std : Stdlib) (tenantId : Uuid) (db : ControlPlane) (calls : List Call) :
    List (Except PyError Unit) :=
  outputs (step std) (fun db call => if concerns tenantId call then [answer std db call] else [])
    db calls

theorem same_perform {call : Call} (hctx : callContext call = some ctx)
    (hclear : Clear ctx.tenantId db₀ call) : Same ctx db₀ (perform std call) := by
  cases call <;> cases hctx <;> refine Agree.andThen ?_ fun _ => .returned ()
  · exact same_createDraft _ _ _ _ _ _ _ _ hclear.1 hclear.2.1 hclear.2.2
  · exact same_createNewVersion _ _ _ _ _ _ hclear
  · exact same_submitForValidation _
  · exact same_approve _
  · exact same_activate _
  · exact same_deprecateMapping _
  · exact same_reject _
  · exact same_suspendAffectedByDrift _
  · exact same_startDiscovery _ _ hclear
  · exact same_runDiscovery _ _ _

theorem separated (std : Stdlib) (tenantId : Uuid) :
    Separated (step std) (fun db call => concerns tenantId call = true → Clear tenantId db call)
      (concerns tenantId)
      (fun db call => if concerns tenantId call then [answer std db call] else [])
      (Alike tenantId) where
  own s t call h hclear hmine := by
    simp only [hmine, if_true, List.cons.injEq, and_true]
    cases hctx : callContext call with
    | some ctx =>
      have htenant : ctx.tenantId = tenantId := by simpa [concerns, hctx] using hmine
      subst htenant
      have hsame : Same ctx s (perform std call) := same_perform hctx (hclear hmine)
      exact ⟨(hsame.after ⟨h, .refl _ _⟩).1, hsame.result ⟨h, .refl _ _⟩⟩
    | none =>
      cases call <;> cases hctx
      exact ⟨⟨h.snapshots, h.mappings, h.versions, rfl, rfl, rfl, h.audit⟩, rfl⟩
  other s t call h hforeign := by
    refine ⟨?_, by simp [hforeign]⟩
    cases hctx : callContext call with
    | some ctx =>
      have hne : ctx.tenantId ≠ tenantId := by simpa [concerns, hctx] using hforeign
      exact h.grown hne (step_confined hctx s)
    | none => simp [concerns, hctx] at hforeign

/-- A tenant's mappings, snapshots and events, the mappings that its predictions use, and the
answers it gets are those of a database of its own, in which the other tenants' calls do not
occur. -/
theorem tenants_do_not_interfere (std : Stdlib) (tenantId : Uuid) (db : ControlPlane)
    (calls : List Call)
    (hclear : Meets (step std)
      (fun db call => concerns tenantId call = true → Clear tenantId db call) db calls) :
    let shared := run (step std) db calls
    let alone := run (step std) (databaseOf tenantId db) (calls.filter (concerns tenantId))
    answers std tenantId db calls =
        answers std tenantId (databaseOf tenantId db) (calls.filter (concerns tenantId)) ∧
      own tenantId shared.snapshots = own tenantId alone.snapshots ∧
      own tenantId shared.mappings = own tenantId alone.mappings ∧
      own tenantId shared.versions = own tenantId alone.versions ∧
      eventsOf tenantId shared = eventsOf tenantId alone ∧
      ∀ ctx : TenantContext, ctx.tenantId = tenantId →
        (∀ entityName, resolve shared entityName ctx = resolve alone entityName ctx) ∧
        ∀ mappingId, getProductionVersion shared ctx mappingId =
          getProductionVersion alone ctx mappingId := by
  have hseparated := separated std tenantId
  have halike := hseparated.run_purge (.databaseOf tenantId db) hclear
  refine ⟨hseparated.outputs_purge (.databaseOf tenantId db) hclear, halike.snapshots.own,
    halike.mappings.own, halike.versions.own, halike.audit, ?_⟩
  rintro ctx rfl
  exact ⟨halike.resolve, halike.getProductionVersion⟩

end

end Lifecycle

namespace Sample

open Machine Mappings Lifecycle

/-- Another tenant drafts a mapping of its own. -/
def foreignDraft : Call :=
  .createDraft { ctx with tenantId := 2 } 20 document "1" false none none 31 41

/-- The control plane after another tenant discovered the same connection. -/
def occupied : ControlPlane := step std db foreignDiscovery

/-- The other tenant drafts a mapping on the snapshot and tries to activate the tenant's, while the
tenant goes from a draft to an active mapping. -/
def neighbours : List Call :=
  [.createDraft ctx 20 document "1" false none none 30 40, foreignDraft,
    .submitForValidation ctx 30, .approve ctx 30, .activate { ctx with tenantId := 2 } 30,
    .activate ctx 30]

theorem clear_neighbours :
    Meets (step std) (fun db call => concerns 1 call = true → Clear 1 db call) occupied
      neighbours := by
  have hdraft : Clear 1 occupied (.createDraft ctx 20 document "1" false none none 30 40) := by
    show Unclaimed 1 _ 20 ∧ Unclaimed 1 _ 30 ∧ Unclaimed 1 _ 40
    refine ⟨?_, ?_, ?_⟩ <;> decide
  exact ⟨fun _ => hdraft, nofun, fun _ => trivial, fun _ => trivial, nofun, fun _ => trivial,
    trivial⟩

theorem tenants_do_not_interfere_neighbours :
    neighbours.filter (concerns 1) = activation ∧
      (run (step std) occupied neighbours).mappings.rows.map (·.id) = [30, 31] ∧
      (run (step std) (databaseOf 1 occupied) activation).mappings.rows.map (·.id) = [30] ∧
      getProductionVersion (run (step std) occupied neighbours) ctx 30 =
        getProductionVersion (run (step std) (databaseOf 1 occupied) activation) ctx 30 := by
  have halone : neighbours.filter (concerns 1) = activation := rfl
  have h := tenants_do_not_interfere std 1 occupied neighbours clear_neighbours
  rw [halone] at h
  obtain ⟨-, -, -, -, -, hreads⟩ := h
  exact ⟨halone, by decide, by decide, (hreads ctx rfl).2 30⟩

end Sample

end HermesRpt
