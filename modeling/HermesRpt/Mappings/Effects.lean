import HermesRpt.Mappings.Service

/-!
# HermesRpt.Mappings.Effects

What each lifecycle method did when it succeeded: the rows it found, the checks that passed, and
the database it left. Proofs about the lifecycle use these and never unfold a method.
-/

namespace HermesRpt

namespace Mappings

open Keyed (Table)
open Transaction
open Schemas

/-! ## Flushes -/

section Bumped

variable (old new : SchemaMapping)

@[simp] theorem bumped_id (h : new.id = old.id) : (bumped old new).id = old.id := by
  unfold bumped; split <;> simp_all

@[simp] theorem bumped_state : (bumped old new).state = new.state := by
  unfold bumped; split <;> simp_all

@[simp] theorem bumped_tenantId : (bumped old new).tenantId = new.tenantId := by
  unfold bumped; split <;> simp_all

@[simp] theorem bumped_entityName : (bumped old new).entityName = new.entityName := by
  unfold bumped; split <;> simp_all

@[simp] theorem bumped_schemaSnapshotId :
    (bumped old new).schemaSnapshotId = new.schemaSnapshotId := by
  unfold bumped; split <;> simp_all

@[simp] theorem bumped_ontologyVersion :
    (bumped old new).ontologyVersion = new.ontologyVersion := by
  unfold bumped; split <;> simp_all

@[simp] theorem bumped_activeVersionId :
    (bumped old new).activeVersionId = new.activeVersionId := by
  unfold bumped; split <;> simp_all

@[simp] theorem bumped_suspendedDueToDrift :
    (bumped old new).suspendedDueToDrift = new.suspendedDueToDrift := by
  unfold bumped; split <;> simp_all

end Bumped

theorem find?_setMapping (db : ControlPlane) {old mapping : SchemaMapping} (k : Uuid)
    (h : db.mappings.find? mapping.id = some old) :
    (setMapping db mapping).mappings.find? k =
      if k = mapping.id then some mapping else db.mappings.find? k := by
  rw [setMapping, Table.find?_update]
  split
  · rename_i hk
    have hid : old.id = mapping.id := (Table.find?_eq_some.1 h).2
    rw [hk, h, Option.map_some, hid]
  · rfl

/-- A flush of the row as it is in the database. -/
theorem flushMapping_ok {db db' : ControlPlane} {old new : SchemaMapping} {u : Unit}
    (hrow : db.mappings.find? old.id = some old) :
    flushMapping old new db = .ok (u, db') ↔ db' = setMapping db (bumped old new) := by
  rw [flushMapping, write_ok]
  by_cases h : new = old
  · have : setMapping db old = db := by
      have : db.mappings.update old.id (fun r => { old with id := r.id }) (fun _ => rfl)
          = db.mappings := by
        apply Table.update_eq_self
        intro r hr hk
        have hr' : r.id = old.id := hk
        have : r = old := Table.eq_of_key_eq hr (Table.find?_eq_some.1 hrow).1 hk
        rw [this]
      rw [setMapping, this]
    rw [if_pos h, bumped, if_pos h, this, Except.ok.injEq, eq_comm]
  · rw [if_neg h, hrow]
    simp only [if_true, Except.ok.injEq, eq_comm]

/-- A flush of a row that may have been read some time ago: nothing is written when nothing changes,
and otherwise the stored row must still have the version that was read. -/
theorem flushMapping_cases {db db' : ControlPlane} {old new : SchemaMapping} {u : Unit} :
    flushMapping old new db = .ok (u, db') ↔ new = old ∧ db' = db ∨ new ≠ old ∧
      ∃ row, db.mappings.find? old.id = some row ∧ row.version = old.version ∧
        db' = setMapping db (bumped old new) := by
  rw [flushMapping, write_ok]
  by_cases h : new = old
  · simp [h, eq_comm]
  · cases hf : db.mappings.find? old.id with
    | none => simp [h]
    | some row =>
      by_cases hv : row.version = old.version
      · simp [h, hv, eq_comm]
      · simp [h, hv]

theorem bumped_version {old new : SchemaMapping} (h : new ≠ old) :
    (bumped old new).version = old.version + 1 := by
  rw [bumped, if_neg h]

/-! ## The latest version -/

theorem mem_versionsOf {db : ControlPlane} {mapping : SchemaMapping} {ctx : TenantContext}
    {v : MappingVersion} :
    v ∈ versionsOf db mapping ctx ↔
      v ∈ db.versions ∧ v.tenantId = ctx.tenantId ∧ v.schemaMappingId = mapping.id := by
  rw [versionsOf, List.mem_filter, mem_listForTenant]
  simp only [decide_eq_true_eq, and_assoc]
  rfl

theorem latestVersionFor_ok {db : ControlPlane} {mapping : SchemaMapping} {ctx : TenantContext}
    {v : MappingVersion} (h : latestVersionFor db mapping ctx = .ok v) :
    v ∈ versionsOf db mapping ctx ∧
      ∀ w ∈ versionsOf db mapping ctx, w.versionNumber ≤ v.versionNumber := by
  unfold latestVersionFor at h
  split at h
  · rename_i version hv
    cases h
    exact ⟨List.argmax_mem hv, fun w hw => List.le_of_mem_argmax hw hv⟩
  · cases h

theorem lt_nextNumber {db : ControlPlane} {mapping : SchemaMapping} {ctx : TenantContext}
    {v : MappingVersion} (h : v ∈ versionsOf db mapping ctx) :
    v.versionNumber < nextNumber db mapping ctx :=
  Nat.lt_succ_of_le (List.le_max_of_le (List.mem_map_of_mem (f := (·.versionNumber)) h) le_rfl)

/-! ## The methods -/

variable {std : Stdlib} {ctx : TenantContext} {db db' : ControlPlane}

theorem require_row {mappingId : Uuid} {m : SchemaMapping}
    (h : require SchemaMapping db mappingId ctx = .ok m) :
    db.mappings.find? mappingId = some m ∧ m.tenantId = ctx.tenantId ∧ m.id = mappingId ∧
      db.mappings.find? m.id = some m := by
  obtain ⟨hf, ht⟩ := require_ok.1 h
  have hid : m.id = mappingId := (Table.find?_eq_some.1 hf).2
  exact ⟨hf, ht, hid, hid ▸ hf⟩

theorem createDraft_ok {schemaSnapshotId mappingId versionId : Uuid} {document : MappingDocument}
    {ontologyVersion : String} {isAiSuggested : Bool} {confidence : Option ℚ}
    {explanation : Option String} {m : SchemaMapping} {v : MappingVersion}
    (h : createDraft ctx schemaSnapshotId document ontologyVersion isAiSuggested confidence
      explanation mappingId versionId db = .ok ((m, v), db')) :
    m = { id := mappingId, tenantId := ctx.tenantId, entityName := document.entity,
            schemaSnapshotId, ontologyVersion, state := .DRAFT } ∧
    v = { id := versionId, tenantId := ctx.tenantId, schemaMappingId := mappingId,
            versionNumber := 1, mappingDocument := document, isAiSuggested, confidence,
            explanation, createdByUserId := some ctx.principalId } ∧
    (∃ s, db.snapshots.find? schemaSnapshotId = some s) ∧ ctx.principalId ∈ db.users ∧
    (∀ r ∈ db.versions, ¬(r.tenantId = ctx.tenantId ∧ r.schemaMappingId = mappingId ∧
      r.versionNumber = 1)) ∧
    ∃ mappings versions log, db.mappings.insert? m = some mappings ∧
      db.versions.insert? v = some versions ∧
      db' = { db with mappings, versions, audit := log } := by
  unfold createDraft at h
  obtain ⟨db₁, h₁, h⟩ := unit_bind_ok.1 h
  obtain ⟨-, ha₁, ms, hms, rfl⟩ := add_ok.1 h₁
  obtain ⟨db₂, h₂, h⟩ := unit_bind_ok.1 h
  obtain ⟨-, ha₂, vs, hvs, rfl⟩ := add_ok.1 h₂
  obtain ⟨db₃, h₃, h⟩ := unit_bind_ok.1 h
  obtain rfl := record_ok.1 h₃
  cases pure_ok.1 h
  simp only [Stored.admits, Bool.and_eq_true, Option.all_some, decide_eq_true_eq] at ha₁ ha₂
  refine ⟨rfl, rfl, Option.isSome_iff_exists.1 ha₁, ha₂.1.2, fun r hr hsame => ?_, ms, vs, _, hms, hvs,
    rfl⟩
  simpa [hsame] using List.all_eq_true.1 ha₂.2 r hr

theorem createNewVersion_ok {mappingId versionId : Uuid} {document : MappingDocument}
    {isAiSuggested : Bool} {confidence : Option ℚ} {explanation : Option String}
    {v : MappingVersion}
    (h : createNewVersion ctx mappingId document isAiSuggested confidence explanation versionId db
      = .ok (v, db')) :
    ∃ m versions log, require SchemaMapping db mappingId ctx = .ok m ∧
      ctx.principalId ∈ db.users ∧
      v = { id := versionId, tenantId := ctx.tenantId, schemaMappingId := mappingId,
            versionNumber := nextNumber db m ctx, mappingDocument := document, isAiSuggested,
            confidence, explanation, createdByUserId := some ctx.principalId } ∧
      db.versions.insert? v = some versions ∧
      db' = { setMapping db (bumped m { m with state := .DRAFT }) with
              versions, audit := log } := by
  unfold createNewVersion at h
  obtain ⟨m, hm, h⟩ := read_bind_ok.1 h
  obtain ⟨number, hn, h⟩ := read_bind_ok.1 h
  cases hn
  obtain ⟨hf, ht, hid, hrow⟩ := require_row hm
  obtain ⟨db₁, h₁, h⟩ := unit_bind_ok.1 h
  obtain ⟨-, ha, vs, hvs, rfl⟩ := add_ok.1 h₁
  obtain ⟨db₂, h₂, h⟩ := unit_bind_ok.1 h
  obtain rfl := (flushMapping_ok (by exact hrow)).1 h₂
  obtain ⟨db₃, h₃, h⟩ := unit_bind_ok.1 h
  obtain rfl := record_ok.1 h₃
  cases pure_ok.1 h
  simp only [Stored.admits, Bool.and_eq_true, Option.all_some, decide_eq_true_eq] at ha
  rw [← hid]
  exact ⟨m, vs, _, hid ▸ hm, ha.1.2, rfl, hvs, rfl⟩

/-- The three methods that only move the state: what was found, checked and left. -/
theorem submitForValidation_ok {mappingId : Uuid} {m' : SchemaMapping}
    (h : submitForValidation std ctx mappingId db = .ok (m', db')) :
    ∃ m version log, require SchemaMapping db mappingId ctx = .ok m ∧ m.state = .DRAFT ∧
      latestVersionFor db m ctx = .ok version ∧ validateVersion std db m version ctx = .ok () ∧
      m' = { m with state := .PENDING_VALIDATION } ∧
      db' = { setMapping db (bumped m m') with audit := log } := by
  unfold submitForValidation at h
  obtain ⟨m, hm, h⟩ := read_bind_ok.1 h
  obtain ⟨hs, h⟩ := raiseIf_bind_ok.1 h
  obtain ⟨version, hv, h⟩ := read_bind_ok.1 h
  obtain ⟨⟨⟩, hc, h⟩ := read_bind_ok.1 h
  obtain ⟨db₁, h₁, h⟩ := unit_bind_ok.1 h
  obtain rfl := (flushMapping_ok (require_row hm).2.2.2).1 h₁
  obtain ⟨db₂, h₂, h⟩ := unit_bind_ok.1 h
  obtain rfl := record_ok.1 h₂
  cases pure_ok.1 h
  exact ⟨m, version, _, hm, not_not.1 hs, hv, hc, rfl, rfl⟩

theorem flushApproval_ok {version : MappingVersion} {userId : Uuid} {u : Unit} :
    flushApproval version userId db = .ok (u, db') ↔
      (version.approvedByUserId = some userId ∨ userId ∈ db.users) ∧
      db' = setApproval db version.id userId := by
  rw [flushApproval, write_ok]
  split
  · rename_i h
    simp [h.1, h.2]
  · rename_i h
    rw [not_and_or, not_not, not_not] at h
    rw [Except.ok.injEq, eq_comm]
    exact (and_iff_right h).symm

theorem approve_ok {mappingId : Uuid} {m' : SchemaMapping}
    (h : approve ctx mappingId db = .ok (m', db')) :
    ∃ m version log, require SchemaMapping db mappingId ctx = .ok m ∧
      m.state = .PENDING_VALIDATION ∧ latestVersionFor db m ctx = .ok version ∧
      m' = { m with state := .APPROVED } ∧
      db' = { setMapping (setApproval db version.id ctx.principalId) (bumped m m') with
              audit := log } := by
  unfold approve at h
  obtain ⟨m, hm, h⟩ := read_bind_ok.1 h
  obtain ⟨hs, h⟩ := raiseIf_bind_ok.1 h
  obtain ⟨version, hv, h⟩ := read_bind_ok.1 h
  obtain ⟨db₁, h₁, h⟩ := unit_bind_ok.1 h
  obtain ⟨-, rfl⟩ := flushApproval_ok.1 h₁
  obtain ⟨db₂, h₂, h⟩ := unit_bind_ok.1 h
  obtain rfl := (flushMapping_ok (by exact (require_row hm).2.2.2)).1 h₂
  obtain ⟨db₃, h₃, h⟩ := unit_bind_ok.1 h
  obtain rfl := record_ok.1 h₃
  cases pure_ok.1 h
  exact ⟨m, version, _, hm, not_not.1 hs, hv, rfl, rfl⟩

theorem activate_ok {mappingId : Uuid} {m' : SchemaMapping}
    (h : activate ctx mappingId db = .ok (m', db')) :
    ∃ m version log, require SchemaMapping db mappingId ctx = .ok m ∧ m.state = .APPROVED ∧
      latestVersionFor db m ctx = .ok version ∧
      m' = { m with
        activeVersionId := some version.id, state := .ACTIVE, suspendedDueToDrift := false } ∧
      db' = { setMapping db (bumped m m') with audit := log } := by
  unfold activate at h
  obtain ⟨m, hm, h⟩ := read_bind_ok.1 h
  obtain ⟨hs, h⟩ := raiseIf_bind_ok.1 h
  obtain ⟨version, hv, h⟩ := read_bind_ok.1 h
  obtain ⟨db₁, h₁, h⟩ := unit_bind_ok.1 h
  obtain rfl := (flushMapping_ok (require_row hm).2.2.2).1 h₁
  obtain ⟨db₂, h₂, h⟩ := unit_bind_ok.1 h
  obtain rfl := record_ok.1 h₂
  cases pure_ok.1 h
  exact ⟨m, version, _, hm, not_not.1 hs, hv, rfl, rfl⟩

theorem deprecateMapping_ok {mappingId : Uuid} {m' : SchemaMapping}
    (h : deprecateMapping ctx mappingId db = .ok (m', db')) :
    ∃ m log, require SchemaMapping db mappingId ctx = .ok m ∧ m.state = .ACTIVE ∧
      m' = { m with state := .DEPRECATED } ∧
      db' = { setMapping db (bumped m m') with audit := log } := by
  unfold deprecateMapping at h
  obtain ⟨m, hm, h⟩ := read_bind_ok.1 h
  obtain ⟨hs, h⟩ := raiseIf_bind_ok.1 h
  obtain ⟨db₁, h₁, h⟩ := unit_bind_ok.1 h
  obtain rfl := (flushMapping_ok (require_row hm).2.2.2).1 h₁
  obtain ⟨db₂, h₂, h⟩ := unit_bind_ok.1 h
  obtain rfl := record_ok.1 h₂
  cases pure_ok.1 h
  exact ⟨m, _, hm, not_not.1 hs, rfl, rfl⟩

theorem reject_ok {mappingId : Uuid} {m' : SchemaMapping}
    (h : reject ctx mappingId db = .ok (m', db')) :
    ∃ m log, require SchemaMapping db mappingId ctx = .ok m ∧
      (m.state = .DRAFT ∨ m.state = .PENDING_VALIDATION) ∧
      m' = { m with state := .REJECTED } ∧
      db' = { setMapping db (bumped m m') with audit := log } := by
  unfold reject at h
  obtain ⟨m, hm, h⟩ := read_bind_ok.1 h
  obtain ⟨hs, h⟩ := raiseIf_bind_ok.1 h
  obtain ⟨db₁, h₁, h⟩ := unit_bind_ok.1 h
  obtain rfl := (flushMapping_ok (require_row hm).2.2.2).1 h₁
  obtain ⟨db₂, h₂, h⟩ := unit_bind_ok.1 h
  obtain rfl := record_ok.1 h₂
  cases pure_ok.1 h
  refine ⟨m, _, hm, ?_, rfl, rfl⟩
  simpa only [ne_eq, not_and_or, not_not] using hs

theorem getProductionVersion_ok {mappingId : Uuid} {version : MappingVersion} :
    getProductionVersion db ctx mappingId = .ok version ↔
      ∃ m activeVersionId, require SchemaMapping db mappingId ctx = .ok m ∧ m.state = .ACTIVE ∧
        m.activeVersionId = some activeVersionId ∧ m.suspendedDueToDrift = false ∧
        require MappingVersion db activeVersionId ctx = .ok version := by
  unfold getProductionVersion
  cases hm : require SchemaMapping db mappingId ctx with
  | error e => simp [bind, Except.bind]
  | ok m =>
    simp only [bind, Except.bind]
    split
    · rename_i a hs ha hsus
      simp [hs, ha, hsus]
    · rename_i hno
      simp only [reduceCtorEq, Except.ok.injEq, false_iff, not_exists, not_and]
      rintro m' a rfl hs ha hsus
      exact absurd hsus (hno a hs ha)

/-! ## The suspension -/

/-- The mappings the loop suspends: active ones whose source table drifted. -/
def isAffected (db : ControlPlane) (ctx : TenantContext) (snapshot : SchemaSnapshot)
    (mapping : SchemaMapping) : Prop :=
  mapping.state = .ACTIVE ∧ ∃ activeVersionId version,
    mapping.activeVersionId = some activeVersionId ∧
    require MappingVersion db activeVersionId ctx = .ok version ∧
    version.mappingDocument.source.qualifiedName ∈ snapshot.affectedTables

/-- A mapping with the drift flag set. -/
def suspended (mapping : SchemaMapping) : SchemaMapping :=
  bumped mapping { mapping with suspendedDueToDrift := true }

theorem suspended_id (mapping : SchemaMapping) : (suspended mapping).id = mapping.id :=
  bumped_id _ _ rfl

theorem suspendIfAffected_ok {snapshot : SchemaSnapshot} {mapping : SchemaMapping}
    {as : List SchemaMapping} (hrow : db.mappings.find? mapping.id = some mapping)
    (h : suspendIfAffected ctx snapshot mapping db = .ok (as, db')) :
    (isAffected db ctx snapshot mapping ∧
      ∃ log, db' = { setMapping db (suspended mapping) with audit := log }) ∨
    (¬isAffected db ctx snapshot mapping ∧ db' = db) := by
  unfold suspendIfAffected at h
  cases hactive : mapping.activeVersionId with
  | none =>
    rw [hactive] at h
    cases pure_ok.1 h
    refine .inr ⟨?_, rfl⟩
    rintro ⟨-, a, -, ha, -⟩
    rw [hactive] at ha; cases ha
  | some activeVersionId =>
    rw [hactive] at h
    dsimp only at h
    split at h
    · rename_i hstate
      cases pure_ok.1 h
      exact .inr ⟨fun hc => hstate hc.1, rfl⟩
    · rename_i hstate
      obtain ⟨version, hv, h⟩ := read_bind_ok.1 h
      split at h
      · rename_i haff
        obtain ⟨db₁, h₁, h⟩ := unit_bind_ok.1 h
        obtain rfl := (flushMapping_ok hrow).1 h₁
        obtain ⟨db₂, h₂, h⟩ := unit_bind_ok.1 h
        obtain rfl := record_ok.1 h₂
        cases pure_ok.1 h
        have hs : suspended mapping = bumped mapping { mapping with
            activeVersionId := some activeVersionId, suspendedDueToDrift := true } := by
          rw [suspended, hactive]
        rw [hs]
        exact .inl ⟨⟨not_not.1 hstate, activeVersionId, version, hactive, hv, haff⟩, _, rfl⟩
      · rename_i haff
        cases pure_ok.1 h
        refine .inr ⟨?_, rfl⟩
        rintro ⟨-, a, v, ha, hv', hsrc⟩
        rw [hactive] at ha; cases ha
        rw [hv] at hv'; cases hv'
        exact haff hsrc

/-- A database in the middle of the loop: the mappings in `rest` are still to be visited and are as
they were, the others are settled. -/
structure Suspending (db : ControlPlane) (ctx : TenantContext) (snapshot : SchemaSnapshot)
    (rest : List SchemaMapping) (s : ControlPlane) : Prop where
  nodup : rest.Nodup
  owned : ∀ m ∈ rest, m ∈ db.mappings ∧ m.tenantId = ctx.tenantId
  elsewhere : ∃ mappings log, s = { db with mappings, audit := log }
  rows : ∀ m ∈ db.mappings, s.mappings.find? m.id = some m ∧
      (¬(m.tenantId = ctx.tenantId ∧ isAffected db ctx snapshot m) ∨ m ∈ rest) ∨
    s.mappings.find? m.id = some (suspended m) ∧ m.tenantId = ctx.tenantId ∧
      isAffected db ctx snapshot m ∧ m ∉ rest
  absent : ∀ k, db.mappings.find? k = none → s.mappings.find? k = none

section

variable {snapshot : SchemaSnapshot} {rest : List SchemaMapping} {m : SchemaMapping}
  {s : ControlPlane}

theorem Suspending.start (db : ControlPlane) (ctx : TenantContext) (snapshot : SchemaSnapshot) :
    Suspending db ctx snapshot (listForTenant SchemaMapping db ctx) db where
  nodup := (List.Nodup.of_map _ db.mappings.nodup_keys).filter _
  owned m hm := mem_listForTenant.1 hm
  elsewhere := ⟨db.mappings, db.audit, rfl⟩
  rows m hm := by
    refine .inl ⟨Table.find?_key hm, ?_⟩
    by_cases ht : m.tenantId = ctx.tenantId
    · exact .inr (mem_listForTenant.2 ⟨hm, ht⟩)
    · exact .inl fun hc => ht hc.1
  absent _ hk := hk

theorem Suspending.row (h : Suspending db ctx snapshot (m :: rest) s) :
    s.mappings.find? m.id = some m := by
  obtain ⟨hm, -⟩ := h.owned m List.mem_cons_self
  rcases h.rows m hm with h | h
  · exact h.1
  · exact absurd List.mem_cons_self h.2.2.2

/-- A mapping other than the one visited is where it was. -/
theorem Suspending.others (h : Suspending db ctx snapshot (m :: rest) s) {m' : SchemaMapping}
    (hm' : m' ∈ db.mappings) (hne : m' ≠ m) :
    s.mappings.find? m'.id = some m' ∧
        (¬(m'.tenantId = ctx.tenantId ∧ isAffected db ctx snapshot m') ∨ m' ∈ rest) ∨
      s.mappings.find? m'.id = some (suspended m') ∧ m'.tenantId = ctx.tenantId ∧
        isAffected db ctx snapshot m' ∧ m' ∉ rest := by
  rcases h.rows m' hm' with ⟨h₁, h₂⟩ | ⟨h₁, h₂, h₃, h₄⟩
  · exact .inl ⟨h₁, h₂.imp_right fun h => (List.mem_cons.1 h).resolve_left hne⟩
  · exact .inr ⟨h₁, h₂, h₃, fun hc => h₄ (List.mem_cons_of_mem _ hc)⟩

theorem Suspending.spared (h : Suspending db ctx snapshot (m :: rest) s)
    (hspared : ¬isAffected db ctx snapshot m) : Suspending db ctx snapshot rest s where
  nodup := (List.nodup_cons.1 h.nodup).2
  owned m' hm' := h.owned m' (List.mem_cons_of_mem _ hm')
  elsewhere := h.elsewhere
  rows m' hm' := by
    by_cases he : m' = m
    · subst he
      exact .inl ⟨h.row, .inl fun hc => hspared hc.2⟩
    · exact h.others hm' he
  absent := h.absent

theorem Suspending.visited (h : Suspending db ctx snapshot (m :: rest) s)
    (haffected : isAffected db ctx snapshot m) (log : List AuditEvent) :
    Suspending db ctx snapshot rest { setMapping s (suspended m) with audit := log } := by
  obtain ⟨hm, ht⟩ := h.owned m List.mem_cons_self
  have hrow := h.row
  have hfind : ∀ k, (setMapping s (suspended m)).mappings.find? k =
      if k = m.id then some (suspended m) else s.mappings.find? k := by
    intro k
    have hrow' : s.mappings.find? (suspended m).id = some m := (suspended_id m).symm ▸ hrow
    rw [find?_setMapping _ k hrow', suspended_id]
  refine ⟨(List.nodup_cons.1 h.nodup).2, fun m' hm' => h.owned m' (List.mem_cons_of_mem _ hm'), ?_,
    fun m' hm' => ?_, fun k hk => ?_⟩
  · obtain ⟨mappings, log', rfl⟩ := h.elsewhere
    exact ⟨_, log, rfl⟩
  · have hfound := hfind m'.id
    by_cases he : m' = m
    · subst he
      rw [if_pos rfl] at hfound
      exact .inr ⟨hfound, ht, haffected, (List.nodup_cons.1 h.nodup).1⟩
    · have hne : m'.id ≠ m.id := fun hk => he (Table.eq_of_key_eq hm' hm hk)
      rw [if_neg hne] at hfound
      have hrest := h.others hm' he
      rw [← hfound] at hrest
      exact hrest
  · refine (hfind k).trans ?_
    rw [if_neg]
    · exact h.absent k hk
    · rintro rfl
      have hfound : db.mappings.find? m.id = some m := Table.find?_key hm
      rw [hfound] at hk
      cases hk

theorem Suspending.step {as : List SchemaMapping} {s' : ControlPlane}
    (h : Suspending db ctx snapshot (m :: rest) s)
    (hs : suspendIfAffected ctx snapshot m s = .ok (as, s')) :
    Suspending db ctx snapshot rest s' := by
  have haffected : isAffected s ctx snapshot m ↔ isAffected db ctx snapshot m := by
    obtain ⟨mappings, log, rfl⟩ := h.elsewhere
    exact Iff.rfl
  rcases suspendIfAffected_ok h.row hs with ⟨haff, log, rfl⟩ | ⟨haff, rfl⟩
  · exact h.visited (haffected.1 haff) log
  · exact h.spared fun hc => haff (haffected.2 hc)

end

/-- The suspension sets the flag of the tenant's affected mappings and changes nothing else. -/
theorem suspendAffectedByDrift_ok {snapshot : SchemaSnapshot} {as : List SchemaMapping}
    (h : suspendAffectedByDrift ctx snapshot db = .ok (as, db')) :
    ∃ mappings log, db' = { db with mappings, audit := log } ∧
      (∀ m ∈ db.mappings, mappings.find? m.id = some m ∧
          ¬(m.tenantId = ctx.tenantId ∧ isAffected db ctx snapshot m) ∨
        mappings.find? m.id = some (suspended m) ∧ m.tenantId = ctx.tenantId ∧
          isAffected db ctx snapshot m) ∧
      ∀ k, db.mappings.find? k = none → mappings.find? k = none := by
  unfold suspendAffectedByDrift at h
  split at h
  · rename_i hnone
    cases pure_ok.1 h
    refine ⟨db.mappings, db.audit, rfl, fun m hm => .inl ⟨Table.find?_key hm, ?_⟩, fun _ hk => hk⟩
    rintro ⟨-, -, a, v, -, -, hsrc⟩
    rw [hnone] at hsrc; cases hsrc
  · obtain ⟨all, hall, h⟩ := read_bind_ok.1 h
    cases hall
    have hdone : Suspending db ctx snapshot [] db' :=
      gather_invariant (fun _ _ _ _ _ hI hs => hI.step hs) (Suspending.start db ctx snapshot) h
    obtain ⟨mappings, log, rfl⟩ := hdone.elsewhere
    refine ⟨mappings, log, rfl, fun m hm => ?_, hdone.absent⟩
    refine (hdone.rows m hm).imp (fun h => ⟨h.1, h.2.resolve_right List.not_mem_nil⟩) fun h => ?_
    exact ⟨h.1, h.2.1, h.2.2.1⟩

end Mappings

end HermesRpt
