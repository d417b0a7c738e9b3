import HermesRpt.System

/-!
# HermesRpt.Lifecycle.View

One mapping as the lifecycle sees it: its row and the versions stored for it, without the data no
transition looks at.

* `View`  : the row of a mapping and its versions by id.
* `Move`  : what one call can do to the view of a mapping, with everything the call checked.
* `step_move` : every step of the control plane is a move of every mapping.

An invariant of the lifecycle is proved by cases on `Move`.
-/

namespace HermesRpt

namespace Lifecycle

open Keyed (Table)
open Transaction Machine
open Schemas Mappings

/-- What never changes in a stored version. -/
structure VersionCore where
  tenantId : Uuid
  schemaMappingId : Uuid
  versionNumber : Nat
  mappingDocument : MappingDocument

def core (v : MappingVersion) : VersionCore :=
  ⟨v.tenantId, v.schemaMappingId, v.versionNumber, v.mappingDocument⟩

structure View where
  row : Option SchemaMapping
  versions : Uuid → Option VersionCore

/-- The row of mapping `k` and the versions stored for it. -/
def view (db : ControlPlane) (k : Uuid) : View :=
  ⟨db.mappings.find? k,
    fun id => ((db.versions.find? id).map core).filter (·.schemaMappingId = k)⟩

namespace View

def setRow (w : View) (m : SchemaMapping) : View := { w with row := some m }

def addVersion (w : View) (id : Uuid) (c : VersionCore) : View :=
  { w with versions := Function.update w.versions id (some c) }

/-- `id` is the highest-numbered version. -/
def Latest (w : View) (id : Uuid) (c : VersionCore) : Prop :=
  w.versions id = some c ∧
    ∀ id' c', w.versions id' = some c' → id' ≠ id → c'.versionNumber < c.versionNumber

/-- Every version belongs to the mapping's tenant, and no two have one number. -/
structure WF (w : View) : Prop where
  owned : ∀ id c, w.versions id = some c → ∃ m, w.row = some m ∧ m.tenantId = c.tenantId
  numbered : ∀ id c id' c', w.versions id = some c → w.versions id' = some c' →
    c.versionNumber = c'.versionNumber → id = id'

end View

/-! ## Events -/

section Events

variable (std : Stdlib) (k id : Uuid) (db : ControlPlane) (call : Call)

/-- The call stores version `id` of mapping `k`. -/
def Created : Prop :=
  Succeeds std db call ∧
    ((∃ ctx schemaSnapshotId document ontologyVersion isAiSuggested confidence explanation,
      call = .createDraft ctx schemaSnapshotId document ontologyVersion isAiSuggested confidence
        explanation k id) ∨
    ∃ ctx document isAiSuggested confidence explanation,
      call = .createNewVersion ctx k document isAiSuggested confidence explanation id)

/-- The call submits mapping `k` while `id` is its latest version, and that version's document
passes the validation. -/
def Submitted : Prop :=
  Succeeds std db call ∧ ∃ ctx m version, call = .submitForValidation ctx k ∧
    db.mappings.find? k = some m ∧ latestVersionFor db m ctx = .ok version ∧ version.id = id ∧
    validateVersion std db m version ctx = .ok ()

/-- The call approves mapping `k` while `id` is its latest version. -/
def Approved : Prop :=
  Succeeds std db call ∧ ∃ ctx m version, call = .approve ctx k ∧
    db.mappings.find? k = some m ∧ latestVersionFor db m ctx = .ok version ∧ version.id = id

/-- The call activates mapping `k` while `id` is its latest version. -/
def Activated : Prop :=
  Succeeds std db call ∧ ∃ ctx m version, call = .activate ctx k ∧
    db.mappings.find? k = some m ∧ latestVersionFor db m ctx = .ok version ∧ version.id = id

end Events

/-- Production code gets version `id` of mapping `k`, from `get_production_version` or through the
resolver. -/
def Serves (db : ControlPlane) (ctx : TenantContext) (k id : Uuid) : Prop :=
  (∃ v, getProductionVersion db ctx k = .ok v ∧ v.id = id) ∨
  ∃ entityName resolved, Features.resolve db entityName ctx = .ok (some resolved) ∧
    resolved.schemaMapping.id = k ∧ resolved.schemaMapping.activeVersionId = some id

/-- What is served is the active version of a mapping that is active and not suspended. -/
theorem serves_row {db : ControlPlane} {ctx : TenantContext} {k id : Uuid}
    (h : Serves db ctx k id) : ∃ m, db.mappings.find? k = some m ∧ m.tenantId = ctx.tenantId ∧
      m.state = .ACTIVE ∧ m.suspendedDueToDrift = false ∧ m.activeVersionId = some id := by
  rcases h with ⟨v, hv, rfl⟩ | ⟨entityName, resolved, hr, rfl, ha⟩
  · obtain ⟨m, a, hm, hs, ha, hsus, hver⟩ := getProductionVersion_ok.1 hv
    obtain ⟨hf, ht, -, -⟩ := require_row hm
    have hid : v.id = a := (Table.find?_eq_some.1 (require_ok.1 hver).1).2
    exact ⟨m, hf, ht, hs, hsus, hid ▸ ha⟩
  · obtain ⟨v, hunique, hsus, -, -, -, -⟩ := Features.resolve_some hr
    obtain ⟨hm, ht, -, hs⟩ := (hunique _).2 rfl
    exact ⟨resolved.schemaMapping, Table.find?_key hm, ht, hs, hsus, ha⟩

/-! ## Moves -/

/-- What a call can do to the view of mapping `k`. -/
inductive Move (std : Stdlib) (k : Uuid) (db : ControlPlane) (call : Call) : View → Prop
  | idle : Move std k db call (view db k)
  | drafted {id : Uuid} {c : VersionCore} {m : SchemaMapping}
      (created : Created std k id db call) (fresh : (view db k).row = none)
      (state : m.state = .DRAFT) (tenant : m.tenantId = c.tenantId) (active : m.activeVersionId = none)
      (ready : m.suspendedDueToDrift = false)
      (reference : ∃ s, db.snapshots.find? m.schemaSnapshotId = some s) :
      Move std k db call (((view db k).setRow m).addVersion id c)
  | revised {id : Uuid} {c : VersionCore} {m : SchemaMapping}
      (created : Created std k id db call) (row : (view db k).row = some m)
      (tenant : m.tenantId = c.tenantId)
      (unused : db.versions.find? id = none)
      (number : ∀ id' c', (view db k).versions id' = some c' → c'.versionNumber < c.versionNumber) :
      Move std k db call (((view db k).setRow (bumped m { m with state := .DRAFT })).addVersion id c)
  | submitted {id : Uuid} {c : VersionCore} {m : SchemaMapping}
      (submitted : Submitted std k id db call) (row : (view db k).row = some m)
      (state : m.state = .DRAFT) (latest : (view db k).Latest id c) :
      Move std k db call
        ((view db k).setRow (bumped m { m with state := .PENDING_VALIDATION }))
  | approved {id : Uuid} {c : VersionCore} {m : SchemaMapping}
      (approved : Approved std k id db call) (row : (view db k).row = some m)
      (state : m.state = .PENDING_VALIDATION) (latest : (view db k).Latest id c) :
      Move std k db call ((view db k).setRow (bumped m { m with state := .APPROVED }))
  | activated {id : Uuid} {c : VersionCore} {m : SchemaMapping}
      (activated : Activated std k id db call) (row : (view db k).row = some m)
      (state : m.state = .APPROVED) (latest : (view db k).Latest id c) :
      Move std k db call ((view db k).setRow (bumped m { m with
        activeVersionId := some id, state := .ACTIVE, suspendedDueToDrift := false }))
  | deprecated {ctx : TenantContext} {m : SchemaMapping}
      (deprecated : call = .deprecateMapping ctx k) (row : (view db k).row = some m)
      (state : m.state = .ACTIVE) :
      Move std k db call ((view db k).setRow (bumped m { m with state := .DEPRECATED }))
  | rejected {ctx : TenantContext} {m : SchemaMapping}
      (rejected : call = .reject ctx k) (row : (view db k).row = some m)
      (state : m.state = .DRAFT ∨ m.state = .PENDING_VALIDATION) :
      Move std k db call ((view db k).setRow (bumped m { m with state := .REJECTED }))
  | suspended {ctx : TenantContext} {snapshot : SchemaSnapshot} {m : SchemaMapping}
      (suspension : call = .suspendAffectedByDrift ctx snapshot) (row : (view db k).row = some m)
      (state : m.state = .ACTIVE) :
      Move std k db call ((view db k).setRow (Mappings.suspended m))

/-! ## Views of the databases a method leaves -/

section Views

variable {std : Stdlib} {db : ControlPlane} {k : Uuid} {ctx : TenantContext}

theorem view_setMapping {old m : SchemaMapping} (h : db.mappings.find? m.id = some old) :
    view (setMapping db m) k = if k = m.id then (view db k).setRow m else view db k := by
  have hf := find?_setMapping db k h
  split
  · rename_i hk
    rw [if_pos hk] at hf
    simp only [view, View.setRow, hf]
    rfl
  · rename_i hk
    rw [if_neg hk] at hf
    simp only [view, hf]
    rfl

theorem view_setApproval (versionId userId : Uuid) :
    view (setApproval db versionId userId) k = view db k := by
  have h : ∀ id, ((setApproval db versionId userId).versions.find? id).map core
      = (db.versions.find? id).map core := by
    intro id
    rw [setApproval, Table.find?_update]
    split
    · rw [Option.map_map]; rfl
    · rfl
  simp only [view, h]
  rfl

theorem view_insertVersion {v : MappingVersion} {versions : Table MappingVersion}
    {mappings : Table SchemaMapping} {log : List AuditEvent}
    (h : db.versions.insert? v = some versions) :
    view { db with mappings, versions, audit := log } k =
      if k = v.schemaMappingId then
        (View.mk (mappings.find? k) (view db k).versions).addVersion v.id (core v)
      else ⟨mappings.find? k, (view db k).versions⟩ := by
  have hfresh : db.versions.find? v.id = none := (Table.insert?_eq_some.1 h).1
  have hf : ∀ id, (versions.find? id) = if v.id = id then some v else db.versions.find? id :=
    fun id => Table.find?_insert? h id
  split
  · rename_i hk
    simp only [view, View.addVersion, View.mk.injEq, true_and]
    funext id
    rw [hf, Function.update_apply]
    by_cases hid : v.id = id
    · simp [hid, core, hk]
    · simp [hid, Ne.symm hid]
  · rename_i hk
    simp only [view, View.mk.injEq, true_and]
    funext id
    rw [hf]
    by_cases hid : v.id = id
    · rw [if_pos hid, ← hid, hfresh]
      simp [core, Ne.symm hk]
    · rw [if_neg hid]

/-- A version of a view is stored under its id. -/
theorem stored_of_view {id : Uuid} {c : VersionCore} (h : (view db k).versions id = some c) :
    ∃ v ∈ db.versions, v.id = id ∧ core v = c := by
  simp only [view, Option.filter_eq_some_iff, Option.map_eq_some_iff] at h
  obtain ⟨⟨v, hv, hc⟩, -⟩ := h
  obtain ⟨hmem, hid⟩ := Table.find?_eq_some.1 hv
  exact ⟨v, hmem, hid, hc⟩

/-- The versions of a mapping that its tenant sees are the versions of its view. -/
theorem mem_versionsOf_view (wf : (view db k).WF) {m : SchemaMapping}
    (hrow : db.mappings.find? k = some m) (ht : m.tenantId = ctx.tenantId) {v : MappingVersion} :
    v ∈ versionsOf db m ctx ↔ v ∈ db.versions ∧ (view db k).versions v.id = some (core v) := by
  have hid : m.id = k := (Table.find?_eq_some.1 hrow).2
  rw [mem_versionsOf, hid]
  constructor
  · rintro ⟨hv, -, hk⟩
    refine ⟨hv, ?_⟩
    simp only [view]
    rw [show db.versions.find? v.id = some v from Table.find?_key hv]
    simp [core, hk]
  · rintro ⟨hv, hc⟩
    obtain ⟨m', hm', hten⟩ := wf.owned _ _ hc
    have : m = m' := Option.some.inj (hrow.symm.trans hm')
    subst this
    simp only [view, Option.filter_eq_some_iff, decide_eq_true_eq] at hc
    exact ⟨hv, hten.symm.trans ht, hc.2⟩

theorem latest_view (wf : (view db k).WF) {m : SchemaMapping}
    (hrow : db.mappings.find? k = some m) (ht : m.tenantId = ctx.tenantId) {v : MappingVersion}
    (h : latestVersionFor db m ctx = .ok v) : (view db k).Latest v.id (core v) := by
  obtain ⟨hv, hmax⟩ := latestVersionFor_ok h
  have hcore := ((mem_versionsOf_view wf hrow ht).1 hv).2
  refine ⟨hcore, fun id' c' hc' hne => ?_⟩
  obtain ⟨w, hwm, rfl, rfl⟩ := stored_of_view hc'
  have hle := hmax w ((mem_versionsOf_view wf hrow ht).2 ⟨hwm, hc'⟩)
  exact lt_of_le_of_ne hle fun he => hne (wf.numbered _ _ _ _ hc' hcore he)

/-- The row a method found, and what it left when it set one mapping's row. -/
theorem move_setRow {std : Stdlib} {call : Call} {mappingId : Uuid} {m m' : SchemaMapping}
    {log : List AuditEvent} (hm : require SchemaMapping db mappingId ctx = .ok m)
    (hid : m'.id = m.id)
    (hmove : k = mappingId → (view db k).row = some m → m.tenantId = ctx.tenantId →
      Move std k db call ((view db k).setRow m')) :
    Move std k db call (view { setMapping db m' with audit := log } k) := by
  obtain ⟨hf, ht, hmid, hrow⟩ := require_row hm
  have hv : view { setMapping db m' with audit := log } k = view (setMapping db m') k := rfl
  rw [hv, view_setMapping (hid.symm ▸ hrow)]
  split
  · rename_i hk
    have hk : k = mappingId := hk.trans (hid.trans hmid)
    exact hmove hk (hk ▸ hf) ht
  · exact .idle

/-- The view of a mapping only looks at its own row. -/
theorem view_mappings {mappings : Table SchemaMapping} {log : List AuditEvent}
    (h : mappings.find? k = db.mappings.find? k) :
    view { db with mappings, audit := log } k = view db k := by
  simp only [view, h]

section Methods

variable {std : Stdlib}

theorem move_createDraft {snapshotId : Uuid} {document : MappingDocument} {ontologyVersion : String}
    {ai : Bool} {confidence : Option ℚ} {explanation : Option String} {mappingId id : Uuid}
    (hs : Succeeds std db (.createDraft ctx snapshotId document ontologyVersion ai confidence
      explanation mappingId id)) :
    Move std k db (.createDraft ctx snapshotId document ontologyVersion ai confidence explanation
        mappingId id)
      (view (step std db (.createDraft ctx snapshotId document ontologyVersion ai confidence
        explanation mappingId id)) k) := by
  obtain ⟨⟨m, v⟩, h⟩ := discard_ok.1 hs
  obtain ⟨em, ev, hs₀, -, -, mappings, versions, log, hm, hv, hstep⟩ := createDraft_ok h
  have hmid : Keyed.HasKey.key m = mappingId := em ▸ rfl
  have hvid : v.id = id := ev ▸ rfl
  have hvk : v.schemaMappingId = mappingId := ev ▸ rfl
  rw [hstep, view_insertVersion hv, Table.find?_insert? hm k, hvk]
  by_cases hk : k = mappingId
  · have hfresh : (view db k).row = none :=
      hk ▸ hmid ▸ (Table.insert?_eq_some.1 hm).1
    rw [if_pos hk, if_pos (hmid.trans hk.symm), hvid]
    subst hk
    refine .drafted ⟨hs, .inl ⟨ctx, snapshotId, document, ontologyVersion, ai, confidence,
      explanation, rfl⟩⟩ hfresh (em ▸ rfl) ?_ (em ▸ rfl) (em ▸ rfl) (em ▸ hs₀)
    rw [em, ev]; rfl
  · rw [if_neg hk, if_neg fun he => hk (he.symm.trans hmid)]
    exact .idle

theorem move_createNewVersion (wf : (view db k).WF) {mappingId : Uuid} {document : MappingDocument}
    {ai : Bool} {confidence : Option ℚ} {explanation : Option String} {id : Uuid}
    (hs : Succeeds std db (.createNewVersion ctx mappingId document ai confidence explanation id)) :
    Move std k db (.createNewVersion ctx mappingId document ai confidence explanation id)
      (view (step std db (.createNewVersion ctx mappingId document ai confidence explanation id))
        k) := by
  obtain ⟨v, h⟩ := discard_ok.1 hs
  obtain ⟨m, versions, log, hm, -, ev, hv, hstep⟩ := createNewVersion_ok h
  obtain ⟨hf, ht, hmid, hrow⟩ := require_row hm
  have hvid : v.id = id := ev ▸ rfl
  have hvk : v.schemaMappingId = mappingId := ev ▸ rfl
  have hb := bumped_id m { m with state := .DRAFT } rfl
  rw [hstep, view_insertVersion (by exact hv), hvk, hvid, find?_setMapping db k (hb.symm ▸ hrow), hb]
  by_cases hk : k = mappingId
  · rw [if_pos hk, if_pos (hk.trans hmid.symm)]
    subst hk
    refine .revised ⟨hs, .inr ⟨ctx, document, ai, confidence, explanation, rfl⟩⟩ hf ?_ ?_ ?_
    · rw [ht, ev]; rfl
    · exact hvid ▸ (Table.insert?_eq_some.1 hv).1
    · intro id' c' hc'
      obtain ⟨w, hwm, rfl, rfl⟩ := stored_of_view hc'
      have := lt_nextNumber ((mem_versionsOf_view wf hf ht).2 ⟨hwm, hc'⟩)
      rw [ev]; exact this
  · rw [if_neg hk, if_neg fun he => hk (he.trans hmid)]
    exact .idle

theorem move_approve (wf : (view db k).WF) {mappingId : Uuid}
    (hs : Succeeds std db (.approve ctx mappingId)) :
    Move std k db (.approve ctx mappingId) (view (step std db (.approve ctx mappingId)) k) := by
  obtain ⟨_, h⟩ := discard_ok.1 hs
  obtain ⟨m, version, log, hm, hstate, hv, rfl, hstep⟩ := approve_ok h
  have hset : ∀ m', view { setMapping (setApproval db version.id ctx.principalId) m' with
      audit := log } k = view { setMapping db m' with audit := log } k := by
    intro m'
    exact (view_setApproval version.id ctx.principalId :
      view (setApproval (setMapping db m') version.id ctx.principalId) k = view (setMapping db m') k)
  rw [hstep, hset]
  refine move_setRow hm (bumped_id _ _ rfl) fun hk hrow ht => ?_
  subst hk
  exact .approved ⟨hs, ctx, m, version, rfl, hrow, hv, rfl⟩ hrow hstate (latest_view wf hrow ht hv)

theorem move_suspendAffectedByDrift {snapshot : SchemaSnapshot}
    (hs : Succeeds std db (.suspendAffectedByDrift ctx snapshot)) :
    Move std k db (.suspendAffectedByDrift ctx snapshot)
      (view (step std db (.suspendAffectedByDrift ctx snapshot)) k) := by
  obtain ⟨_, h⟩ := discard_ok.1 hs
  obtain ⟨mappings, log, hstep, hrows, hnone⟩ := suspendAffectedByDrift_ok h
  rw [hstep]
  cases hrow : db.mappings.find? k with
  | none =>
    rw [view_mappings ((hnone k hrow).trans hrow.symm)]
    exact .idle
  | some m =>
    obtain ⟨hm, hid⟩ := Table.find?_eq_some.1 hrow
    have hid : m.id = k := hid
    rcases hrows m hm with ⟨hf, -⟩ | ⟨hf, -, haff⟩
    · rw [hid] at hf
      rw [view_mappings (hf.trans hrow.symm)]
      exact .idle
    · rw [hid] at hf
      have : view { db with mappings, audit := log } k
          = (view db k).setRow (Mappings.suspended m) := by
        simp only [view, View.setRow, hf]
      rw [this]
      exact .suspended rfl hrow haff.1

/-- Every step of the control plane is a move of mapping `k`. -/
theorem step_move {call : Call} (wf : (view db k).WF) :
    Move std k db call (view (step std db call) k) := by
  rcases step_cases std db call with hs | ⟨-, hstep⟩
  case inr => rw [hstep]; exact .idle
  have h := hs
  unfold Succeeds at h
  cases call with
  | createDraft => exact move_createDraft hs
  | createNewVersion => exact move_createNewVersion wf hs
  | submitForValidation ctx mappingId =>
    obtain ⟨_, h⟩ := discard_ok.1 h
    obtain ⟨m, version, log, hm, hstate, hv, hvalid, rfl, hstep⟩ := submitForValidation_ok h
    rw [hstep]
    refine move_setRow hm (bumped_id _ _ rfl) fun hk hrow ht => ?_
    subst hk
    exact .submitted ⟨hs, ctx, m, version, rfl, hrow, hv, rfl, hvalid⟩ hrow hstate
      (latest_view wf hrow ht hv)
  | approve => exact move_approve wf hs
  | activate ctx mappingId =>
    obtain ⟨_, h⟩ := discard_ok.1 h
    obtain ⟨m, version, log, hm, hstate, hv, rfl, hstep⟩ := activate_ok h
    rw [hstep]
    refine move_setRow hm (bumped_id _ _ rfl) fun hk hrow ht => ?_
    subst hk
    exact .activated ⟨hs, ctx, m, version, rfl, hrow, hv, rfl⟩ hrow hstate
      (latest_view wf hrow ht hv)
  | deprecateMapping ctx mappingId =>
    obtain ⟨_, h⟩ := discard_ok.1 h
    obtain ⟨m, log, hm, hstate, rfl, hstep⟩ := deprecateMapping_ok h
    rw [hstep]
    refine move_setRow hm (bumped_id _ _ rfl) fun hk hrow _ => ?_
    subst hk
    exact .deprecated rfl hrow hstate
  | reject ctx mappingId =>
    obtain ⟨_, h⟩ := discard_ok.1 h
    obtain ⟨m, log, hm, hstate, rfl, hstep⟩ := reject_ok h
    rw [hstep]
    refine move_setRow hm (bumped_id _ _ rfl) fun hk hrow _ => ?_
    subst hk
    exact .rejected rfl hrow hstate
  | suspendAffectedByDrift => exact move_suspendAffectedByDrift hs
  | startDiscovery ctx connectionId snapshotId =>
    obtain ⟨_, h⟩ := discard_ok.1 h
    obtain ⟨-, -, snapshots, log, -, hstep⟩ := startDiscovery_ok h
    rw [hstep]
    exact .idle
  | runDiscoveryJob ctx env snapshotId profiling =>
    obtain ⟨_, h⟩ := discard_ok.1 h
    obtain ⟨_, _, _, _, _, _, log, -, -, -, -, hstep⟩ := runDiscovery_ok h
    rw [hstep]
    exact .idle
  | otherServices users credentials connections =>
    rw [perform, write_ok, Except.ok.injEq] at h
    rw [← h]
    exact .idle

end Methods

end Views

/-! ## Well-formed views -/

namespace View

variable {w : View} {id id' : Uuid} {c c' : VersionCore} {m m' : SchemaMapping}

theorem Latest.unique (h : w.Latest id c) (h' : w.Latest id' c') : id = id' := by
  by_contra hne
  have h₁ := h.2 id' c' h'.1 (Ne.symm hne)
  have h₂ := h'.2 id c h.1 hne
  omega

@[simp] theorem setRow_row : (w.setRow m).row = some m := rfl

@[simp] theorem latest_setRow : (w.setRow m).Latest id c ↔ w.Latest id c := Iff.rfl

@[simp] theorem addVersion_row : (w.addVersion id c).row = w.row := rfl

theorem addVersion_self : (w.addVersion id c).versions id = some c := Function.update_self _ _ _

theorem addVersion_of_ne (h : id' ≠ id) : (w.addVersion id c).versions id' = w.versions id' :=
  Function.update_of_ne h _ _

theorem latest_addVersion (h : ∀ id' c', w.versions id' = some c' → c'.versionNumber < c.versionNumber) :
    (w.addVersion id c).Latest id c := by
  refine ⟨addVersion_self, fun id' c' hc' hne => h id' c' ?_⟩
  rwa [addVersion_of_ne hne] at hc'

theorem wf_of_no_versions (h : ∀ id, w.versions id = none) : w.WF := by
  constructor
  · intro id c hc
    rw [h] at hc; cases hc
  · intro id c _ _ hc
    rw [h] at hc; cases hc

theorem WF.setRow (wf : w.WF) (hrow : w.row = some m) (ht : m'.tenantId = m.tenantId) :
    (w.setRow m').WF := by
  refine ⟨fun id c hc => ?_, wf.numbered⟩
  obtain ⟨m₁, hm₁, ht₁⟩ := wf.owned id c hc
  rw [hrow] at hm₁; cases hm₁
  exact ⟨m', rfl, ht.trans ht₁⟩

theorem WF.addVersion (wf : w.WF) (hrow : w.row = some m) (ht : m.tenantId = c.tenantId)
    (hnum : ∀ id' c', w.versions id' = some c' → c'.versionNumber ≠ c.versionNumber) :
    (w.addVersion id c).WF := by
  constructor
  · intro id₁ c₁ h₁
    by_cases h : id₁ = id
    · subst h
      rw [addVersion_self] at h₁
      cases h₁
      exact ⟨m, hrow, ht⟩
    · rw [addVersion_of_ne h] at h₁
      exact wf.owned id₁ c₁ h₁
  · intro id₁ c₁ id₂ c₂ h₁ h₂ he
    by_cases e₁ : id₁ = id <;> by_cases e₂ : id₂ = id
    · rw [e₁, e₂]
    · subst e₁
      rw [addVersion_self] at h₁
      rw [addVersion_of_ne e₂] at h₂
      cases h₁
      exact absurd he.symm (hnum id₂ c₂ h₂)
    · subst e₂
      rw [addVersion_self] at h₂
      rw [addVersion_of_ne e₁] at h₁
      cases h₂
      exact absurd he (hnum id₁ c₁ h₁)
    · rw [addVersion_of_ne e₁] at h₁
      rw [addVersion_of_ne e₂] at h₂
      exact wf.numbered id₁ c₁ id₂ c₂ h₁ h₂ he

end View

section Invariant

variable {std : Stdlib} {db : ControlPlane} {k : Uuid} {call : Call} {w : View}

/-- A mapping without a row has no versions. -/
theorem View.WF.no_versions (wf : w.WF) (h : w.row = none) (id : Uuid) : w.versions id = none := by
  cases hc : w.versions id with
  | none => rfl
  | some c =>
    obtain ⟨m, hm, -⟩ := wf.owned id c hc
    rw [h] at hm; cases hm

theorem Move.wf (wf : (view db k).WF) (h : Move std k db call w) : w.WF := by
  cases h with
  | idle => exact wf
  | drafted created fresh state tenant active ready =>
    have hno := wf.no_versions fresh
    refine View.WF.addVersion (View.wf_of_no_versions hno) rfl tenant fun id' c' hc' => ?_
    have := hc'.symm.trans (hno id')
    cases this
  | revised created row tenant unused number =>
    exact (wf.setRow row (by rw [bumped_tenantId])).addVersion rfl
      (by rw [bumped_tenantId]; exact tenant) fun id' c' hc' => (number id' c' hc').ne
  | submitted submitted row state latest => exact wf.setRow row (bumped_tenantId _ _)
  | approved approved row state latest => exact wf.setRow row (bumped_tenantId _ _)
  | activated activated row state latest => exact wf.setRow row (bumped_tenantId _ _)
  | deprecated deprecated row state => exact wf.setRow row (bumped_tenantId _ _)
  | rejected rejected row state => exact wf.setRow row (bumped_tenantId _ _)
  | suspended suspension row state => exact wf.setRow row (bumped_tenantId _ _)

/-- No move changes or removes a stored version. -/
theorem Move.keeps_version (wf : (view db k).WF) (h : Move std k db call w) {id : Uuid}
    {c : VersionCore} (hc : (view db k).versions id = some c) : w.versions id = some c := by
  cases h with
  | drafted created fresh =>
    rw [wf.no_versions fresh] at hc; cases hc
  | revised created row tenant unused number =>
    refine (View.addVersion_of_ne ?_).trans hc
    rintro rfl
    simp only [view, unused] at hc
    cases hc
  | _ => exact hc

theorem wf_of_reachable (h : Reachable std db) (k : Uuid) : (view db k).WF := by
  refine h.invariant (I := fun db => (view db k).WF) ?_ fun db call wf => (step_move wf).wf wf
  rintro db ⟨-, hv⟩
  have hno : ∀ id, (view db k).versions id = none := by
    intro id
    simp only [view, Table.find?, hv]
    rfl
  exact View.wf_of_no_versions hno

/-- A stored version stays as it is, whatever is called. -/
theorem stored_forever (h : Reachable std db) {v : MappingVersion}
    (hv : db.versions.find? v.id = some v) (calls : List Call) :
    ∃ v', (run (step std) db calls).versions.find? v.id = some v' ∧ core v' = core v := by
  have hview : (view db v.schemaMappingId).versions v.id = some (core v) := by
    simp [view, hv, core]
  have key := h.keeps (I := fun db => (view db v.schemaMappingId).versions v.id = some (core v))
    (fun db call hr hc => (step_move (wf_of_reachable hr _)).keeps_version (wf_of_reachable hr _) hc)
    hview calls
  simp only [view, Option.filter_eq_some_iff, Option.map_eq_some_iff] at key
  exact key.1

end Invariant

end Lifecycle

end HermesRpt
