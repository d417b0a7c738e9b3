import HermesRpt.Common.AuditTrail
import HermesRpt.System

/-!
# HermesRpt.Lifecycle.AuditTrail

The audit trail of the mapping lifecycle, read back: the events about a mapping tell its state, the
version that is active and whether it is suspended, and so the version that production is served.

* `tellStanding`        : what an event tells of its mapping.
* `StandingTold`        : the mappings are what the trail tells.
* `flushed_told`        : an assignment and the event that tells it keep this.
* `production_audited`  : every run keeps it, and the trail names the version that is served.
-/

namespace HermesRpt

namespace Lifecycle

open Keyed (Table)
open Transaction Machine EventLog
open Schemas Mappings

structure Standing where
  state : MappingState
  activeVersionId : Option String
  suspendedDueToDrift : Bool
  deriving DecidableEq

def standingOf (mapping : SchemaMapping) : Standing :=
  ⟨mapping.state, mapping.activeVersionId.map uuidStr, mapping.suspendedDueToDrift⟩

/-- The state that an action leaves, when that is all it changes. -/
def stateTold : String → Option MappingState
  | "mapping.create_new_version" => some .DRAFT
  | "mapping.submit_for_validation" => some .PENDING_VALIDATION
  | "mapping.approve" => some .APPROVED
  | "mapping.deprecate" => some .DEPRECATED
  | "mapping.reject" => some .REJECTED
  | _ => none

def tellStanding (event : AuditEvent) (known : Option Standing) : Option Standing :=
  match event.action with
  | "mapping.create_draft" => some ⟨.DRAFT, none, false⟩
  | "mapping.activate" => some ⟨.ACTIVE, detailText event "active_version_id", false⟩
  | "mapping.suspend_due_to_drift" => known.map fun s => { s with suspendedDueToDrift := true }
  | action => known.map fun s => { s with state := (stateTold action).getD s.state }

/-- The mappings are what the trail tells. -/
def StandingTold (db : ControlPlane) : Prop :=
  Explains (aboutResource "SchemaMapping") tellStanding db.audit fun id =>
    (db.mappings.find? id).map standingOf

section

variable {std : Stdlib} {ctx : TenantContext} {db db₁ db' : ControlPlane}

/-- An event about something else, and tables that leave the mappings alone. -/
theorem StandingTold.elsewhere (h : StandingTold db) {event : AuditEvent}
    (hmappings : db'.mappings = db.mappings) (haudit : db'.audit = db.audit ++ [event])
    (htype : event.resourceType ≠ some "SchemaMapping") : StandingTold db' := by
  unfold StandingTold
  rw [haudit, hmappings]
  exact h.silent (aboutResource_ne htype)

/-- An assignment to a mapping and the event that tells it. -/
theorem flushed_told {old new : SchemaMapping} {event : AuditEvent} (h : StandingTold db)
    (hrow : db.mappings.find? old.id = some old) (hid : new.id = old.id)
    (hmappings : db'.mappings = (setMapping db (bumped old new)).mappings)
    (haudit : db'.audit = db.audit ++ [event])
    (habout : event.resourceType = some "SchemaMapping" ∧ event.resourceId = some old.id)
    (htell : tellStanding event (some (standingOf old)) = some (standingOf new)) :
    StandingTold db' := by
  unfold StandingTold
  rw [haudit, hmappings]
  refine h.snoc fun id => ?_
  have hbumped : (bumped old new).id = old.id := bumped_id old new hid
  have hfound : (setMapping db (bumped old new)).mappings.find? id =
      if id = old.id then some (bumped old new) else db.mappings.find? id := by
    rw [find?_setMapping db id (hbumped.symm ▸ hrow), hbumped]
  have hstanding : standingOf (bumped old new) = standingOf new := by
    simp [standingOf]
  rw [hfound, learn, aboutResource_eq habout.1, habout.2]
  by_cases hk : id = old.id
  · subst hk
    rw [if_pos rfl, if_pos rfl, hrow, Option.map_some, Option.map_some, htell, hstanding]
  · rw [if_neg hk, if_neg fun heq => hk (Option.some.inj heq).symm]

/-- The end of a method that assigns to a mapping it read. -/
theorem assigned_told {α : Type} {old new : SchemaMapping} {action : String}
    {details : List (String × Option Value)} {principalId : Option Uuid} {a b : α}
    (htold : StandingTold db) (hrow : db.mappings.find? old.id = some old)
    (h : (do
      flushMapping old new
      record ctx action .SUCCESS "SchemaMapping" old.id details principalId
      return a : Session α) db = .ok (b, db')) (hid : new.id = old.id)
    (htell : ∀ event : AuditEvent, event.action = action → event.details = details →
      tellStanding event (some (standingOf old)) = some (standingOf new)) : StandingTold db' := by
  obtain ⟨db₁, h₁, h⟩ := unit_bind_ok.1 h
  obtain rfl := (flushMapping_ok hrow).1 h₁
  obtain ⟨db₂, h₂, h⟩ := unit_bind_ok.1 h
  obtain rfl := record_ok.1 h₂
  cases pure_ok.1 h
  exact flushed_told htold hrow hid rfl rfl ⟨rfl, rfl⟩ (htell _ rfl rfl)

/-- The same where the event only says the state. -/
theorem moved_told {α : Type} {old : SchemaMapping} {state : MappingState} {action : String}
    {details : List (String × Option Value)} {a b : α} (htold : StandingTold db)
    (hrow : db.mappings.find? old.id = some old)
    (haction : action ∉ ["mapping.create_draft", "mapping.activate", "mapping.suspend_due_to_drift"])
    (hstate : stateTold action = some state)
    (h : (do
      flushMapping old { old with state }
      record ctx action .SUCCESS "SchemaMapping" old.id details
      return a : Session α) db = .ok (b, db')) : StandingTold db' := by
  refine assigned_told htold hrow h rfl fun event hevent _ => ?_
  simp only [List.mem_cons, List.not_mem_nil, or_false, not_or] at haction
  obtain ⟨hdraft, hactivate, hsuspend⟩ := haction
  unfold tellStanding
  rw [hevent]
  split
  · exact absurd rfl hdraft
  · exact absurd rfl hactivate
  · exact absurd rfl hsuspend
  · simp [hstate, standingOf]

theorem submitForValidation_told {mappingId : Uuid} {m : SchemaMapping} (htold : StandingTold db)
    (h : submitForValidation std ctx mappingId db = .ok (m, db')) : StandingTold db' := by
  obtain ⟨m, hm, h⟩ := read_bind_ok.1 h
  obtain ⟨-, h⟩ := raiseIf_bind_ok.1 h
  obtain ⟨version, -, h⟩ := read_bind_ok.1 h
  obtain ⟨⟨⟩, -, h⟩ := read_bind_ok.1 h
  exact moved_told htold (require_row hm).2.2.2 (by decide) rfl h

theorem deprecateMapping_told {mappingId : Uuid} {m : SchemaMapping} (htold : StandingTold db)
    (h : deprecateMapping ctx mappingId db = .ok (m, db')) : StandingTold db' := by
  obtain ⟨m, hm, h⟩ := read_bind_ok.1 h
  obtain ⟨-, h⟩ := raiseIf_bind_ok.1 h
  exact moved_told htold (require_row hm).2.2.2 (by decide) rfl h

theorem reject_told {mappingId : Uuid} {m : SchemaMapping} (htold : StandingTold db)
    (h : reject ctx mappingId db = .ok (m, db')) : StandingTold db' := by
  obtain ⟨m, hm, h⟩ := read_bind_ok.1 h
  obtain ⟨-, h⟩ := raiseIf_bind_ok.1 h
  exact moved_told htold (require_row hm).2.2.2 (by decide) rfl h

theorem approve_told {mappingId : Uuid} {m : SchemaMapping} (htold : StandingTold db)
    (h : approve ctx mappingId db = .ok (m, db')) : StandingTold db' := by
  obtain ⟨m, hm, h⟩ := read_bind_ok.1 h
  obtain ⟨-, h⟩ := raiseIf_bind_ok.1 h
  obtain ⟨version, -, h⟩ := read_bind_ok.1 h
  obtain ⟨db₁, h₁, h⟩ := unit_bind_ok.1 h
  obtain ⟨-, rfl⟩ := flushApproval_ok.1 h₁
  -- The approval is a column of the version: the mappings and the trail are as they were.
  have happroved : StandingTold (setApproval db version.id ctx.principalId) := htold
  exact moved_told happroved (require_row hm).2.2.2 (by decide) rfl h

theorem activate_told {mappingId : Uuid} {m : SchemaMapping} (htold : StandingTold db)
    (h : activate ctx mappingId db = .ok (m, db')) : StandingTold db' := by
  obtain ⟨m, hm, h⟩ := read_bind_ok.1 h
  obtain ⟨-, h⟩ := raiseIf_bind_ok.1 h
  obtain ⟨version, -, h⟩ := read_bind_ok.1 h
  refine assigned_told htold (require_row hm).2.2.2 h rfl fun event haction hdetails => ?_
  simp [tellStanding, haction, hdetails, detailText, standingOf]

theorem createNewVersion_told {mappingId versionId : Uuid} {document : MappingDocument}
    {isAiSuggested : Bool} {confidence : Option ℚ} {explanation : Option String} {v : MappingVersion}
    (htold : StandingTold db)
    (h : createNewVersion ctx mappingId document isAiSuggested confidence explanation versionId db =
      .ok (v, db')) : StandingTold db' := by
  obtain ⟨m, hm, h⟩ := read_bind_ok.1 h
  obtain ⟨number, -, h⟩ := read_bind_ok.1 h
  obtain ⟨db₁, h₁, h⟩ := unit_bind_ok.1 h
  obtain ⟨-, -, versions, -, rfl⟩ := add_ok.1 h₁
  have hadded : StandingTold { db with versions } := htold
  exact moved_told hadded (require_row hm).2.2.2 (by decide) rfl h

theorem createDraft_told {schemaSnapshotId mappingId versionId : Uuid} {document : MappingDocument}
    {ontologyVersion : String} {isAiSuggested : Bool} {confidence : Option ℚ}
    {explanation : Option String} {p : SchemaMapping × MappingVersion} (htold : StandingTold db)
    (h : createDraft ctx schemaSnapshotId document ontologyVersion isAiSuggested confidence
      explanation mappingId versionId db = .ok (p, db')) : StandingTold db' := by
  obtain ⟨db₁, h₁, h⟩ := unit_bind_ok.1 h
  obtain ⟨-, -, mappings, hinsert, rfl⟩ := add_ok.1 h₁
  obtain ⟨db₂, h₂, h⟩ := unit_bind_ok.1 h
  obtain ⟨-, -, versions, -, rfl⟩ := add_ok.1 h₂
  obtain ⟨db₃, h₃, h⟩ := unit_bind_ok.1 h
  obtain rfl := record_ok.1 h₃
  cases pure_ok.1 h
  refine htold.snoc fun id => ?_
  have hfound : mappings.find? id = if mappingId = id then some _ else db.mappings.find? id :=
    Table.find?_insert? hinsert id
  show Option.map standingOf (mappings.find? id) = if some mappingId = some id then _ else _
  rw [hfound]
  by_cases hk : mappingId = id
  · rw [if_pos hk, if_pos (congrArg some hk)]
    rfl
  · rw [if_neg hk, if_neg fun heq => hk (Option.some.inj heq)]

/-- The loop of the suspension: each mapping that is still to be visited is as it was read. -/
theorem suspendIfAffected_told {snapshot : SchemaSnapshot} {m : SchemaMapping}
    {as : List SchemaMapping} (htold : StandingTold db) (hrow : db.mappings.find? m.id = some m)
    (h : suspendIfAffected ctx snapshot m db = .ok (as, db')) : StandingTold db' := by
  unfold suspendIfAffected at h
  cases hactive : m.activeVersionId with
  | none =>
    rw [hactive] at h
    cases pure_ok.1 h
    exact htold
  | some activeVersionId =>
    rw [hactive] at h
    dsimp only at h
    split at h
    · cases pure_ok.1 h
      exact htold
    · obtain ⟨version, -, h⟩ := read_bind_ok.1 h
      split at h
      · refine assigned_told htold hrow h rfl fun event haction hdetails => ?_
        simp [tellStanding, haction, standingOf, hactive]
      · cases pure_ok.1 h
        exact htold

theorem suspendAffectedByDrift_told {snapshot : SchemaSnapshot} {as : List SchemaMapping}
    (htold : StandingTold db) (h : suspendAffectedByDrift ctx snapshot db = .ok (as, db')) :
    StandingTold db' := by
  unfold suspendAffectedByDrift at h
  split at h
  · cases pure_ok.1 h
    exact htold
  · obtain ⟨all, hall, h⟩ := read_bind_ok.1 h
    cases hall
    refine (gather_invariant (I := fun rest s => Suspending db ctx snapshot rest s ∧ StandingTold s)
      (fun m rest as s s' hI hs => ?_) ⟨Suspending.start db ctx snapshot, htold⟩ h).2
    exact ⟨hI.1.step hs, suspendIfAffected_told hI.2 hI.1.row hs⟩

/-! ## Discoveries -/

theorem startDiscovery_told {connectionId snapshotId : Uuid} {snapshot : SchemaSnapshot}
    (htold : StandingTold db) (h : startDiscovery ctx connectionId snapshotId db = .ok (snapshot, db')) :
    StandingTold db' := by
  obtain ⟨number, -, h⟩ := read_bind_ok.1 h
  obtain ⟨db₁, h₁, h⟩ := unit_bind_ok.1 h
  obtain ⟨-, -, snapshots, -, rfl⟩ := add_ok.1 h₁
  obtain ⟨db₂, h₂, h⟩ := unit_bind_ok.1 h
  obtain rfl := record_ok.1 h₂
  cases pure_ok.1 h
  exact htold.elsewhere rfl rfl (by simp)

theorem runDiscovery_told {env : DiscoveryEnv} {snapshotId : Uuid}
    {profiling : Option ProfilingConfig} {snapshot : SchemaSnapshot} (htold : StandingTold db)
    (h : runDiscovery std env ctx snapshotId profiling db = .ok (snapshot, db')) :
    StandingTold db' := by
  obtain ⟨snapshot, -, h⟩ := read_bind_ok.1 h
  obtain ⟨⟨connection, engine, pool⟩, -, h⟩ := read_bind_ok.1 h
  obtain ⟨result, -, h⟩ := read_bind_ok.1 h
  obtain ⟨previous, -, h⟩ := read_bind_ok.1 h
  obtain ⟨profiles, -, h⟩ := read_bind_ok.1 h
  obtain ⟨db₁, h₁, h⟩ := unit_bind_ok.1 h
  have hprofiled : StandingTold db₁ := by
    cases profiles with
    | none =>
      cases pure_ok.1 h₁
      exact htold
    | some ps =>
      obtain rfl := record_ok.1 h₁
      exact htold.elsewhere rfl rfl (by simp)
  obtain ⟨db₂, h₂, h⟩ := unit_bind_ok.1 h
  rw [flushSnapshot, write_ok] at h₂
  cases h₂
  obtain ⟨db₃, h₃, h⟩ := unit_bind_ok.1 h
  obtain rfl := record_ok.1 h₃
  cases pure_ok.1 h
  exact hprofiled.elsewhere rfl rfl (by simp)

/-! ## The trail of a run -/

theorem told_of_succeeds {call : Call} (htold : StandingTold db) (h : Succeeds std db call) :
    StandingTold (step std db call) := by
  unfold Succeeds at h
  generalize step std db call = db' at h ⊢
  cases call with
  | createDraft =>
    obtain ⟨p, h⟩ := discard_ok.1 h
    exact createDraft_told htold h
  | createNewVersion =>
    obtain ⟨v, h⟩ := discard_ok.1 h
    exact createNewVersion_told htold h
  | submitForValidation =>
    obtain ⟨m, h⟩ := discard_ok.1 h
    exact submitForValidation_told htold h
  | approve =>
    obtain ⟨m, h⟩ := discard_ok.1 h
    exact approve_told htold h
  | activate =>
    obtain ⟨m, h⟩ := discard_ok.1 h
    exact activate_told htold h
  | deprecateMapping =>
    obtain ⟨m, h⟩ := discard_ok.1 h
    exact deprecateMapping_told htold h
  | reject =>
    obtain ⟨m, h⟩ := discard_ok.1 h
    exact reject_told htold h
  | suspendAffectedByDrift =>
    obtain ⟨as, h⟩ := discard_ok.1 h
    exact suspendAffectedByDrift_told htold h
  | startDiscovery =>
    obtain ⟨snapshot, h⟩ := discard_ok.1 h
    exact startDiscovery_told htold h
  | runDiscoveryJob =>
    obtain ⟨snapshot, h⟩ := discard_ok.1 h
    exact runDiscovery_told htold h
  | otherServices users credentials connections =>
    rw [perform, write_ok] at h
    cases h
    exact htold

theorem StandingTold.step (htold : StandingTold db) (call : Call) :
    StandingTold (HermesRpt.step std db call) := by
  rcases step_cases std db call with h | ⟨-, h⟩
  · exact told_of_succeeds htold h
  · rw [h]
    exact htold

/-- A version that production is served is the one that the trail names. -/
theorem StandingTold.served (htold : StandingTold db) {mappingId : Uuid} {version : MappingVersion}
    (h : getProductionVersion db ctx mappingId = .ok version) :
    replay (aboutResource "SchemaMapping") tellStanding db.audit mappingId =
      some ⟨.ACTIVE, some (uuidStr version.id), false⟩ := by
  obtain ⟨m, activeVersionId, hm, hstate, hactive, hsuspended, hversion⟩ := getProductionVersion_ok.1 h
  obtain ⟨hrow, -⟩ := require_ok.1 hversion
  have hid : version.id = activeVersionId := (Table.find?_eq_some.1 hrow).2
  have hreplay : (db.mappings.find? mappingId).map standingOf =
      replay (aboutResource "SchemaMapping") tellStanding db.audit mappingId := htold mappingId
  rw [← hreplay, (require_row hm).1, Option.map_some, standingOf, hstate, hactive, hsuspended, hid,
    Option.map_some]

end

/-- From mappings that the trail tells, every run of lifecycle and discovery calls leaves mappings that
it tells, and the trail names the version that production is served. -/
theorem production_audited (std : Stdlib) {start : ControlPlane} (hstart : StandingTold start)
    (calls : List Call) :
    StandingTold (run (step std) start calls) ∧ ∀ ctx mappingId version,
      getProductionVersion (run (step std) start calls) ctx mappingId = .ok version →
      replay (aboutResource "SchemaMapping") tellStanding (run (step std) start calls).audit mappingId =
        some ⟨.ACTIVE, some (uuidStr version.id), false⟩ := by
  have htold : StandingTold (run (step std) start calls) :=
    run_invariant (fun _ call h => h.step call) hstart calls
  exact ⟨htold, fun _ _ _ h => htold.served h⟩

/-- A mapping is activated, and a drifted discovery suspends it. -/
theorem production_audited_suspension :
    StandingTold (run (step Sample.std) Sample.db
      (Sample.activation ++ [.suspendAffectedByDrift Sample.ctx Sample.drifted])) :=
  (production_audited Sample.std (fun _ => rfl) _).1

example : replay (aboutResource "SchemaMapping") tellStanding (run (step Sample.std) Sample.db
      (Sample.activation ++ [.suspendAffectedByDrift Sample.ctx Sample.drifted])).audit 30 =
    some ⟨.ACTIVE, some (uuidStr 40), true⟩ := by
  decide +kernel

end Lifecycle

end HermesRpt
