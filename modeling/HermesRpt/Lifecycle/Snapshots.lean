import HermesRpt.Lifecycle.View

/-!
# HermesRpt.Lifecycle.Snapshots

The snapshots of all connections, and what one call can do to them.

* `SnapshotMove`   : the table of snapshots stays, gets a pending one, or one of them is completed.
* `step_snapshots` : every step of the control plane is such a move.
* `connectionOf`   : the connection a mapping is tied to through its snapshot. It never changes.
-/

namespace HermesRpt

namespace Lifecycle

open Keyed (Table)
open Transaction Machine
open Connectors Schemas Mappings

variable {std : Stdlib} {db : ControlPlane} {call : Call}

/-- The snapshot that `start_discovery` adds. -/
def pending (db : ControlPlane) (ctx : TenantContext) (connectionId snapshotId : Uuid) :
    SchemaSnapshot :=
  { id := snapshotId, tenantId := ctx.tenantId, connectionId,
    sequenceNumber := nextSequenceNumber db connectionId ctx, status := .PENDING }

/-- The snapshot that a successful run stores. -/
def discovered (std : Stdlib) (db : ControlPlane) (ctx : TenantContext) (snapshot : SchemaSnapshot)
    (result : SchemaIntrospectionResult) (profiles : Option (List Canonical.Json)) :
    SchemaSnapshot :=
  completed std snapshot (latestCompleted db snapshot.connectionId ctx snapshot.sequenceNumber)
    result profiles

/-- The job introspects the customer database with this result. -/
def Introspects (db : ControlPlane) (ctx : TenantContext) (env : DiscoveryEnv)
    (snapshot : SchemaSnapshot) (result : SchemaIntrospectionResult) : Prop :=
  ∃ connection engine pool,
    getOrCreateEngine env.secrets db env.pool snapshot.connectionId ctx
      = .ok (connection, engine, pool) ∧
    env.introspect engine connection.schemaAllowlist = .ok result

/-- What a call can do to the table of snapshots. -/
inductive SnapshotMove (std : Stdlib) (db : ControlPlane) (call : Call) :
    Table SchemaSnapshot → Prop
  | idle : SnapshotMove std db call db.snapshots
  | started {ctx : TenantContext} {connectionId snapshotId : Uuid}
      {connection : CustomerDatabaseConnection} {snapshots : Table SchemaSnapshot}
      (start : call = .startDiscovery ctx connectionId snapshotId)
      (reference : db.connections.find? connectionId = some connection)
      (inserted : db.snapshots.insert? (pending db ctx connectionId snapshotId) = some snapshots) :
      SnapshotMove std db call snapshots
  | finished {ctx : TenantContext} {env : DiscoveryEnv} {snapshotId : Uuid}
      {profiling : Option ProfilingConfig} {snapshot : SchemaSnapshot}
      {result : SchemaIntrospectionResult} {profiles : Option (List Canonical.Json)}
      (job : call = .runDiscoveryJob ctx env snapshotId profiling)
      (required : require SchemaSnapshot db snapshotId ctx = .ok snapshot)
      (introspected : Introspects db ctx env snapshot result) :
      SnapshotMove std db call (setSnapshot db (discovered std db ctx snapshot result profiles)).snapshots

/-- The snapshot a job committed, and all the job changed. -/
theorem job_ok {ctx : TenantContext} {env : DiscoveryEnv} {snapshotId : Uuid}
    {profiling : Option ProfilingConfig}
    (hok : Succeeds std db (.runDiscoveryJob ctx env snapshotId profiling)) :
    ∃ snapshot result profiles log, require SchemaSnapshot db snapshotId ctx = .ok snapshot ∧
      Introspects db ctx env snapshot result ∧
      step std db (.runDiscoveryJob ctx env snapshotId profiling) =
        { setSnapshot db (discovered std db ctx snapshot result profiles) with audit := log } := by
  obtain ⟨snapshot', h⟩ := discard_ok.1 hok
  obtain ⟨snapshot, connection, engine, pool, result, profiles, log, hs, he, hi, rfl, hdb⟩ :=
    runDiscovery_ok h
  exact ⟨snapshot, result, profiles, log, hs, ⟨connection, engine, pool, he, hi⟩, hdb⟩

theorem step_snapshots (std : Stdlib) (db : ControlPlane) (call : Call) :
    SnapshotMove std db call (step std db call).snapshots := by
  rcases step_cases std db call with hs | ⟨-, hstep⟩
  case inr => rw [hstep]; exact .idle
  have h := hs
  unfold Succeeds at h
  cases call with
  | createDraft =>
    obtain ⟨⟨m, v⟩, h⟩ := discard_ok.1 h
    obtain ⟨-, -, -, -, -, mappings, versions, log, -, -, hstep⟩ := createDraft_ok h
    rw [hstep]; exact .idle
  | createNewVersion =>
    obtain ⟨v, h⟩ := discard_ok.1 h
    obtain ⟨m, versions, log, -, -, -, -, hstep⟩ := createNewVersion_ok h
    rw [hstep]; exact .idle
  | submitForValidation =>
    obtain ⟨_, h⟩ := discard_ok.1 h
    obtain ⟨m, version, log, -, -, -, -, -, hstep⟩ := submitForValidation_ok h
    rw [hstep]; exact .idle
  | approve =>
    obtain ⟨_, h⟩ := discard_ok.1 h
    obtain ⟨m, version, log, -, -, -, -, hstep⟩ := approve_ok h
    rw [hstep]; exact .idle
  | activate =>
    obtain ⟨_, h⟩ := discard_ok.1 h
    obtain ⟨m, version, log, -, -, -, -, hstep⟩ := activate_ok h
    rw [hstep]; exact .idle
  | deprecateMapping =>
    obtain ⟨_, h⟩ := discard_ok.1 h
    obtain ⟨m, log, -, -, -, hstep⟩ := deprecateMapping_ok h
    rw [hstep]; exact .idle
  | reject =>
    obtain ⟨_, h⟩ := discard_ok.1 h
    obtain ⟨m, log, -, -, -, hstep⟩ := reject_ok h
    rw [hstep]; exact .idle
  | suspendAffectedByDrift =>
    obtain ⟨as, h⟩ := discard_ok.1 h
    obtain ⟨mappings, log, hstep, -, -⟩ := suspendAffectedByDrift_ok h
    rw [hstep]; exact .idle
  | startDiscovery ctx connectionId snapshotId =>
    obtain ⟨snapshot, h⟩ := discard_ok.1 h
    obtain ⟨rfl, ⟨connection, hc⟩, snapshots, log, hins, hstep⟩ := startDiscovery_ok h
    rw [hstep]; exact .started rfl hc hins
  | runDiscoveryJob ctx env snapshotId profiling =>
    obtain ⟨snapshot, result, profiles, log, hs, hi, hstep⟩ := job_ok hs
    rw [hstep]; exact .finished rfl hs hi
  | otherServices =>
    rw [perform, write_ok, Except.ok.injEq] at h
    rw [← h]; exact .idle

/-- A finished run replaces the snapshot it ran on. -/
theorem find?_discovered {ctx : TenantContext} {snapshotId : Uuid} {snapshot : SchemaSnapshot}
    {result : SchemaIntrospectionResult} {profiles : Option (List Canonical.Json)}
    (hs : require SchemaSnapshot db snapshotId ctx = .ok snapshot) (k : Uuid) :
    (setSnapshot db (discovered std db ctx snapshot result profiles)).snapshots.find? k =
      if k = snapshotId then some (discovered std db ctx snapshot result profiles)
      else db.snapshots.find? k := by
  have hf : db.snapshots.find? snapshotId = some snapshot := (require_ok.1 hs).1
  obtain rfl : snapshot.id = snapshotId := (Table.find?_eq_some.1 hf).2
  exact find?_setSnapshot k hf

/-- A stored snapshot keeps its tenant, its connection and its number. -/
theorem SnapshotMove.keeps {snapshots : Table SchemaSnapshot} (h : SnapshotMove std db call snapshots)
    {k : Uuid} {s : SchemaSnapshot} (hs : db.snapshots.find? k = some s) :
    ∃ s', snapshots.find? k = some s' ∧ s'.tenantId = s.tenantId ∧
      s'.connectionId = s.connectionId ∧ s'.sequenceNumber = s.sequenceNumber := by
  cases h with
  | idle => exact ⟨s, hs, rfl, rfl, rfl⟩
  | started start reference inserted =>
    refine ⟨s, ?_, rfl, rfl, rfl⟩
    rw [Table.find?_insert? inserted, if_neg, hs]
    intro hk
    have := (Table.insert?_eq_some.1 inserted).1
    rw [hk, hs] at this; cases this
  | @finished ctx env snapshotId profiling snapshot result profiles job required introspected =>
    rw [find?_discovered required]
    split
    · rename_i hk
      have hf : db.snapshots.find? snapshotId = some snapshot := (require_ok.1 required).1
      rw [hk, hf] at hs
      cases hs
      exact ⟨_, rfl, rfl, rfl, rfl⟩
    · exact ⟨s, hs, rfl, rfl, rfl⟩

/-- The connection of the snapshot a mapping was created with. -/
def connectionOf (db : ControlPlane) (m : SchemaMapping) : Option Uuid :=
  (db.snapshots.find? m.schemaSnapshotId).map (·.connectionId)

theorem connectionOf_step {m : SchemaMapping} {s : SchemaSnapshot}
    (hs : db.snapshots.find? m.schemaSnapshotId = some s) :
    connectionOf (step std db call) m = connectionOf db m := by
  obtain ⟨s', hs', -, hc, -⟩ := (step_snapshots std db call).keeps hs
  simp only [connectionOf, hs, hs', Option.map_some, hc]

/-- The mapping with this view was created with a stored snapshot. -/
theorem Move.reference {k : Uuid} {w : View} (h : Move std k db call w)
    (href : ∀ m, (view db k).row = some m → ∃ s, db.snapshots.find? m.schemaSnapshotId = some s) :
    ∀ m, w.row = some m → ∃ s, db.snapshots.find? m.schemaSnapshotId = some s := by
  intro m' hm'
  cases h with
  | idle => exact href m' hm'
  | drafted created fresh state tenant active ready reference =>
    cases hm'
    exact reference
  | revised _ row | submitted _ row | approved _ row | activated _ row | deprecated _ row
  | rejected _ row | suspended _ row =>
    cases hm'
    obtain ⟨s, hs⟩ := href _ row
    exact ⟨s, (bumped_schemaSnapshotId _ _).symm ▸ hs⟩

theorem reference_of_reachable (h : Reachable std db) {m : SchemaMapping} (hm : m ∈ db.mappings) :
    ∃ s, db.snapshots.find? m.schemaSnapshotId = some s := by
  have key : (view db m.id).WF ∧
      ∀ m', (view db m.id).row = some m' → ∃ s, db.snapshots.find? m'.schemaSnapshotId = some s := by
    refine h.invariant (I := fun db => (view db m.id).WF ∧
      ∀ m', (view db m.id).row = some m' → ∃ s, db.snapshots.find? m'.schemaSnapshotId = some s)
      ?_ ?_
    · rintro db h₀
      have hr : Reachable std db := h₀.reachable
      refine ⟨wf_of_reachable hr _, fun m' hm' => ?_⟩
      simp only [view, Table.find?, h₀.1] at hm'
      cases hm'
    · rintro db call ⟨wf, href⟩
      refine ⟨(step_move wf).wf wf, fun m' hm' => ?_⟩
      obtain ⟨s, hs⟩ := (step_move wf).reference href m' hm'
      obtain ⟨s', hs', -⟩ := (step_snapshots std db call).keeps hs
      exact ⟨s', hs'⟩
  exact key.2 m (Table.find?_key hm)

end Lifecycle

end HermesRpt
