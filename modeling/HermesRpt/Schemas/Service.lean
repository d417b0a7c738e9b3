import HermesRpt.Connectors.Service
import Mathlib.Data.List.MinMax
import Mathlib.Order.Nat

/-!
# HermesRpt.Schemas.Service

Schema discovery. `start_discovery` adds a pending snapshot; `run_discovery` introspects the
customer database, compares the result with the previous completed snapshot of the connection and
stores it; `run_discovery_job` is the background job around it.

The collaborators that are injected into the service (secret provider, pool registry, introspector,
profiler) are the parameter `DiscoveryEnv`.
-/

namespace HermesRpt

namespace Schemas

open Transaction
open Connectors

structure ProfilingConfig where
  enabled : Bool := false
  sampleRows : Nat := 100
  maxTables : Nat := 10
  denylistedColumnPatterns : List String := []

/-- The injected collaborators, as they answer during one run. -/
structure DiscoveryEnv where
  secrets : SecretProvider
  pool : PoolRegistry
  introspect : Engine → List String → Except PyError SchemaIntrospectionResult
  profileTable : Engine → TableMetadata → ProfilingConfig → Except PyError Canonical.Json

/-- The snapshots of a connection that the tenant can see. -/
def snapshotsOf (db : ControlPlane) (connectionId : Uuid) (ctx : TenantContext) :
    List SchemaSnapshot :=
  (listForTenant SchemaSnapshot db ctx).filter (·.connectionId = connectionId)

/-- `next_sequence_number` -/
def nextSequenceNumber (db : ControlPlane) (connectionId : Uuid) (ctx : TenantContext) : Nat :=
  ((snapshotsOf db connectionId ctx).map (·.sequenceNumber)).foldr max 0 + 1

/-- `latest_completed` -/
def latestCompleted (db : ControlPlane) (connectionId : Uuid) (ctx : TenantContext)
    (beforeSequence : Nat) : Option SchemaSnapshot :=
  ((snapshotsOf db connectionId ctx).filter fun s =>
    s.status = .COMPLETED ∧ s.sequenceNumber < beforeSequence).argmax (·.sequenceNumber)

def startDiscovery (ctx : TenantContext) (connectionId snapshotId : Uuid) :
    Session SchemaSnapshot := do
  let number ← read fun db => .ok (nextSequenceNumber db connectionId ctx)
  let snapshot : SchemaSnapshot := {
    id := snapshotId, tenantId := ctx.tenantId, connectionId, sequenceNumber := number,
    status := .PENDING }
  add ctx snapshot
  record ctx "schema_discovery.start" .SUCCESS "SchemaSnapshot" snapshot.id
  return snapshot

/-- The row of `snapshot`, replaced by `snapshot`. -/
def setSnapshot (db : ControlPlane) (snapshot : SchemaSnapshot) : ControlPlane :=
  { db with snapshots :=
      db.snapshots.update snapshot.id (fun r => { snapshot with id := r.id }) (fun _ => rfl) }

def flushSnapshot (snapshot : SchemaSnapshot) : Session Unit :=
  write fun db => .ok (setSnapshot db snapshot)

/-- The drift events of a new result; a first snapshot has nothing to compare with. -/
def driftEvents (std : Stdlib) (previous : Option SchemaSnapshot)
    (result : SchemaIntrospectionResult) : List DriftEvent :=
  match previous.bind (·.metadataDocument) with
  | some document => compareSnapshots std document.result result
  | none => []

/-- The profiles of the first tables, when profiling is on. -/
def profileTables (env : DiscoveryEnv) (engine : Engine) (result : SchemaIntrospectionResult) :
    Option ProfilingConfig → Except PyError (Option (List Canonical.Json))
  | none => .ok none
  | some profiling =>
    if profiling.enabled then do
      let profiles ← (result.tables.take profiling.maxTables).mapM fun table =>
        env.profileTable engine table profiling
      return some profiles
    else .ok none

/-- The snapshot a successful run stores. -/
def completed (std : Stdlib) (snapshot : SchemaSnapshot) (previous : Option SchemaSnapshot)
    (result : SchemaIntrospectionResult) (profiles : Option (List Canonical.Json)) :
    SchemaSnapshot :=
  let fingerprints := computeFingerprints std result
  { snapshot with
    metadataDocument := some ⟨result, profiles⟩
    tableFingerprints := fingerprints.2
    schemaFingerprint := some fingerprints.1
    driftSummary := previous.map fun _ => driftEvents std previous result
    status := .COMPLETED
    error := none }

def recordProfiling (ctx : TenantContext) (snapshotId : Uuid) :
    Option (List Canonical.Json) → Session Unit
  | none => pure ()
  | some profiles =>
    record ctx "schema_discovery.profiling" .SUCCESS "SchemaSnapshot" snapshotId
      [("tables_profiled", some (.int profiles.length))]

/-- A raise marks the snapshot failed and records it before it goes on to the caller; in the
caller's transaction, which is rolled back, neither survives. -/
def runDiscovery (std : Stdlib) (env : DiscoveryEnv) (ctx : TenantContext) (snapshotId : Uuid)
    (profiling : Option ProfilingConfig) : Session SchemaSnapshot := do
  let snapshot ← read fun db => require SchemaSnapshot db snapshotId ctx
  let (connection, engine, _) ← read fun db =>
    getOrCreateEngine env.secrets db env.pool snapshot.connectionId ctx
  let result ← read fun _ => env.introspect engine connection.schemaAllowlist
  let previous ← read fun db =>
    .ok (latestCompleted db snapshot.connectionId ctx snapshot.sequenceNumber)
  let profiles ← read fun _ => profileTables env engine result profiling
  recordProfiling ctx snapshot.id profiles
  let snapshot' := completed std snapshot previous result profiles
  flushSnapshot snapshot'
  record ctx "schema_discovery.run" .SUCCESS "SchemaSnapshot" snapshot.id
    [("tables_found", some (.int result.tables.length)),
      ("drift_event_count", some (.int (driftEvents std previous result).length))]
  return snapshot'

/-- `run_discovery_job`: commits a run that succeeds and rolls back one that raises. Nothing else
happens after the commit. -/
def runDiscoveryJob (std : Stdlib) (env : DiscoveryEnv) (ctx : TenantContext) (snapshotId : Uuid)
    (profiling : Option ProfilingConfig) : Session Unit :=
  runDiscovery std env ctx snapshotId profiling >>= fun _ => pure ()

/-! ## What the methods did -/

variable {std : Stdlib} {env : DiscoveryEnv} {ctx : TenantContext} {db db' : ControlPlane}

theorem mem_snapshotsOf {connectionId : Uuid} {s : SchemaSnapshot} :
    s ∈ snapshotsOf db connectionId ctx ↔
      s ∈ db.snapshots ∧ s.tenantId = ctx.tenantId ∧ s.connectionId = connectionId := by
  rw [snapshotsOf, List.mem_filter, mem_listForTenant]
  simp only [decide_eq_true_eq, and_assoc]
  rfl

theorem startDiscovery_ok {connectionId snapshotId : Uuid} {snapshot : SchemaSnapshot}
    (h : startDiscovery ctx connectionId snapshotId db = .ok (snapshot, db')) :
    snapshot = { id := snapshotId, tenantId := ctx.tenantId, connectionId,
                 sequenceNumber := nextSequenceNumber db connectionId ctx, status := .PENDING } ∧
    (∃ c, db.connections.find? connectionId = some c) ∧
    ∃ snapshots log, db.snapshots.insert? snapshot = some snapshots ∧
      db' = { db with snapshots, audit := log } := by
  unfold startDiscovery at h
  obtain ⟨number, hn, h⟩ := read_bind_ok.1 h
  cases hn
  obtain ⟨db₁, h₁, h⟩ := unit_bind_ok.1 h
  obtain ⟨-, ha, ss, hss, rfl⟩ := add_ok.1 h₁
  obtain ⟨db₂, h₂, h⟩ := unit_bind_ok.1 h
  obtain rfl := record_ok.1 h₂
  cases pure_ok.1 h
  simp only [Stored.admits, Bool.and_eq_true] at ha
  exact ⟨rfl, Option.isSome_iff_exists.1 ha.1, ss, _, hss, rfl⟩

theorem runDiscovery_ok {snapshotId : Uuid} {profiling : Option ProfilingConfig}
    {snapshot' : SchemaSnapshot}
    (h : runDiscovery std env ctx snapshotId profiling db = .ok (snapshot', db')) :
    ∃ snapshot connection engine pool result profiles log,
      require SchemaSnapshot db snapshotId ctx = .ok snapshot ∧
      getOrCreateEngine env.secrets db env.pool snapshot.connectionId ctx
        = .ok (connection, engine, pool) ∧
      env.introspect engine connection.schemaAllowlist = .ok result ∧
      snapshot' = completed std snapshot
        (latestCompleted db snapshot.connectionId ctx snapshot.sequenceNumber) result profiles ∧
      db' = { setSnapshot db snapshot' with audit := log } := by
  unfold runDiscovery at h
  obtain ⟨snapshot, hs, h⟩ := read_bind_ok.1 h
  obtain ⟨⟨connection, engine, pool⟩, he, h⟩ := read_bind_ok.1 h
  obtain ⟨result, hr, h⟩ := read_bind_ok.1 h
  obtain ⟨previous, hp, h⟩ := read_bind_ok.1 h
  cases hp
  obtain ⟨profiles, -, h⟩ := read_bind_ok.1 h
  obtain ⟨db₁, h₁, h⟩ := unit_bind_ok.1 h
  have hlog : ∃ log, db₁ = { db with audit := log } := by
    cases profiles with
    | none => cases pure_ok.1 h₁; exact ⟨_, rfl⟩
    | some ps => exact ⟨_, record_ok.1 h₁⟩
  obtain ⟨log, rfl⟩ := hlog
  obtain ⟨db₂, h₂, h⟩ := unit_bind_ok.1 h
  rw [flushSnapshot, write_ok] at h₂
  cases h₂
  obtain ⟨db₃, h₃, h⟩ := unit_bind_ok.1 h
  obtain rfl := record_ok.1 h₃
  cases pure_ok.1 h
  exact ⟨snapshot, connection, engine, pool, result, profiles, _, hs, he, hr, rfl, rfl⟩

theorem find?_setSnapshot {snapshot old : SchemaSnapshot} (k : Uuid)
    (h : db.snapshots.find? snapshot.id = some old) :
    (setSnapshot db snapshot).snapshots.find? k =
      if k = snapshot.id then some snapshot else db.snapshots.find? k := by
  rw [setSnapshot, Keyed.Table.find?_update]
  split
  · rename_i hk
    have hid : old.id = snapshot.id := (Keyed.Table.find?_eq_some.1 h).2
    rw [hk, h, Option.map_some, hid]
  · rfl

end Schemas

end HermesRpt
