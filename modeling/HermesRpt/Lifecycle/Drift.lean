import HermesRpt.Lifecycle.Availability
import HermesRpt.Lifecycle.Snapshots

/-!
# HermesRpt.Lifecycle.Drift

What a discovery job does to the mappings that read a table it finds changed: nothing. The job
stores the drift events and ends; the suspension is a call of its own.

* `Drifts`     : the job's comparison names a table of a connection.
* `ReadsTable` : an active mapping of a connection whose active version reads a table.
* `drift_suspends_iff` : after the job such mappings are out of production exactly when they were
  suspended before it.
-/

namespace HermesRpt

namespace Lifecycle

open Keyed (Table)
open Transaction Machine
open Connectors Schemas Mappings

/-- The job compares the schema it finds with the last completed snapshot of the connection, and
the comparison names `table`. -/
def Drifts (std : Stdlib) (db : ControlPlane) (ctx : TenantContext) (env : DiscoveryEnv)
    (snapshotId connectionId : Uuid) (table : String) : Prop :=
  ∃ snapshot result,
    require SchemaSnapshot db snapshotId ctx = .ok snapshot ∧
    snapshot.connectionId = connectionId ∧ Introspects db ctx env snapshot result ∧
    table ∈ (driftEvents std (latestCompleted db connectionId ctx snapshot.sequenceNumber)
      result).map (·.table)

/-- An active mapping of the connection whose active version reads the table. -/
def ReadsTable (db : ControlPlane) (connectionId : Uuid) (table : String) (m : SchemaMapping) : Prop :=
  m ∈ db.mappings ∧ m.state = .ACTIVE ∧ connectionOf db m = some connectionId ∧
  ∃ v ∈ db.versions, m.activeVersionId = some v.id ∧
    v.mappingDocument.source.qualifiedName = table

/-- Production gets nothing of mapping `k` until it is activated again. -/
def OutOfProduction (std : Stdlib) (db : ControlPlane) (k : Uuid) : Prop :=
  ∀ calls, Meets (step std) (fun db call => ¬Activates std k db call) db calls →
    ∀ ctx id, ¬Serves (run (step std) db calls) ctx k id

/-- What the drift events of the snapshot should do, in the state after its job: the active mappings
of the connection that read a table they name are out of production. -/
def SuspendsDrifted (std : Stdlib) (db : ControlPlane) (snapshotId : Uuid) : Prop :=
  ∀ s, db.snapshots.find? snapshotId = some s → s.status = .COMPLETED →
    ∀ table ∈ s.affectedTables, ∀ m, ReadsTable db s.connectionId table m →
      OutOfProduction std db m.id

variable {std : Stdlib} {db : ControlPlane} {ctx : TenantContext} {env : DiscoveryEnv}
  {snapshotId : Uuid} {profiling : Option ProfilingConfig}

/-- An active mapping is out of production exactly when it is suspended. -/
theorem outOfProduction_iff (hr : Reachable std db) {m : SchemaMapping} (hm : m ∈ db.mappings)
    (hs : m.state = .ACTIVE) : OutOfProduction std db m.id ↔ m.suspendedDueToDrift = true := by
  have hrow : db.mappings.find? m.id = some m := Table.find?_key hm
  constructor
  · intro h
    by_contra hsus
    rw [Bool.not_eq_true] at hsus
    obtain ⟨v, hv, ha, ht, -, -⟩ := active_version_stored hr hm hs
    let ctx : TenantContext := { tenantId := m.tenantId, principalId := 0 }
    have hserved : getProductionVersion db ctx m.id = .ok v :=
      getProductionVersion_ok.2 ⟨m, v.id, require_ok.2 ⟨hrow, rfl⟩, hs, ha, hsus,
        require_ok.2 ⟨Table.find?_key hv, ht⟩⟩
    exact h [] trivial ctx v.id (.inl ⟨v, hserved, rfl⟩)
  · intro hsus calls hno ctx id
    have hun : Unserved (view db m.id) := by
      intro m' hm' _
      rw [show (view db m.id).row = some m from hrow] at hm'
      cases hm'
      exact hsus
    exact (unserved_run hr hun hno).not_serves ctx id

theorem affectedTables_completed (snapshot : SchemaSnapshot) (previous : Option SchemaSnapshot)
    (result : SchemaIntrospectionResult) (profiles : Option (List Canonical.Json)) :
    (completed std snapshot previous result profiles).affectedTables
      = (driftEvents std previous result).map (·.table) := by
  cases previous <;> rfl

/-- The events of the snapshot a job committed are those of its comparison. -/
theorem drifts_iff (hok : Succeeds std db (.runDiscoveryJob ctx env snapshotId profiling))
    {connectionId : Uuid} {table : String} :
    Drifts std db ctx env snapshotId connectionId table ↔
      ∃ s, (step std db (.runDiscoveryJob ctx env snapshotId profiling)).snapshots.find? snapshotId
        = some s ∧ s.status = .COMPLETED ∧ s.connectionId = connectionId ∧
        table ∈ s.affectedTables := by
  obtain ⟨snapshot, result, profiles, log, hs, hi, hdb⟩ := job_ok hok
  have hrow : (step std db (.runDiscoveryJob ctx env snapshotId profiling)).snapshots.find? snapshotId
      = some (discovered std db ctx snapshot result profiles) := by
    rw [hdb]
    exact (find?_discovered hs snapshotId).trans (if_pos rfl)
  have hevents : (discovered std db ctx snapshot result profiles).affectedTables = (driftEvents std
      (latestCompleted db snapshot.connectionId ctx snapshot.sequenceNumber) result).map (·.table) :=
    affectedTables_completed ..
  constructor
  · rintro ⟨snapshot', result', hs', rfl, hi', ht⟩
    rw [hs] at hs'; cases hs'
    obtain ⟨c, e, p, he, hr⟩ := hi
    obtain ⟨c', e', p', he', hr'⟩ := hi'
    rw [he] at he'; cases he'
    rw [hr] at hr'; cases hr'
    exact ⟨_, hrow, rfl, rfl, hevents ▸ ht⟩
  · rintro ⟨s, hf, -, rfl, ht⟩
    rw [hrow] at hf; cases hf
    exact ⟨snapshot, result, hs, rfl, hi, hevents ▸ ht⟩

/-- The job changes nothing about who reads a table. -/
theorem readsTable_job (hr : Reachable std db)
    (hok : Succeeds std db (.runDiscoveryJob ctx env snapshotId profiling)) {connectionId : Uuid}
    {table : String} {m : SchemaMapping} :
    ReadsTable (step std db (.runDiscoveryJob ctx env snapshotId profiling)) connectionId table m ↔
      ReadsTable db connectionId table m := by
  obtain ⟨snapshot, result, profiles, log, -, -, hdb⟩ := job_ok hok
  have hconn : m ∈ db.mappings →
      connectionOf (step std db (.runDiscoveryJob ctx env snapshotId profiling)) m
        = connectionOf db m := by
    intro hm
    obtain ⟨s, hs⟩ := reference_of_reachable hr hm
    exact connectionOf_step hs
  have hmaps : (step std db (.runDiscoveryJob ctx env snapshotId profiling)).mappings = db.mappings := by
    rw [hdb]; rfl
  have hvers : (step std db (.runDiscoveryJob ctx env snapshotId profiling)).versions = db.versions := by
    rw [hdb]; rfl
  unfold ReadsTable
  rw [hmaps, hvers]
  refine and_congr_right fun hm => ?_
  rw [hconn hm]

/-- After a job that committed its snapshot, the active mappings of the connection that read a
table named by its drift events are out of production, if and only if they were suspended already
when the job began. -/
theorem drift_suspends_iff (std : Stdlib) (db : ControlPlane) (hr : Reachable std db)
    (ctx : TenantContext) (env : DiscoveryEnv) (snapshotId : Uuid)
    (profiling : Option ProfilingConfig)
    (hok : Succeeds std db (.runDiscoveryJob ctx env snapshotId profiling)) :
    SuspendsDrifted std (step std db (.runDiscoveryJob ctx env snapshotId profiling)) snapshotId ↔
    ∀ connectionId table, Drifts std db ctx env snapshotId connectionId table →
      ∀ m, ReadsTable db connectionId table m → m.suspendedDueToDrift = true := by
  have hout : ∀ {c t m}, ReadsTable db c t m →
      (OutOfProduction std (step std db (.runDiscoveryJob ctx env snapshotId profiling)) m.id ↔
        m.suspendedDueToDrift = true) := by
    intro c t m hm
    have hm' := (readsTable_job hr hok).2 hm
    exact outOfProduction_iff hr.step hm'.1 hm'.2.1
  constructor
  · intro h c t hd m hm
    obtain ⟨s, hf, hs, rfl, ht⟩ := (drifts_iff hok).1 hd
    exact (hout hm).1 (h s hf hs t ht m ((readsTable_job hr hok).2 hm))
  · intro h s hf hs t ht m hm
    have hm := (readsTable_job hr hok).1 hm
    exact (hout hm).2 (h _ t ((drifts_iff hok).2 ⟨s, hf, hs, rfl, ht⟩) m hm)

/-- The job finds a column dropped from the table of the active sample mapping, and production goes
on serving it. -/
theorem drift_not_suspended :
    ¬∀ (std : Stdlib) (db : ControlPlane), Reachable std db → ∀ (ctx : TenantContext)
      (env : DiscoveryEnv) (snapshotId : Uuid) (profiling : Option ProfilingConfig),
      Succeeds std db (.runDiscoveryJob ctx env snapshotId profiling) →
      SuspendsDrifted std (step std db (.runDiscoveryJob ctx env snapshotId profiling)) snapshotId := by
  intro h
  have hr := Sample.reachable_activation [Sample.discovery]
  have hm : ((run (step Sample.std) Sample.db (Sample.activation ++ [Sample.discovery])).mappings.find?
      30).map (fun m => (m.state, m.suspendedDueToDrift, m.activeVersionId, m.schemaSnapshotId))
      = some (.ACTIVE, false, some 40, 20) := by decide +kernel
  have hv : ((run (step Sample.std) Sample.db (Sample.activation ++ [Sample.discovery])).versions.find?
      40).map (fun v => v.mappingDocument.source.qualifiedName) = some "fleet.vehicles" := by
    decide +kernel
  have hc : ((run (step Sample.std) Sample.db (Sample.activation ++ [Sample.discovery])).snapshots.find?
      20).map (·.connectionId) = some 10 := by decide +kernel
  have hjob : (perform Sample.std Sample.discoveryJob (run (step Sample.std) Sample.db
      (Sample.activation ++ [Sample.discovery]))).toBool = true := by decide +kernel
  have hs : ((step Sample.std (run (step Sample.std) Sample.db (Sample.activation ++
      [Sample.discovery])) Sample.discoveryJob).snapshots.find? 21).map
      (fun s => (s.status, s.connectionId, s.affectedTables))
      = some (.COMPLETED, 10, ["fleet.vehicles"]) := by decide +kernel
  generalize run (step Sample.std) Sample.db (Sample.activation ++ [Sample.discovery]) = db
    at hr hm hv hc hjob hs
  have hok : Succeeds Sample.std db Sample.discoveryJob := succeeds_of_toBool hjob
  obtain ⟨m, hm, hme⟩ := Option.map_eq_some_iff.1 hm
  obtain ⟨v, hv, hve⟩ := Option.map_eq_some_iff.1 hv
  obtain ⟨s, hs, hse⟩ := Option.map_eq_some_iff.1 hs
  simp only [Prod.mk.injEq] at hme hse
  obtain ⟨hmm, hmid⟩ := Table.find?_eq_some.1 hm
  obtain ⟨hvm, hvid⟩ := Table.find?_eq_some.1 hv
  have hreads : ReadsTable db 10 "fleet.vehicles" m :=
    ⟨hmm, hme.1, by rw [connectionOf, hme.2.2.2, hc], v, hvm,
      hme.2.2.1.trans (congrArg some hvid.symm), hve⟩
  have hreads' := (readsTable_job hr hok).2 hreads
  have hout := h Sample.std db hr Sample.ctx Sample.driftedEnv 21 none hok s hs hse.1
    "fleet.vehicles" (hse.2.2 ▸ List.mem_singleton_self _) m (hse.2.1 ▸ hreads')
  have hsus := (outOfProduction_iff hr.step hreads'.1 hme.1).1 hout
  rw [hme.2.1] at hsus; cases hsus

/-- The same job after an earlier suspension of the sample mapping. -/
theorem drift_suspends_iff_sample :
    SuspendsDrifted Sample.std (step Sample.std (run (step Sample.std) Sample.db (Sample.activation ++
      [.suspendAffectedByDrift Sample.ctx Sample.drifted, Sample.discovery])) Sample.discoveryJob)
      21 := by
  have hr := Sample.reachable_activation
    [.suspendAffectedByDrift Sample.ctx Sample.drifted, Sample.discovery]
  have hsus : (run (step Sample.std) Sample.db (Sample.activation ++
      [.suspendAffectedByDrift Sample.ctx Sample.drifted, Sample.discovery])).mappings.rows.all
      (·.suspendedDueToDrift) = true := by decide +kernel
  have hjob : (perform Sample.std Sample.discoveryJob (run (step Sample.std) Sample.db
      (Sample.activation ++ [.suspendAffectedByDrift Sample.ctx Sample.drifted,
        Sample.discovery]))).toBool = true := by decide +kernel
  generalize run (step Sample.std) Sample.db (Sample.activation ++
    [.suspendAffectedByDrift Sample.ctx Sample.drifted, Sample.discovery]) = db at hr hsus hjob ⊢
  have hok : Succeeds Sample.std db Sample.discoveryJob := succeeds_of_toBool hjob
  exact (drift_suspends_iff Sample.std db hr Sample.ctx Sample.driftedEnv 21 none hok).2
    fun _ _ _ m hm => List.all_eq_true.1 hsus m hm.1

end Lifecycle

end HermesRpt
