import HermesRpt.Lib.UnitOfWork
import HermesRpt.System

/-!
# HermesRpt.Schemas.Jobs

The discovery job with its session. `run_discovery` marks a snapshot whose discovery raises as failed,
records it and raises again; the job around it rolls the session back.

* `runDiscovery`, `runDiscoveryJob` : the service's method and the job, with what their session sees.
* `runDiscovery_raises`             : the session of a run that raised sees the failure on record.
* `session_runDiscoveryJob`         : the job leaves committed what the transaction leaves.
* `final_status_iff`                : when a snapshot has a final status after its job.
-/

namespace HermesRpt

/-- `f"{type(exc).__module__}.{type(exc).__name__}"` -/
def ErrorClass.qualifiedName : ErrorClass → String
  | .TenantMismatchError => "hermes_rpt.common.repository.TenantMismatchError"
  | .AuthorizationError => "hermes_rpt.auth.errors.AuthorizationError"
  | .InvalidModelStageTransitionError => "hermes_rpt.registry.service.InvalidModelStageTransitionError"
  | .IncompatibleAdapterError => "hermes_rpt.registry.service.IncompatibleAdapterError"
  | .ArtifactIntegrityError => "hermes_rpt.registry.artifact_integrity.ArtifactIntegrityError"
  | .NoCheckpointArtifactError => "hermes_rpt.inference.model_loading.NoCheckpointArtifactError"
  | .CircuitOpenError => "hermes_rpt.inference.resilience.CircuitOpenError"
  | .TimeoutExceededError => "hermes_rpt.inference.resilience.TimeoutExceededError"
  | .InvalidMappingStateTransitionError => "hermes_rpt.mappings.service.InvalidMappingStateTransitionError"
  | .MappingNotProductionReadyError => "hermes_rpt.mappings.service.MappingNotProductionReadyError"
  | .MappingValidationError => "hermes_rpt.mappings.validation.MappingValidationError"
  | .ExpressionTooDeepError => "hermes_rpt.mappings.expressions.ExpressionTooDeepError"
  | .ExpressionEvaluationError => "hermes_rpt.mappings.expressions.ExpressionEvaluationError"
  | .TargetMappingUnavailableError => "hermes_rpt.features.resolver.TargetMappingUnavailableError"
  | .TargetRowNotFoundError => "hermes_rpt.features.service.TargetRowNotFoundError"
  | .TargetRecordNotFoundError => "hermes_rpt.models.transformer.context.TargetRecordNotFoundError"
  | .ColumnNotDirectlyMappedError => "hermes_rpt.features.compiler.ColumnNotDirectlyMappedError"
  | .QueryCostExceededError => "hermes_rpt.features.cost_guard.QueryCostExceededError"
  | .DisallowedObjectError => "hermes_rpt.connectors.errors.DisallowedObjectError"
  | .WriteStatementRejectedError => "hermes_rpt.connectors.errors.WriteStatementRejectedError"
  | .ConnectionDisabledError => "hermes_rpt.connectors.service.ConnectionDisabledError"
  | .ConnectionNotReadyError => "hermes_rpt.connectors.service.ConnectionNotReadyError"
  | .SecretNotFoundError => "hermes_rpt.secrets.provider.SecretNotFoundError"
  | .UnknownDeriveFunctionError => "hermes_rpt.features.derive.UnknownDeriveFunctionError"
  | .UnknownLabelFunctionError => "hermes_rpt.datasets.label.UnknownLabelFunctionError"
  | .DatasetTenantMismatchError => "hermes_rpt.datasets.builder.DatasetTenantMismatchError"
  | .NoProductionModelError => "hermes_rpt.inference.service.NoProductionModelError"
  | .PredictionTaskNotConfiguredError =>
    "hermes_rpt.inference.service.PredictionTaskNotConfiguredError"
  | .SharedPretrainingConsentError =>
    "hermes_rpt.models.transformer.pretraining_consent.SharedPretrainingConsentError"
  | .IntegrityError => "sqlalchemy.exc.IntegrityError"
  | .MultipleResultsFound => "sqlalchemy.exc.MultipleResultsFound"
  | .DatabaseError => "sqlalchemy.exc.DatabaseError"
  | .StaleDataError => "sqlalchemy.orm.exc.StaleDataError"
  | .ValidationError => "pydantic_core._pydantic_core.ValidationError"
  | .ValueError => "builtins.ValueError"
  | .KeyError => "builtins.KeyError"
  | .IndexError => "builtins.IndexError"
  | .TypeError => "builtins.TypeError"
  | .AttributeError => "builtins.AttributeError"
  | .AssertionError => "builtins.AssertionError"
  | .FileNotFoundError => "builtins.FileNotFoundError"
  | .IsADirectoryError => "builtins.IsADirectoryError"
  | .ZeroDivisionError => "builtins.ZeroDivisionError"

namespace Schemas

namespace Jobs

open Transaction UnitOfWork Effect
open Connectors

/-- `_safe_error_summary` -/
def safeErrorSummary (exc : PyError) : String := exc.cls.qualifiedName

/-- The snapshot while its discovery runs. -/
def running (found : SchemaSnapshot) : SchemaSnapshot := { found with status := .RUNNING }

/-- The body of the `try`: the snapshot with what was found, the result and the drift events. -/
def discover (std : Stdlib) (env : DiscoveryEnv) (ctx : TenantContext) (snapshot : SchemaSnapshot)
    (profiling : Option ProfilingConfig) : InSession ControlPlane PyError
      (SchemaSnapshot × SchemaIntrospectionResult × List DriftEvent) := do
  let (connection, engine, _) ← flush (read fun db =>
    getOrCreateEngine env.secrets db env.pool snapshot.connectionId ctx)
  let result ← Process.lift (env.introspect engine connection.schemaAllowlist)
  let previous ← flush (read fun db =>
    .ok (latestCompleted db snapshot.connectionId ctx snapshot.sequenceNumber))
  let profiles ← Process.lift (profileTables env engine result profiling)
  flush (recordProfiling ctx snapshot.id profiles)
  return (completed std snapshot previous result profiles, result, driftEvents std previous result)

/-- The `except` branch, up to its `raise`. -/
def markFailed (ctx : TenantContext) (snapshot : SchemaSnapshot) (exc : PyError) :
    InSession ControlPlane PyError Unit := do
  let error := safeErrorSummary exc
  flush (flushSnapshot { snapshot with status := .FAILED, error := some error })
  flush (record ctx "schema_discovery.run" .ERROR "SchemaSnapshot" snapshot.id
    [("error", some (.str error))])

def runDiscovery (std : Stdlib) (env : DiscoveryEnv) (ctx : TenantContext) (snapshotId : Uuid)
    (profiling : Option ProfilingConfig) : InSession ControlPlane PyError SchemaSnapshot := do
  let found ← flush (read fun db => require SchemaSnapshot db snapshotId ctx)
  let snapshot := running found
  -- The next query flushes the new status.
  flush (flushSnapshot snapshot)
  let (snapshot', result, events) ←
    (discover std env ctx snapshot profiling).onRaise (markFailed ctx snapshot)
  flush (flushSnapshot snapshot')
  flush (record ctx "schema_discovery.run" .SUCCESS "SchemaSnapshot" snapshot.id
    [("tables_found", some (.int result.tables.length)),
      ("drift_event_count", some (.int events.length))])
  return snapshot'

def runDiscoveryJob (std : Stdlib) (env : DiscoveryEnv) (ctx : TenantContext) (snapshotId : Uuid)
    (profiling : Option ProfilingConfig) : InSession ControlPlane PyError Unit :=
  (do let _ ← runDiscovery std env ctx snapshotId profiling; commit).orElse fun _ => rollback

/-! ## What the session sees -/

section

variable {std : Stdlib} {env : DiscoveryEnv} {ctx : TenantContext} {db : ControlPlane}
  {snapshotId : Uuid} {profiling : Option ProfilingConfig} {found : SchemaSnapshot}

theorem flushSnapshot_bind {α : Type} (snapshot : SchemaSnapshot)
    (f : Unit → InSession ControlPlane PyError α) (w : Work ControlPlane) :
    (flush (flushSnapshot snapshot) >>= f) w = f () { w with view := setSnapshot w.view snapshot } :=
  flush_bind_ok (write_ok.2 rfl)

/-- The row that a flush of `snapshot` has written, when there is one. -/
theorem find?_flushed {snapshot stored : SchemaSnapshot}
    (h : (setSnapshot db snapshot).snapshots.find? snapshot.id = some stored) :
    ∃ row : SchemaSnapshot, stored = { snapshot with id := row.id } := by
  rw [setSnapshot, Keyed.Table.find?_update, if_pos rfl, Option.map_eq_some_iff] at h
  obtain ⟨row, -, hrow⟩ := h
  exact ⟨row, hrow.symm⟩

/-- The running snapshot is not one that its own comparison looks for. -/
theorem latestCompleted_running (hfound : found ∈ db.snapshots) :
    latestCompleted (setSnapshot db (running found)) found.connectionId ctx found.sequenceNumber =
      latestCompleted db found.connectionId ctx found.sequenceNumber := by
  have hrows (p : SchemaSnapshot → Bool)
      (hp : ∀ s, p s = true → s.sequenceNumber < found.sequenceNumber) :
      (setSnapshot db (running found)).snapshots.rows.filter p = db.snapshots.rows.filter p := by
    rw [setSnapshot, Keyed.Table.filter_update]
    intro r hr hk
    obtain rfl : r = found := Keyed.Table.eq_of_key_eq hr hfound hk
    constructor
    · by_contra hpr
      exact absurd (hp _ (Bool.eq_true_of_not_eq_false hpr)) (Nat.lt_irrefl _)
    · by_contra hpr
      exact absurd (hp _ (Bool.eq_true_of_not_eq_false hpr)) (Nat.lt_irrefl _)
  have htable (db : ControlPlane) : (Stored.table db : Keyed.Table SchemaSnapshot) = db.snapshots := rfl
  simp only [latestCompleted, snapshotsOf, listForTenant, List.filter_filter, htable]
  rw [hrows]
  intro s hs
  simp only [Bool.and_eq_true, decide_eq_true_eq] at hs
  exact hs.1.2

/-- The stored result replaces the running snapshot. -/
theorem setSnapshot_completed (db : ControlPlane) (log : List AuditEvent)
    (previous : Option SchemaSnapshot) (result : SchemaIntrospectionResult)
    (profiles : Option (List Canonical.Json)) :
    setSnapshot { setSnapshot db (running found) with audit := log }
        (completed std found previous result profiles) =
      setSnapshot { db with audit := log } (completed std found previous result profiles) := by
  have hk : (running found).id = (completed std found previous result profiles).id := rfl
  simp only [setSnapshot, hk, Keyed.Table.update_update]

/-- A profiling event is added to the events, whatever else is there. -/
theorem recordProfiling_eq (ctx : TenantContext) (id : Uuid) (profiles : Option (List Canonical.Json)) :
    ∃ events, ∀ db, recordProfiling ctx id profiles db =
      .ok ((), { db with audit := db.audit ++ events }) := by
  cases profiles with
  | none => exact ⟨[], fun db => by rw [List.append_nil]; rfl⟩
  | some ps => exact ⟨_, fun db => record_ok.2 rfl⟩

/-- Nothing between the lookup and the comparison raises: the engine is reached, and the
introspection and the profiles are answered. -/
def Answered (env : DiscoveryEnv) (ctx : TenantContext) (db : ControlPlane) (found : SchemaSnapshot)
    (profiling : Option ProfilingConfig) (result : SchemaIntrospectionResult)
    (profiles : Option (List Canonical.Json)) : Prop :=
  ∃ reached, getOrCreateEngine env.secrets db env.pool found.connectionId ctx = .ok reached ∧
    env.introspect reached.2.1 reached.1.schemaAllowlist = .ok result ∧
    profileTables env reached.2.1 result profiling = .ok profiles

theorem discover_eq_ok (std : Stdlib) (hfound : found ∈ db.snapshots)
    {r : SchemaSnapshot × SchemaIntrospectionResult × List DriftEvent} {w : Work ControlPlane} :
    discover std env ctx (running found) profiling ⟨db, setSnapshot db (running found)⟩ = (.ok r, w) ↔
      ∃ result profiles view, Answered env ctx db found profiling result profiles ∧
        recordProfiling ctx found.id profiles (setSnapshot db (running found)) = .ok ((), view) ∧
        r = (completed std found
            (latestCompleted db found.connectionId ctx found.sequenceNumber) result profiles,
          result, driftEvents std
            (latestCompleted db found.connectionId ctx found.sequenceNumber) result) ∧
        w = ⟨db, view⟩ := by
  rw [← latestCompleted_running hfound]
  unfold discover
  constructor
  · intro h
    obtain ⟨reached, he, h⟩ := flush_read_bind_eq_ok.1 h
    obtain ⟨result, hr, h⟩ := lift_bind_eq_ok.1 h
    obtain ⟨previous, hp, h⟩ := flush_read_bind_eq_ok.1 h
    obtain ⟨profiles, hps, h⟩ := lift_bind_eq_ok.1 h
    obtain ⟨⟨⟩, view, hv, h⟩ := flush_bind_eq_ok.1 h
    cases hp
    cases h
    exact ⟨result, profiles, view, ⟨reached, he, hr, hps⟩, hv, rfl, rfl⟩
  · rintro ⟨result, profiles, view, ⟨reached, he, hr, hps⟩, hv, rfl, rfl⟩
    refine flush_read_bind_eq_ok.2 ⟨reached, he, lift_bind_eq_ok.2 ⟨result, hr, ?_⟩⟩
    refine flush_read_bind_eq_ok.2 ⟨_, rfl, lift_bind_eq_ok.2 ⟨profiles, hps, ?_⟩⟩
    exact flush_bind_eq_ok.2 ⟨(), view, hv, rfl⟩

/-- A run that finds the snapshot and is answered, up to its result and the state it leaves. -/
def Ran (std : Stdlib) (env : DiscoveryEnv) (ctx : TenantContext) (db : ControlPlane)
    (snapshotId : Uuid) (profiling : Option ProfilingConfig) (snapshot' : SchemaSnapshot)
    (db' : ControlPlane) : Prop :=
  ∃ found result profiles view, require SchemaSnapshot db snapshotId ctx = .ok found ∧
    Answered env ctx db found profiling result profiles ∧
    recordProfiling ctx found.id profiles db = .ok ((), view) ∧
    snapshot' = completed std found
      (latestCompleted db found.connectionId ctx found.sequenceNumber) result profiles ∧
    record ctx "schema_discovery.run" .SUCCESS "SchemaSnapshot" found.id
      [("tables_found", some (.int result.tables.length)),
        ("drift_event_count", some (.int (driftEvents std
          (latestCompleted db found.connectionId ctx found.sequenceNumber) result).length))]
      (some ctx.principalId) (setSnapshot view snapshot') = .ok ((), db')

theorem transaction_ok {snapshot' : SchemaSnapshot} {db' : ControlPlane} :
    Schemas.runDiscovery std env ctx snapshotId profiling db = .ok (snapshot', db') ↔
      Ran std env ctx db snapshotId profiling snapshot' db' := by
  unfold Schemas.runDiscovery
  constructor
  · intro h
    obtain ⟨found, hs, h⟩ := read_bind_ok.1 h
    obtain ⟨reached, he, h⟩ := read_bind_ok.1 h
    obtain ⟨result, hr, h⟩ := read_bind_ok.1 h
    obtain ⟨previous, hp, h⟩ := read_bind_ok.1 h
    obtain ⟨profiles, hps, h⟩ := read_bind_ok.1 h
    obtain ⟨view, hv, h⟩ := unit_bind_ok.1 h
    obtain ⟨db₁, h₁, h⟩ := unit_bind_ok.1 h
    obtain ⟨db₂, h₂, h⟩ := unit_bind_ok.1 h
    cases hp
    cases pure_ok.1 h
    obtain rfl : setSnapshot view _ = db₁ := Except.ok.inj (write_ok.1 h₁)
    exact ⟨found, result, profiles, view, hs, ⟨reached, he, hr, hps⟩, hv, rfl, h₂⟩
  · rintro ⟨found, result, profiles, view, hs, ⟨reached, he, hr, hps⟩, hv, rfl, h⟩
    refine read_bind_ok.2 ⟨found, hs, read_bind_ok.2 ⟨reached, he, read_bind_ok.2 ⟨result, hr, ?_⟩⟩⟩
    refine read_bind_ok.2 ⟨_, rfl, read_bind_ok.2 ⟨profiles, hps, unit_bind_ok.2 ⟨view, hv, ?_⟩⟩⟩
    exact unit_bind_ok.2 ⟨_, write_ok.2 rfl, unit_bind_ok.2 ⟨db', h, rfl⟩⟩

theorem runDiscovery_ok {snapshot' : SchemaSnapshot} {w : Work ControlPlane} :
    runDiscovery std env ctx snapshotId profiling ⟨db, db⟩ = (.ok snapshot', w) ↔
      ∃ db', Ran std env ctx db snapshotId profiling snapshot' db' ∧ w = ⟨db, db'⟩ := by
  unfold runDiscovery
  constructor
  · intro h
    obtain ⟨found, hs, h⟩ := flush_read_bind_eq_ok.1 h
    obtain ⟨⟨⟩, db₁, h₁, h⟩ := flush_bind_eq_ok.1 h
    obtain rfl : setSnapshot db (running found) = db₁ := Except.ok.inj (write_ok.1 h₁)
    obtain ⟨r, w₁, hd, h⟩ := Process.bind_eq_ok.1 h
    have hfound := (Keyed.Table.find?_eq_some.1 (require_ok.1 hs).1).1
    obtain ⟨result, profiles, view, ha, hv, rfl, rfl⟩ :=
      (discover_eq_ok _ hfound).1 (Process.onRaise_eq_ok.1 hd)
    obtain ⟨⟨⟩, db₂, h₂, h⟩ := flush_bind_eq_ok.1 h
    obtain rfl : setSnapshot view _ = db₂ := Except.ok.inj (write_ok.1 h₂)
    obtain ⟨⟨⟩, db₃, h₃, h⟩ := flush_bind_eq_ok.1 h
    cases h
    obtain ⟨events, hevents⟩ := recordProfiling_eq ctx found.id profiles
    obtain rfl : _ = view := congrArg Prod.snd (Except.ok.inj ((hevents _).symm.trans hv))
    refine ⟨db₃, ⟨found, result, profiles, _, hs, ha, hevents db, rfl, ?_⟩, rfl⟩
    rw [← setSnapshot_completed]
    exact h₃
  · rintro ⟨db', ⟨found, result, profiles, view, hs, ha, hv, rfl, h⟩, rfl⟩
    have hfound := (Keyed.Table.find?_eq_some.1 (require_ok.1 hs).1).1
    obtain ⟨events, hevents⟩ := recordProfiling_eq ctx found.id profiles
    obtain rfl : _ = view := congrArg Prod.snd (Except.ok.inj ((hevents _).symm.trans hv))
    rw [← setSnapshot_completed] at h
    have hd := (discover_eq_ok std hfound).2
      ⟨result, profiles, _, ha, hevents _, rfl, rfl⟩
    refine flush_read_bind_eq_ok.2 ⟨found, hs, flush_bind_eq_ok.2 ⟨(), _, write_ok.2 rfl, ?_⟩⟩
    refine Process.bind_eq_ok.2 ⟨_, _, Process.onRaise_eq_ok.2 hd, ?_⟩
    exact flush_bind_eq_ok.2 ⟨(), _, write_ok.2 rfl, flush_bind_eq_ok.2 ⟨(), db', h, rfl⟩⟩

/-! ## What is committed -/

theorem pending_runDiscovery (std : Stdlib) (env : DiscoveryEnv) (ctx : TenantContext)
    (snapshotId : Uuid) (profiling : Option ProfilingConfig) :
    Pending (runDiscovery std env ctx snapshotId profiling) := by
  have hdiscover (snapshot) : Pending (discover std env ctx snapshot profiling) :=
    (Pending.flush _).bind fun _ => (Pending.lift _).bind fun _ => (Pending.flush _).bind fun _ =>
      (Pending.lift _).bind fun _ => (Pending.flush _).bind fun _ => Pending.pure _
  have hfailed (snapshot exc) : Pending (markFailed ctx snapshot exc) :=
    (Pending.flush _).bind fun _ => Pending.flush _
  exact (Pending.flush _).bind fun _ => (Pending.flush _).bind fun _ =>
    ((hdiscover _).onRaise (hfailed _)).bind fun _ => (Pending.flush _).bind fun _ =>
      (Pending.flush _).bind fun _ => Pending.pure _

/-- The job commits a run that succeeds and loses everything that one that raises has recorded. -/
theorem session_runDiscoveryJob (std : Stdlib) (env : DiscoveryEnv) (ctx : TenantContext)
    (snapshotId : Uuid) (profiling : Option ProfilingConfig) (db : ControlPlane) :
    (session (runDiscoveryJob std env ctx snapshotId profiling) db).2 =
      after (Schemas.runDiscoveryJob std env ctx snapshotId profiling) db := by
  have hcommitted := (pending_runDiscovery std env ctx snapshotId profiling).committed ⟨db, db⟩
  rcases hr : runDiscovery std env ctx snapshotId profiling ⟨db, db⟩ with ⟨r, w⟩
  rw [hr] at hcommitted
  cases r with
  | ok snapshot' =>
    obtain ⟨db', hran, rfl⟩ := runDiscovery_ok.1 hr
    have htx : Schemas.runDiscoveryJob std env ctx snapshotId profiling db = .ok ((), db') :=
      Transaction.bind_ok.2 ⟨snapshot', db', transaction_ok.2 hran, rfl⟩
    rw [after_ok htx, session, runDiscoveryJob, Process.orElse, Process.bind_ok hr]
    rfl
  | error e =>
    have htx : ∃ e', Schemas.runDiscoveryJob std env ctx snapshotId profiling db = .error e' := by
      rcases after_cases (Schemas.runDiscoveryJob std env ctx snapshotId profiling) db with
        ⟨u, h⟩ | ⟨h, -⟩
      · obtain ⟨snapshot', db', h, -⟩ := Transaction.bind_ok.1 h
        rw [runDiscovery_ok.2 ⟨db', transaction_ok.1 h, rfl⟩] at hr
        cases hr
      · exact h
    obtain ⟨e', htx⟩ := htx
    rw [after_error htx, session, runDiscoveryJob, Process.orElse, Process.bind_error hr]
    exact hcommitted

/-! ## Final states -/

/-- The event of a failed run, with its error summary. -/
def IsFailureOf (snapshotId : Uuid) (error : String) (event : AuditEvent) : Prop :=
  event.action = "schema_discovery.run" ∧ event.outcome = .ERROR ∧
    event.resourceType = some "SchemaSnapshot" ∧ event.resourceId = some snapshotId ∧
    event.details = [("error", some (.str error))]

/-- The snapshot is completed, or it has failed and its error is on record. -/
def HasFinalStatus (db : ControlPlane) (snapshotId : Uuid) : Prop :=
  ∀ snapshot, db.snapshots.find? snapshotId = some snapshot →
    snapshot.status = .COMPLETED ∨ snapshot.status = .FAILED ∧
      ∃ error, snapshot.error = some error ∧ ∃ event ∈ db.audit, IsFailureOf snapshotId error event

/-- A snapshot whose failure was recorded has a final status. -/
theorem markFailed_final (ctx : TenantContext) (snapshot : SchemaSnapshot) (exc : PyError)
    (w : Work ControlPlane) : ∃ w', markFailed ctx snapshot exc w = (.ok (), w') ∧
      HasFinalStatus w'.view snapshot.id := by
  refine ⟨_, (flushSnapshot_bind _ _ _).trans (flush_ok (record_ok.2 rfl)), ?_⟩
  intro stored hstored
  obtain ⟨row, rfl⟩ := find?_flushed hstored
  exact .inr ⟨rfl, safeErrorSummary exc, rfl, _, List.mem_append_right _ (List.mem_singleton_self _),
    rfl, rfl, rfl, rfl, rfl⟩

/-- The service does its part: the session of a run that raised sees the failure on record. -/
theorem runDiscovery_raises {e : PyError} {w : Work ControlPlane}
    (h : runDiscovery std env ctx snapshotId profiling ⟨db, db⟩ = (.error e, w))
    (hs : require SchemaSnapshot db snapshotId ctx = .ok found) :
    HasFinalStatus w.view snapshotId := by
  have hid : (running found).id = snapshotId := (Keyed.Table.find?_eq_some.1 (require_ok.1 hs).1).2
  have hbegin := h
  unfold runDiscovery at hbegin
  rw [flush_bind_ok (read_ok.2 ⟨hs, rfl⟩), flushSnapshot_bind] at hbegin
  rcases hd : discover std env ctx (running found) profiling ⟨db, setSnapshot db (running found)⟩
    with ⟨r, w₁⟩
  cases r with
  | ok r =>
    obtain ⟨snapshot', result, events⟩ := r
    rw [Process.bind_ok (Process.onRaise_eq_ok.2 hd)] at hbegin
    dsimp only at hbegin
    rw [flushSnapshot_bind, flush_bind_ok (a := ()) (record_ok.2 rfl)] at hbegin
    cases hbegin
  | error e₁ =>
    obtain ⟨w₂, hfailed, hfinal⟩ := markFailed_final ctx (running found) e₁ w₁
    have hraise : (discover std env ctx (running found) profiling).onRaise
        (markFailed ctx (running found)) ⟨db, setSnapshot db (running found)⟩ = (.error e₁, w₂) := by
      simp only [Process.onRaise, hd, hfailed]
    rw [Process.bind_error hraise] at hbegin
    cases hbegin
    rw [← hid]
    exact hfinal

/-- No step of the discovery raises. -/
def NothingRaises (env : DiscoveryEnv) (ctx : TenantContext) (db : ControlPlane) (snapshotId : Uuid)
    (profiling : Option ProfilingConfig) : Prop :=
  ∃ found result profiles, require SchemaSnapshot db snapshotId ctx = .ok found ∧
    Answered env ctx db found profiling result profiles

/-- A job leaves its snapshot in a final status when nothing raises; a job in which a step raises
leaves the status that was there. -/
theorem final_status_iff (std : Stdlib) (env : DiscoveryEnv) (ctx : TenantContext)
    (snapshotId : Uuid) (profiling : Option ProfilingConfig) (db : ControlPlane) :
    HasFinalStatus (session (runDiscoveryJob std env ctx snapshotId profiling) db).2 snapshotId ↔
      NothingRaises env ctx db snapshotId profiling ∨ HasFinalStatus db snapshotId := by
  rw [session_runDiscoveryJob]
  by_cases hn : NothingRaises env ctx db snapshotId profiling
  · refine iff_of_true ?_ (.inl hn)
    obtain ⟨found, result, profiles, hs, ha⟩ := hn
    obtain ⟨events, hevents⟩ := recordProfiling_eq ctx found.id profiles
    have hran : Ran std env ctx db snapshotId profiling _ _ :=
      ⟨found, result, profiles, _, hs, ha, hevents db, rfl, record_ok.2 rfl⟩
    have htx : Schemas.runDiscoveryJob std env ctx snapshotId profiling db = .ok ((), _) :=
      Transaction.bind_ok.2 ⟨_, _, transaction_ok.2 hran, rfl⟩
    rw [after_ok htx]
    intro stored hstored
    have hid : found.id = snapshotId := (Keyed.Table.find?_eq_some.1 (require_ok.1 hs).1).2
    rw [← hid] at hstored
    obtain ⟨row, rfl⟩ := find?_flushed hstored
    exact .inl rfl
  · rw [or_iff_right hn]
    have hkept : after (Schemas.runDiscoveryJob std env ctx snapshotId profiling) db = db := by
      rcases after_cases (Schemas.runDiscoveryJob std env ctx snapshotId profiling) db with
        ⟨u, h⟩ | ⟨-, h⟩
      · obtain ⟨snapshot', db', h, -⟩ := Transaction.bind_ok.1 h
        obtain ⟨found, result, profiles, view, hs, ha, -⟩ := transaction_ok.1 h
        exact absurd ⟨found, result, profiles, hs, ha⟩ hn
      · exact h
    rw [hkept]

end

/-! A discovery of a connection that has been disabled since the snapshot was added. -/

namespace Sample

def disabled : ControlPlane :=
  { HermesRpt.Sample.db with
    connections := ⟨[{ HermesRpt.Sample.connection with status := .DISABLED }], by decide⟩
    snapshots := ⟨[{ id := 21, tenantId := 1, connectionId := 10, sequenceNumber := 2 }], by decide⟩ }

end Sample

/-- The snapshot stays pending: what the service recorded is gone with the rollback. -/
theorem failed_job_leaves_pending :
    ((session (runDiscoveryJob HermesRpt.Sample.std HermesRpt.Sample.driftedEnv HermesRpt.Sample.ctx
      21 none) Sample.disabled).2.snapshots.find? 21).map (·.status) = some .PENDING ∧
    ¬HasFinalStatus (session (runDiscoveryJob HermesRpt.Sample.std HermesRpt.Sample.driftedEnv
      HermesRpt.Sample.ctx 21 none) Sample.disabled).2 21 := by
  have hstatus : ((session (runDiscoveryJob HermesRpt.Sample.std HermesRpt.Sample.driftedEnv
      HermesRpt.Sample.ctx 21 none) Sample.disabled).2.snapshots.find? 21).map (·.status) =
      some .PENDING := by decide
  refine ⟨hstatus, fun h => ?_⟩
  obtain ⟨stored, hstored, hpending⟩ := Option.map_eq_some_iff.1 hstatus
  rcases h stored hstored with hfinal | ⟨hfinal, -⟩
  · rw [hpending] at hfinal
    cases hfinal
  · rw [hpending] at hfinal
    cases hfinal

end Jobs

end Schemas

end HermesRpt
