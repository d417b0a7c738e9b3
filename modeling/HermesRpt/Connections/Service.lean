import HermesRpt.Connectors.Service
import HermesRpt.Connections.Session
import HermesRpt.Lib.Async

/-!
# HermesRpt.Connections.Service

The connection lifecycle manager. Its methods await the control-plane database, the secret store,
the pool registry and the customer database, and other requests run while they wait.

* `Shared`  : what all requests share: the committed database, the secrets and the pooled engines.
* `Await`  : what a method awaits, and `Reply` what it gets.
* `handle`  : what an effect does. A session reads what is committed when it reads.
* `Request` : a request, with the ids it draws and what its connectivity check will find.
* `program` : the method of a request and, where the endpoint has one, the commit.
-/

namespace HermesRpt

namespace Connections

open Keyed (Dict)
open Connectors
open Async Code

structure HealthCheckResult where
  healthy : Bool
  checkedAt : DateTime
  errorSummary : Option String := none

/-- An engine of the pool, as the rows and the secret it was built from. -/
structure PooledEngine where
  connection : CustomerDatabaseConnection
  credential : DatabaseCredentialReference
  password : String

/-- What `connector.build_engine` is given. -/
def PooledEngine.target (engine : PooledEngine) : ConnectionTarget where
  host := engine.connection.host
  port := engine.connection.port
  database := engine.connection.databaseName
  username := engine.connection.username
  password := engine.password
  tlsMode := engine.connection.tlsMode

structure Shared where
  db : ControlPlane := {}
  /-- `LocalDevSecretProvider._secrets` -/
  secrets : Dict String String := Keyed.Table.empty
  /-- `TenantConnectionPoolRegistry._engines` -/
  pool : Dict (Uuid × Uuid) PooledEngine := Keyed.Table.empty

/-! ## Effects -/

inductive Await where
  | requireConnection (id : Uuid) (ctx : TenantContext)
  | requireCredential (id : Uuid) (ctx : TenantContext)
  | getCredential (id : Uuid) (ctx : TenantContext)
  | store (drawn : Uuid) (secretValue : String)
  | resolve (referenceKey : String)
  | deleteSecret (referenceKey : String)
  /-- The engine is the one that is built when none is there. -/
  | getOrCreate (tenantId connectionId : Uuid) (engine : PooledEngine)
  | evict (tenantId connectionId : Uuid)
  /-- `failure` is the summary of what the check raises, if it raises. -/
  | checkConnectivity (engine : PooledEngine) (failure : Option String)
  | flush (writes : List Write)
  | commit

@[reducible] def Reply : Await → Type
  | .requireConnection .. => CustomerDatabaseConnection
  | .requireCredential .. => DatabaseCredentialReference
  | .getCredential .. => Option DatabaseCredentialReference
  | .store .. => String
  | .resolve .. => String
  | .getOrCreate .. => PooledEngine
  | .checkConnectivity .. => Option String
  | _ => Unit

/-- `f"local-dev:{uuid.uuid4()}"` -/
def referenceKeyOf (drawn : Uuid) : String := "local-dev:" ++ uuidStr drawn

/-- What the session has flushed and not committed. -/
def pending (tr : Trace Reply) : List Write :=
  tr.flatMap fun
    | ⟨.flush writes, _⟩ => writes
    | _ => []

/-- A flush is checked against what is committed now, and so is the commit: a request that changes
the same row meanwhile makes one of the two fail. -/
def handle (tr : Trace Reply) : (e : Await) → Shared → Except PyError (Reply e × Shared)
  | .requireConnection id ctx, s =>
    (require CustomerDatabaseConnection s.db id ctx).map fun connection => (connection, s)
  | .requireCredential id ctx, s =>
    (require DatabaseCredentialReference s.db id ctx).map fun credential => (credential, s)
  | .getCredential id ctx, s => .ok (get s.db id ctx, s)
  | .store drawn secretValue, s =>
    .ok (referenceKeyOf drawn,
      { s with secrets := s.secrets.set (referenceKeyOf drawn) secretValue })
  | .resolve referenceKey, s =>
    match s.secrets.get? referenceKey with
    | some password => .ok (password, s)
    | none => .error (secretNotFound referenceKey)
  | .deleteSecret referenceKey, s => .ok ((), { s with secrets := s.secrets.erase referenceKey })
  | .getOrCreate tenantId connectionId engine, s =>
    match s.pool.get? (tenantId, connectionId) with
    | some existing => .ok (existing, s)
    | none => .ok (engine, { s with pool := s.pool.set (tenantId, connectionId) engine })
  | .evict tenantId connectionId, s =>
    .ok ((), { s with pool := s.pool.erase (tenantId, connectionId) })
  | .checkConnectivity _ failure, s => .ok (failure, s)
  | .flush writes, s => (applyWrites s.db (pending tr ++ writes)).map fun _ => ((), s)
  | .commit, s => (applyWrites s.db (pending tr)).map fun db => ((), { s with db })

/-! ## The methods -/

/-- A method of the manager. -/
abbrev Method (α : Type) := Code Reply PyError α

/-- Awaits an effect; other requests run before it is performed. -/
abbrev suspend (e : Await) : Method (Reply e) := ofEffect e

structure ConnectionRegisterRequest where
  name : String
  engine : DatabaseEngine := .POSTGRESQL
  host : String
  port : Nat := 5432
  databaseName : String
  username : String
  secretValue : String
  tlsMode : String := "require"
  schemaAllowlist : List String := []
  tableAllowlist : List String := []

def newCredential (ctx : TenantContext) (id : Uuid) (provider referenceKey : String) :
    DatabaseCredentialReference :=
  { id, tenantId := ctx.tenantId, provider, referenceKey }

/-- The row that is registered. -/
def ConnectionRegisterRequest.connection (body : ConnectionRegisterRequest) (ctx : TenantContext)
    (id credentialReferenceId : Uuid) : CustomerDatabaseConnection :=
  { id, tenantId := ctx.tenantId, name := body.name, engine := body.engine, host := body.host,
    port := body.port, databaseName := body.databaseName, username := body.username,
    tlsMode := body.tlsMode, credentialReferenceId, status := .PENDING_VALIDATION,
    schemaAllowlist := body.schemaAllowlist, tableAllowlist := body.tableAllowlist }

def registerConnection (ctx : TenantContext) (body : ConnectionRegisterRequest)
    (secretId credentialId connectionId : Uuid) : Method CustomerDatabaseConnection := do
  let referenceKey ← suspend (.store secretId body.secretValue)
  let credential := newCredential ctx credentialId "local_dev" referenceKey
  suspend (.flush [.addCredential ctx credential])
  let connection := body.connection ctx connectionId credential.id
  suspend (.flush [.addConnection ctx connection])
  suspend (.flush [.audit ctx "connection.register" .SUCCESS connection.id
    [("name", some (.str body.name)), ("engine", some (.str body.engine.value)),
      ("host", some (.str body.host)), ("database", some (.str body.databaseName))]])
  return connection

/-- `_resolve_target`, with the rows the target is made from. -/
def resolveEngine (connection : CustomerDatabaseConnection) (ctx : TenantContext) :
    Method PooledEngine := do
  let credential ← suspend (.requireCredential connection.credentialReferenceId ctx)
  let password ← suspend (.resolve credential.referenceKey)
  return { connection, credential, password }

def getOrCreateEngineMethod (connectionId : Uuid) (ctx : TenantContext) :
    Method (CustomerDatabaseConnection × PooledEngine) := do
  let connection ← suspend (.requireConnection connectionId ctx)
  if connection.status = .DISABLED then
    raise ⟨.ConnectionDisabledError,
      "Connection " ++ uuidStr connectionId ++ " is disabled and cannot be used"⟩
  else
    let target ← resolveEngine connection ctx
    let engine ← suspend (.getOrCreate ctx.tenantId connection.id target)
    return (connection, engine)

/-- The result of a check that raised `ConnectionFailedError` with this summary, or did not raise. -/
def healthCheckResult (checkedAt : DateTime) : Option String → HealthCheckResult
  | some safeSummary => { healthy := false, checkedAt, errorSummary := some safeSummary }
  | none => { healthy := true, checkedAt }

/-- `ConnectionHealthChecker.check` -/
def check (engine : PooledEngine) (checkedAt : DateTime) (failure : Option String) :
    Method HealthCheckResult := do
  let raised ← suspend (.checkConnectivity engine failure)
  return healthCheckResult checkedAt raised

/-- What a validation assigns. -/
def HealthCheckResult.changes (result : HealthCheckResult) : ConnectionChanges :=
  if result.healthy then
    { lastValidatedAt := some result.checkedAt, status := some .ACTIVE, lastError := some none }
  else
    { lastValidatedAt := some result.checkedAt, status := some .ERROR,
      lastError := some result.errorSummary }

def validateConnection (connectionId : Uuid) (ctx : TenantContext) (checkedAt : DateTime)
    (failure : Option String) : Method CustomerDatabaseConnection := do
  let connection ← suspend (.requireConnection connectionId ctx)
  let target ← resolveEngine connection ctx
  let engine ← suspend (.getOrCreate ctx.tenantId connection.id target)
  let result ← check engine checkedAt failure
  suspend (.flush [.updateConnection connection result.changes,
    .audit ctx "connection.validate" (if result.healthy then .SUCCESS else .ERROR) connection.id
      [("healthy", some (.bool result.healthy)),
        ("error_summary", result.errorSummary.map .str)]])
  return result.changes.set connection

def enableConnection (connectionId : Uuid) (ctx : TenantContext) :
    Method CustomerDatabaseConnection := do
  let connection ← suspend (.requireConnection connectionId ctx)
  if connection.lastValidatedAt = none then
    raise ⟨.ConnectionNotReadyError,
      "Connection must be successfully validated at least once before it can be enabled"⟩
  else
    let changes : ConnectionChanges := { status := some .ACTIVE }
    suspend (.flush [.updateConnection connection changes,
      .audit ctx "connection.enable" .SUCCESS connection.id []])
    return changes.set connection

def disableConnection (connectionId : Uuid) (ctx : TenantContext) :
    Method CustomerDatabaseConnection := do
  let connection ← suspend (.requireConnection connectionId ctx)
  let changes : ConnectionChanges := { status := some .DISABLED }
  suspend (.evict ctx.tenantId connection.id)
  suspend (.flush [.updateConnection connection changes,
    .audit ctx "connection.disable" .SUCCESS connection.id []])
  return changes.set connection

/-- What a rotation assigns on the connection: the new secret is used after the next check. -/
def rotated (credentialId : Uuid) : ConnectionChanges :=
  { credentialReferenceId := some credentialId, status := some .PENDING_VALIDATION }

def rotateSecret (connectionId : Uuid) (ctx : TenantContext) (newSecretValue : String)
    (secretId credentialId : Uuid) (now : DateTime) : Method CustomerDatabaseConnection := do
  let connection ← suspend (.requireConnection connectionId ctx)
  let oldCredential ← suspend (.requireCredential connection.credentialReferenceId ctx)
  let referenceKey ← suspend (.store secretId newSecretValue)
  let credential := newCredential ctx credentialId oldCredential.provider referenceKey
  suspend (.flush [.addCredential ctx credential])
  let changes := rotated credential.id
  suspend (.evict ctx.tenantId connection.id)
  suspend (.deleteSecret oldCredential.referenceKey)
  -- The assignments to both rows wait for the flush that records the event.
  suspend (.flush [.retireCredential oldCredential.id now, .updateConnection connection changes,
    .audit ctx "connection.rotate_secret" .SUCCESS connection.id []])
  return changes.set connection

def deleteConnectionMethod (connectionId : Uuid) (ctx : TenantContext) : Method Unit := do
  let connection ← suspend (.requireConnection connectionId ctx)
  let credential ← suspend (.getCredential connection.credentialReferenceId ctx)
  suspend (.evict ctx.tenantId connection.id)
  suspend (.flush [.deleteConnection connection])
  match credential with
  | some credential =>
    suspend (.flush [.deleteCredential credential.id])
    suspend (.deleteSecret credential.referenceKey)
  | none => pure ()
  suspend (.flush [.audit ctx "connection.delete" .SUCCESS connectionId []])

/-! ## Requests -/

inductive Request where
  | registerConnection (ctx : TenantContext) (body : ConnectionRegisterRequest)
      (secretId credentialId connectionId : Uuid)
  | getOrCreateEngine (connectionId : Uuid) (ctx : TenantContext)
  | validateConnection (connectionId : Uuid) (ctx : TenantContext) (checkedAt : DateTime)
      (failure : Option String)
  | enableConnection (connectionId : Uuid) (ctx : TenantContext)
  | disableConnection (connectionId : Uuid) (ctx : TenantContext)
  | rotateSecret (connectionId : Uuid) (ctx : TenantContext) (newSecretValue : String)
      (secretId credentialId : Uuid) (now : DateTime)
  | deleteConnection (connectionId : Uuid) (ctx : TenantContext)

/-- What a request returns. -/
inductive Response where
  | connection (connection : CustomerDatabaseConnection)
  | engine (connection : CustomerDatabaseConnection) (engine : PooledEngine)
  | noContent

/-- `await session.commit()`, and the response. -/
def commitThen (method : Method CustomerDatabaseConnection) : Method Response := do
  let connection ← method
  suspend .commit
  return .connection connection

def program : Request → Method Response
  | .registerConnection ctx body secretId credentialId connectionId =>
    commitThen (registerConnection ctx body secretId credentialId connectionId)
  | .getOrCreateEngine connectionId ctx => do
    let (connection, engine) ← getOrCreateEngineMethod connectionId ctx
    return .engine connection engine
  | .validateConnection connectionId ctx checkedAt failure =>
    commitThen (validateConnection connectionId ctx checkedAt failure)
  | .enableConnection connectionId ctx => commitThen (enableConnection connectionId ctx)
  | .disableConnection connectionId ctx => commitThen (disableConnection connectionId ctx)
  | .rotateSecret connectionId ctx newSecretValue secretId credentialId now =>
    commitThen (rotateSecret connectionId ctx newSecretValue secretId credentialId now)
  | .deleteConnection connectionId ctx => do
    deleteConnectionMethod connectionId ctx
    suspend .commit
    return .noContent

end Connections

end HermesRpt
