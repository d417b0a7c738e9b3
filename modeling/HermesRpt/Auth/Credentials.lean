import HermesRpt.Auth.Exchange
import HermesRpt.Auth.Tokens

/-!
# HermesRpt.Auth.Credentials

The management of service credentials, and the platform that serves it with the exchange: a machine
whose actions are requests in any order.

* `Ledger`   : the tables of the exchange, with the columns that only the management reads.
* `issueCredential`, `revoke`, `listForTenant` : the service.
* `createServiceCredential`, `listServiceCredentials`, `revokeServiceCredential` : the endpoints, in
  the session of the request.
* `endpoint` : a request with a bearer token, from its dependencies to the handlers.
* `Platform`, `Request`, `serve`, `step` : the machine.
-/

namespace HermesRpt

namespace Auth

open Keyed (Table Dict)
open Transaction UnitOfWork Effect

/-- The columns of a credential that neither the exchange nor a check reads. -/
structure CredentialDetails where
  name : String
  revokedAt : Option DateTime := none
  deriving DecidableEq

structure Ledger where
  store : Store := {}
  /-- By `client_id`. -/
  details : Dict String CredentialDetails := Table.empty

/-! ## The service -/

/-- `_GRANTABLE_SCOPES` -/
def grantableScopes : List String :=
  [ScopeName.TENANT_READ, .CONNECTION_MANAGE, .SCHEMA_DISCOVER, .MAPPING_MANAGE, .PREDICTION_EXECUTE,
    .MODEL_TRAIN, .MODEL_PROMOTE, .AUDIT_READ, .MONITORING_READ].map ScopeName.value

/-- A `datetime` of a request body, with or without an offset from UTC. -/
inductive Expiry where
  | aware (t : DateTime)
  | naive (wall : Int)
  deriving DecidableEq, Repr

structure CreateRequest where
  name : String
  scopes : List String
  expiresAt : Option Expiry := none

/-- The random values of an issue: the row's id, the secret and the end of the client id. -/
structure Drawn where
  id : Fin (2 ^ 128)
  clientSecret : String
  clientIdEnd : String

/-- `AuditService.record` for a caller's own credential. -/
def recordManagement (caller : Caller) (action : String) (credentialId : Uuid)
    (details : List (String × Option Value)) : InSession Ledger Refused Unit :=
  flush (write fun ledger => .ok { ledger with store := { ledger.store with
    audit := ledger.store.audit ++ [{
      tenantId := some caller.tenantId, principalId := some caller.principalId,
      principalType := caller.principalType, action, resourceType := some "ServiceCredential",
      resourceId := some credentialId, outcome := .SUCCESS, correlationId := caller.correlationId,
      details }] } })

/-- `TenantScopedRepository.add`; `id` and `client_id` are unique. -/
def addCredential (caller : Caller) (credential : ServiceCredential) (details : CredentialDetails) :
    InSession Ledger Refused Unit :=
  flush (write fun ledger =>
    if credential.tenantId ≠ caller.tenantId then
      .error (.TenantMismatchError ("Refusing to create ServiceCredential for tenant " ++
        uuidStr credential.tenantId ++ " under TenantContext for tenant " ++ uuidStr caller.tenantId))
    else if ledger.store.credentials.rows.any (·.id = credential.id) then
      .error (.Unhandled .IntegrityError)
    else match ledger.store.credentials.insert? credential with
      | none => .error (.Unhandled .IntegrityError)
      | some credentials => .ok {
          store := { ledger.store with credentials }
          details := ledger.details.set credential.clientId details })

/-- The row of an issue. -/
def credentialOf (std : Stdlib) (caller : Caller) (body : CreateRequest) (expiresAt : Option DateTime)
    (drawn : Drawn) : ServiceCredential :=
  { id := drawn.id, tenantId := caller.tenantId, clientId := "hrpt_svc_" ++ drawn.clientIdEnd,
    secretHash := hashSecret std drawn.clientSecret, scopes := sortedTexts body.scopes, expiresAt }

/-- `expires_at is not None and expires_at <= datetime.now(UTC)`, for what follows. -/
def checkExpiry (now : DateTime) : Option Expiry → Except Refused (Option DateTime)
  | none => .ok none
  | some (.naive _) => .error (.Unhandled .TypeError)
  | some (.aware t) => if t ≤ now then .error (.ExpiryInThePastError t) else .ok (some t)

def issueCredential (std : Stdlib) (caller : Caller) (body : CreateRequest) (drawn : Drawn)
    (now : DateTime) : InSession Ledger Refused (ServiceCredential × String) := do
  let ungrantable := body.scopes.filter (· ∉ grantableScopes)
  if ungrantable ≠ [] then Process.raise (.UngrantableScopeError (sortedTexts ungrantable))
  else do
    let expiresAt ← Process.lift (checkExpiry now body.expiresAt)
    let credential := credentialOf std caller body expiresAt drawn
    addCredential caller credential { name := body.name }
    recordManagement caller "service_credential.create" credential.id
      [("name", some (.str body.name)),
       ("scopes", some (.json (reprStrList (sortedTexts body.scopes))))]
    return (credential, drawn.clientSecret)

/-- `TenantScopedRepository.require`: a row of another tenant is not found. -/
def requireCredential (ledger : Ledger) (credentialId : Uuid) (caller : Caller) :
    Except Refused ServiceCredential :=
  let notFound := Refused.TenantMismatchError ("ServiceCredential " ++ uuidStr credentialId ++
    " not found for tenant " ++ uuidStr caller.tenantId)
  match ledger.store.credentials.rows.find? (·.id = credentialId) with
  | none => .error notFound
  | some credential => if credential.tenantId ≠ caller.tenantId then .error notFound else .ok credential

/-- The row with the revocation, and its time. -/
def revokeIn (ledger : Ledger) (credential : ServiceCredential) (now : DateTime) : Ledger where
  store := { ledger.store with
    credentials := ledger.store.credentials.update credential.clientId
      (fun r => { r with isActive := false }) (fun _ => rfl) }
  details := ledger.details.update credential.clientId
    (fun p => (p.1, { p.2 with revokedAt := some now })) (fun _ => rfl)

def revoke (caller : Caller) (credentialId : Uuid) (now : DateTime) : InSession Ledger Refused Unit := do
  let credential ← flush (read fun ledger => requireCredential ledger credentialId caller)
  flush (write fun ledger => .ok (revokeIn ledger credential now))
  recordManagement caller "service_credential.revoke" credential.id []

/-! ## The endpoints -/

structure ServiceCredentialCreateResponse where
  id : Uuid
  tenantId : Uuid
  name : String
  clientId : String
  clientSecret : String
  scopes : List String
  expiresAt : Option DateTime
  deriving DecidableEq

/-- The one place where the secret is returned. -/
def createResponse (body : CreateRequest) (issued : ServiceCredential × String) :
    ServiceCredentialCreateResponse :=
  { id := issued.1.id, tenantId := issued.1.tenantId, name := body.name, clientId := issued.1.clientId,
    clientSecret := issued.2, scopes := issued.1.scopes, expiresAt := issued.1.expiresAt }

structure ServiceCredentialSummary where
  id : Uuid
  tenantId : Uuid
  name : String
  clientId : String
  scopes : List String
  isActive : Bool
  expiresAt : Option DateTime
  lastUsedAt : Option DateTime
  revokedAt : Option DateTime
  deriving DecidableEq

/-- `from_orm_credential` -/
def ServiceCredentialSummary.fromOrmCredential (credential : ServiceCredential)
    (details : CredentialDetails) : ServiceCredentialSummary :=
  { id := credential.id, tenantId := credential.tenantId, name := details.name,
    clientId := credential.clientId, scopes := credential.scopes, isActive := credential.isActive,
    expiresAt := credential.expiresAt, lastUsedAt := credential.lastUsedAt,
    revokedAt := details.revokedAt }

/-- What a request is answered. -/
inductive Reply where
  /-- Of `issue_dev_token`, which is not an endpoint. -/
  | signed (accessToken : Option String)
  | exchanged (body : ServiceTokenExchangeResponse)
  | created (body : ServiceCredentialCreateResponse)
  | listed (body : List ServiceCredentialSummary)
  | revoked
  /-- The dependencies of another endpoint are met, and it goes on with the caller's context. -/
  | admitted (caller : Caller)
  | failed (statusCode : Nat) (detail : String)

/-- `create_service_credential`; both refusals of the service are answered with their text. -/
def createServiceCredential (std : Stdlib) (body : CreateRequest) (drawn : Drawn) (now : DateTime)
    (caller : Caller) : InSession Ledger Refused Reply := do
  let issued ← Process.orElse (issueCredential std caller body drawn now) fun
    | .UngrantableScopeError requested => Process.raise (.HTTPException 400
        ("Scope(s) not grantable to a service credential: " ++ reprStrList requested))
    | .ExpiryInThePastError expiresAt => Process.raise (.HTTPException 400
        ("expires_at " ++ (std.datetimeStr expiresAt).replace " " "T" ++ " is already in the past"))
    | e => Process.raise e
  commit
  return .created (createResponse body issued)

/-- `list_for_tenant` -/
def listForTenant (ledger : Ledger) (caller : Caller) : List ServiceCredential :=
  ledger.store.credentials.rows.filter fun r => r.tenantId = caller.tenantId

/-- `list_service_credentials` -/
def listServiceCredentials (caller : Caller) : InSession Ledger Refused Reply := do
  let ledger ← flush (read fun ledger => .ok ledger)
  return .listed ((listForTenant ledger caller).filterMap fun r =>
    (ledger.details.get? r.clientId).map (ServiceCredentialSummary.fromOrmCredential r))

/-- `revoke_service_credential` -/
def revokeServiceCredential (credentialId : Uuid) (now : DateTime) (caller : Caller) :
    InSession Ledger Refused Reply := do
  revoke caller credentialId now
  commit
  return .revoked

/-! ## The platform -/

structure Platform where
  ledger : Ledger := {}
  limiters : Limiters := {}
  /-- The payloads of the tokens that were signed so far. -/
  signed : List TokenPayload := []

def Platform.credentials (p : Platform) : Table ServiceCredential := p.ledger.store.credentials

/-- `_record_audit_event_best_effort`, for the handler of a refusal. -/
def Platform.log (p : Platform) (event : AuditEvent) : Platform :=
  { p with ledger := { p.ledger with store := { p.ledger.store with
    audit := p.ledger.store.audit ++ [event] } } }

/-- The handlers of what a request raised. `stateTenantId` is `request.state.tenant_id`. -/
def refuse (p : Platform) (bearer : Bearer) (stateTenantId : Option Uuid) : Refused → Reply × Platform
  | .AuthenticationError reason => (.failed 401 "Authentication required.", p.log {
      tenantId := none, principalId := none, action := "auth.authenticate", resourceType := none,
      resourceId := none, outcome := .DENIED, correlationId := bearer.correlationId,
      details := [("reason", some (.str reason)), ("path", some (.str bearer.path))] })
  | .AuthorizationError reason tenantId principalId =>
    (.failed 403 "You do not have permission to perform this action.", p.log {
      tenantId := some tenantId, principalId := some principalId, action := "authz.check",
      resourceType := none, resourceId := none, outcome := .DENIED,
      correlationId := bearer.correlationId,
      details := [("reason", some (.str reason)), ("path", some (.str bearer.path))] })
  | .TenantMismatchError _ => (.failed 404 "Not found.", p.log {
      tenantId := stateTenantId, principalId := none, action := "tenant.cross_tenant_access_attempt",
      resourceType := none, resourceId := none, outcome := .DENIED,
      correlationId := bearer.correlationId, details := [("path", some (.str bearer.path))] })
  | .HTTPException statusCode detail => (.failed statusCode detail, p)
  | .UngrantableScopeError _ => (.failed 500 "Internal Server Error", p)
  | .ExpiryInThePastError _ => (.failed 500 "Internal Server Error", p)
  | .Unhandled _ => (.failed 500 "Internal Server Error", p)

/-- A request with a bearer token: the dependencies, the endpoint in its session, the handlers. -/
def endpoint (p : Platform) (bearer : Bearer) (authorized : Except Refused Caller)
    (body : Caller → InSession Ledger Refused Reply) : Reply × Platform :=
  match authorized with
  | .error e => refuse p bearer none e
  | .ok caller => match session (body caller) p.ledger with
    | (.ok reply, ledger) => (reply, { p with ledger })
    | (.error e, ledger) => refuse { p with ledger } bearer (some caller.tenantId) e

inductive Request where
  /-- A script that holds the settings of the platform. -/
  | devToken (call : DevTokenCall)
  | exchange (call : ExchangeCall)
  | create (bearer : Bearer) (body : CreateRequest) (drawn : Drawn) (now : DateTime)
  | list (bearer : Bearer)
  | revoke (bearer : Bearer) (credentialId : Uuid) (now : DateTime)
  /-- Any other endpoint, by the scopes it requires and whether it requires a human. -/
  | access (bearer : Bearer) (required : List ScopeName) (humanOnly : Bool)

/-- The scope of the three management endpoints. -/
def manageScope : List ScopeName := [.SERVICE_CREDENTIAL_MANAGE]

variable {π : Type}

def serve (std : Stdlib) (lib : TokenLibrary π) (settings : PlatformSettings) (p : Platform) :
    Request → Reply × Platform
  | .devToken call => match issueDevToken settings call with
    | none => (.signed none, p)
    | some accessToken => (.signed (some accessToken),
        { p with signed := p.signed ++ [call.payload settings] })
  | .exchange call =>
    let (response, api) := respond std settings.toSettings ⟨p.ledger.store, p.limiters⟩ call
    let p := { p with ledger := { p.ledger with store := api.store }, limiters := api.limiters }
    match response with
    | .failed statusCode detail => (.failed statusCode detail, p)
    | .ok body => (.exchanged body, { p with
        signed := p.signed ++ ((p.credentials.find? call.clientId).map fun credential =>
          servicePayload settings credential call.issuedAt call.jti).toList })
  | .create bearer body drawn now =>
    endpoint p bearer (authorize lib settings manageScope bearer)
      (createServiceCredential std body drawn now)
  | .list bearer =>
    endpoint p bearer (authorize lib settings manageScope bearer) listServiceCredentials
  | .revoke bearer credentialId now =>
    endpoint p bearer (authorize lib settings manageScope bearer)
      (revokeServiceCredential credentialId now)
  | .access bearer required humanOnly =>
    endpoint p bearer (do
      let caller ← authorize lib settings required bearer
      if humanOnly then requireHuman caller else .ok caller) fun caller => return .admitted caller

/-- The platform after a request. -/
def step (std : Stdlib) (lib : TokenLibrary π) (settings : PlatformSettings) (p : Platform)
    (request : Request) : Platform := (serve std lib settings p request).2

end Auth

end HermesRpt
