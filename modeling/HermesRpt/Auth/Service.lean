import HermesRpt.Common.Repository
import HermesRpt.Lib.Dict
import HermesRpt.Lib.UnitOfWork

/-!
# HermesRpt.Auth.Service

The exchange of a service credential for a token: the rate limiters, the service that checks the
credential, the endpoint and the handler of authentication errors.

* `Store`      : the tables the exchange reads and writes.
* `Limiters`   : the counters of the process.
* `authenticate`, `exchangeServiceToken` : the service's method and the endpoint, in the session of the
  request.
* `authenticationErrorHandler` : works in a session of its own.
* `respond`    : a request, from its arrival to its response.
-/

namespace HermesRpt

namespace Auth

open Keyed (Table Dict HasKey)
open Transaction UnitOfWork Effect

structure ServiceCredential where
  id : Uuid
  tenantId : Uuid
  clientId : String
  /-- Hex SHA-256 digest. -/
  secretHash : String
  scopes : List String := []
  isActive : Bool := true
  expiresAt : Option DateTime := none
  lastUsedAt : Option DateTime := none

/-- `client_id` is unique across tenants. -/
instance : HasKey ServiceCredential String := ⟨ServiceCredential.clientId⟩

structure Store where
  credentials : Table ServiceCredential := Table.empty
  audit : List AuditEvent := []

/-- What the code of the exchange raises. -/
inductive Raised where
  | AuthenticationError (reason : String)
  | HTTPException (statusCode : Nat) (detail : String)
  deriving DecidableEq, Repr

/-! ## Rate limits -/

/-- `InMemoryFixedWindowRateLimiter` -/
structure RateLimiter where
  maxRequests : Nat
  windowSeconds : ℚ
  /-- The start of a key's window and the requests counted in it. -/
  windows : Dict String (ℚ × Nat) := Table.empty

/-- The key's window at `now`, with one more request. -/
def RateLimiter.window (limiter : RateLimiter) (now : ℚ) (key : String) : ℚ × Nat :=
  let (windowStart, count) := (limiter.windows.get? key).getD (0, 0)
  if now - windowStart ≥ limiter.windowSeconds then (now, 1) else (windowStart, count + 1)

/-- `check`: whether it returns; a refused request is counted too. -/
def RateLimiter.check (limiter : RateLimiter) (now : ℚ) (key : String) : Bool × RateLimiter :=
  let window := limiter.window now key
  (window.2 ≤ limiter.maxRequests, { limiter with windows := limiter.windows.set key window })

/-- `_client_rate_limiter` and `_ip_rate_limiter` -/
structure Limiters where
  client : RateLimiter := { maxRequests := 5, windowSeconds := 60 }
  ip : RateLimiter := { maxRequests := 20, windowSeconds := 60 }

/-- Both checks; the second is made when the first returns. -/
def Limiters.check (limiters : Limiters) (clientNow ipNow : ℚ) (clientId clientIp : String) :
    Bool × Limiters :=
  let (passed, client) := limiters.client.check clientNow ("client:" ++ clientId)
  if passed then
    let (passed, ip) := limiters.ip.check ipNow ("ip:" ++ clientIp)
    (passed, { client, ip })
  else (false, { limiters with client })

/-! ## The service -/

/-- `AuditService.record` -/
def recordEvent (event : AuditEvent) : InSession Store Raised Unit :=
  flush (write fun store => .ok { store with audit := store.audit ++ [event] })

/-- `_hash_secret` -/
def hashSecret (std : Stdlib) (secret : String) : String := std.sha256 secret

/-- The event of an exchange with a credential that was found. -/
def exchangeEvent (credential : ServiceCredential) (outcome : AuditOutcome)
    (details : List (String × Option Value)) : AuditEvent :=
  { tenantId := some credential.tenantId, principalId := some credential.id,
    principalType := "service_credential", action := "auth.service_token_exchange",
    resourceType := some "ServiceCredential", resourceId := some credential.id, outcome,
    correlationId := none, details }

/-- The event of an exchange without a credential. -/
def anonymousEvent (reason : String) : AuditEvent :=
  { tenantId := none, principalId := none, principalType := "service_credential",
    action := "auth.service_token_exchange", resourceType := none, resourceId := none,
    outcome := .DENIED, correlationId := none, details := [("reason", some (.str reason))] }

/-- A denial with a credential that was found: it is recorded and raised. -/
def deny {α : Type} (credential : ServiceCredential) (reason : String) : InSession Store Raised α := do
  recordEvent (exchangeEvent credential .DENIED [("reason", some (.str reason))])
  Process.raise (.AuthenticationError ("service_credential_" ++ reason))

/-- `credential.last_used_at = now`, flushed with the event. -/
def touch (credential : ServiceCredential) (now : DateTime) : InSession Store Raised Unit :=
  flush (write fun store => .ok { store with
    credentials := store.credentials.update credential.clientId
      (fun r => { r with lastUsedAt := some now }) (fun _ => rfl) })

def authenticate (std : Stdlib) (clientId clientSecret : String) (now : DateTime) :
    InSession Store Raised ServiceCredential := do
  let found ← flush (read fun store => .ok (store.credentials.find? clientId))
  match found with
  | none => do
    recordEvent (anonymousEvent "unknown_client_id")
    Process.raise (.AuthenticationError "service_credential_not_found")
  | some credential =>
    if hashSecret std clientSecret ≠ credential.secretHash then deny credential "wrong_secret"
    else if ¬credential.isActive then deny credential "revoked"
    else if credential.expiresAt.any (· ≤ now) then deny credential "expired"
    else do
      touch credential now
      recordEvent (exchangeEvent credential .SUCCESS [])
      return { credential with lastUsedAt := some now }

/-! ## The endpoint -/

/-- The payload of a signed token. -/
structure TokenPayload where
  sub : String
  tenantId : String
  roles : List String := []
  scopes : List String
  principalType : String := "service"
  iss : String
  aud : String
  iat : Int
  exp : Int
  jti : String

structure Settings where
  jwtIssuer : String := "https://auth.hermes-rpt.local/dev"
  jwtAudience : String := "hermes-rpt-api"
  serviceTokenTtlSeconds : Int := 3600
  /-- `jwt.encode` with the key and the algorithm of the settings. -/
  encode : TokenPayload → String

/-- `issue_service_token` -/
def issueServiceToken (settings : Settings) (credential : ServiceCredential) (issuedAt : Int)
    (jti : String) : String :=
  settings.encode {
    sub := uuidStr credential.id, tenantId := uuidStr credential.tenantId,
    scopes := credential.scopes, iss := settings.jwtIssuer, aud := settings.jwtAudience,
    iat := issuedAt, exp := issuedAt + settings.serviceTokenTtlSeconds, jti }

structure ServiceTokenExchangeResponse where
  accessToken : String
  tokenType : String := "bearer"
  expiresIn : Int
  scope : String
  deriving DecidableEq, Repr

/-- A request to the endpoint, with what its clocks read and the token id it draws. -/
structure ExchangeCall where
  clientId : String
  clientSecret : String
  /-- `none` when the server does not know the peer. -/
  clientHost : Option String := none
  path : String := "/v1/auth/service-token"
  correlationId : Option String := none
  clientNow : ℚ := 0
  ipNow : ℚ := 0
  now : DateTime
  issuedAt : Int
  jti : String

def exchangeServiceToken (std : Stdlib) (settings : Settings) (call : ExchangeCall)
    (withinLimits : Bool) : InSession Store Raised ServiceTokenExchangeResponse :=
  if ¬withinLimits then do
    recordEvent (anonymousEvent "rate_limited")
    commit
    Process.raise (.HTTPException 429 "Too many requests.")
  else do
    let credential ← authenticate std call.clientId call.clientSecret call.now
    let accessToken := issueServiceToken settings credential call.issuedAt call.jti
    commit
    return { accessToken, expiresIn := settings.serviceTokenTtlSeconds,
             scope := " ".intercalate credential.scopes }

/-! ## The request -/

/-- The event of `authentication_error_handler`. -/
def failureEvent (call : ExchangeCall) (reason : String) : AuditEvent :=
  { tenantId := none, principalId := none, principalType := "unknown",
    action := "auth.authenticate", resourceType := none, resourceId := none, outcome := .DENIED,
    correlationId := call.correlationId,
    details := [("reason", some (.str reason)), ("path", some (.str call.path))] }

/-- `_record_audit_event_best_effort` of `authentication_error_handler`. -/
def recordFailure (call : ExchangeCall) (reason : String) : InSession Store Raised Unit := do
  recordEvent (failureEvent call reason)
  commit

/-- The database and the counters that all requests share. -/
structure Api where
  store : Store := {}
  limiters : Limiters := {}

inductive Response where
  | ok (body : ServiceTokenExchangeResponse)
  | failed (statusCode : Nat) (detail : String)
  deriving DecidableEq, Repr

/-- The endpoint in the session of its request, then the handler of what it raised. -/
def respond (std : Stdlib) (settings : Settings) (api : Api) (call : ExchangeCall) :
    Response × Api :=
  let (withinLimits, limiters) := api.limiters.check call.clientNow call.ipNow call.clientId
    (call.clientHost.getD "unknown")
  match session (exchangeServiceToken std settings call withinLimits) api.store with
  | (.ok body, store) => (.ok body, { store, limiters })
  | (.error (.HTTPException statusCode detail), store) =>
    (.failed statusCode detail, { store, limiters })
  | (.error (.AuthenticationError reason), store) =>
    (.failed 401 "Authentication required.",
      { store := (session (recordFailure call reason) store).2, limiters })

end Auth

end HermesRpt
