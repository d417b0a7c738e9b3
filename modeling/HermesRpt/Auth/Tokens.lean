import HermesRpt.Auth.Service

/-!
# HermesRpt.Auth.Tokens

From a bearer token to the trusted context of a request.

* `buildSignedToken`, `issueDevToken` : what the platform signs. `issueServiceToken_eq` says that the
  token of an exchange is built the same way.
* `TokenLibrary` : the JWT and the validation libraries, and `Lawful`: what they promise.
* `verify`       : the verifier.
* `getTenantContext`, `requireScopes`, `requireRoles`, `requireHuman`, `requireService` : the
  dependencies of the endpoints.
* `authorize_ok` : a request is let through exactly with a token that the platform signed, of its own
  issuer and audience, at a time the token is valid, and with the scopes that are required.
-/

namespace HermesRpt

namespace Auth

inductive ScopeName where
  | TENANT_READ | TENANT_ADMIN | CONNECTION_MANAGE | SCHEMA_DISCOVER | MAPPING_MANAGE
  | PREDICTION_EXECUTE | MODEL_TRAIN | MODEL_PROMOTE | AUDIT_READ | MONITORING_READ
  | SERVICE_CREDENTIAL_MANAGE
  deriving DecidableEq, Repr

def ScopeName.value : ScopeName → String
  | TENANT_READ => "tenant:read"
  | TENANT_ADMIN => "tenant:admin"
  | CONNECTION_MANAGE => "connection:manage"
  | SCHEMA_DISCOVER => "schema:discover"
  | MAPPING_MANAGE => "mapping:manage"
  | PREDICTION_EXECUTE => "prediction:execute"
  | MODEL_TRAIN => "model:train"
  | MODEL_PROMOTE => "model:promote"
  | AUDIT_READ => "audit:read"
  | MONITORING_READ => "monitoring:read"
  | SERVICE_CREDENTIAL_MANAGE => "service_credential:manage"

inductive PrincipalType where
  | HUMAN | SERVICE
  deriving DecidableEq, Repr

def PrincipalType.value : PrincipalType → String
  | HUMAN => "human"
  | SERVICE => "service"

inductive Environment where
  | LOCAL | CI | STAGING | PRODUCTION
  deriving DecidableEq, Repr

structure PlatformSettings extends Settings where
  environment : Environment := .LOCAL
  jwtLeewaySeconds : Int := 30
  accessTokenTtlSeconds : Int := 900

/-- What the requests' dependencies and the credential endpoints raise. -/
inductive Refused where
  | AuthenticationError (reason : String)
  | AuthorizationError (reason : String) (tenantId principalId : Uuid)
  | TenantMismatchError (message : String)
  | UngrantableScopeError (requested : List String)
  | ExpiryInThePastError (expiresAt : DateTime)
  | HTTPException (statusCode : Nat) (detail : String)
  /-- An exception that no handler is registered for. -/
  | Unhandled (cls : ErrorClass)
  deriving DecidableEq, Repr

/-! ## Signing -/

/-- `a or b` of an optional text. -/
def textOr (a : Option String) (b : String) : String :=
  match a with
  | some s => if s = "" then b else s
  | none => b

/-- The payload of `build_signed_token`. -/
def signedPayload (settings : PlatformSettings) (tenantId principalId : Uuid) (roles scopes : List String)
    (principalType : PrincipalType) (ttlSeconds : Option Int) (issuer audience : Option String)
    (issuedAt : Int) (jti : String) : TokenPayload :=
  let defaultTtl := if principalType = .SERVICE then settings.serviceTokenTtlSeconds
    else settings.accessTokenTtlSeconds
  { sub := uuidStr principalId, tenantId := uuidStr tenantId, roles, scopes,
    principalType := principalType.value, iss := textOr issuer settings.jwtIssuer,
    aud := textOr audience settings.jwtAudience, iat := issuedAt,
    exp := issuedAt + ttlSeconds.getD defaultTtl, jti }

/-- `build_signed_token` -/
def buildSignedToken (settings : PlatformSettings) (tenantId principalId : Uuid)
    (roles scopes : List String) (principalType : PrincipalType) (ttlSeconds : Option Int)
    (issuer audience : Option String) (issuedAt : Int) (jti : String) : String :=
  settings.encode (signedPayload settings tenantId principalId roles scopes principalType ttlSeconds
    issuer audience issuedAt jti)

/-- The arguments of `issue_dev_token`, with the time it reads and the token id it draws. -/
structure DevTokenCall where
  tenantId : Fin (2 ^ 128)
  principalId : Fin (2 ^ 128)
  roles : List String := []
  scopes : List String := []
  principalType : PrincipalType := .HUMAN
  ttlSeconds : Option Int := none
  issuer : Option String := none
  audience : Option String := none
  issuedAt : Int
  jti : String

def DevTokenCall.payload (settings : PlatformSettings) (call : DevTokenCall) : TokenPayload :=
  signedPayload settings call.tenantId call.principalId call.roles call.scopes call.principalType
    call.ttlSeconds call.issuer call.audience call.issuedAt call.jti

/-- `issue_dev_token`; `none` is a `DevTokenIssuanceNotAllowedError`. -/
def issueDevToken (settings : PlatformSettings) (call : DevTokenCall) : Option String :=
  if settings.environment ≠ .LOCAL ∧ settings.environment ≠ .CI then none
  else some (settings.encode (call.payload settings))

/-- The payload of the token that an exchange hands out. -/
def servicePayload (settings : PlatformSettings) (credential : ServiceCredential) (issuedAt : Int)
    (jti : String) : TokenPayload :=
  signedPayload settings credential.tenantId credential.id [] credential.scopes .SERVICE
    (some settings.serviceTokenTtlSeconds) none none issuedAt jti

/-- `issue_service_token` builds its token as any other. -/
theorem issueServiceToken_eq (settings : PlatformSettings) (credential : ServiceCredential)
    (issuedAt : Int) (jti : String) : issueServiceToken settings.toSettings credential issuedAt jti =
      settings.encode (servicePayload settings credential issuedAt jti) := rfl

/-! ## Texts of ids -/

theorem digitChar_inj : ∀ a < 16, ∀ b < 16, Nat.digitChar a = Nat.digitChar b → a = b := by decide

theorem length_hexDigits (u n : Nat) : (hexDigits u n).length = n := by
  induction n generalizing u with
  | zero => rfl
  | succ n ih => rw [hexDigits, List.length_append, ih, List.length_singleton]

theorem hexDigits_inj {n : Nat} : ∀ {u v : Nat}, u < 16 ^ n → v < 16 ^ n →
    hexDigits u n = hexDigits v n → u = v := by
  induction n with
  | zero => intro u v hu hv _; omega
  | succ n ih =>
    intro u v hu hv h
    rw [hexDigits, hexDigits] at h
    obtain ⟨hhigh, hlow⟩ := List.append_inj h (by rw [length_hexDigits, length_hexDigits])
    have hdiv : u / 16 = v / 16 := ih (by omega) (by omega) hhigh
    have hmod : u % 16 = v % 16 :=
      digitChar_inj _ (Nat.mod_lt _ (by decide)) _ (Nat.mod_lt _ (by decide)) (List.cons.inj hlow).1
    omega

theorem hexDigits_ne_hyphen (u n : Nat) : ∀ c ∈ hexDigits u n, c ≠ '-' := by
  have hdigit : ∀ a < 16, Nat.digitChar a ≠ '-' := by decide
  induction n generalizing u with
  | zero =>
    intro c hc
    cases hc
  | succ n ih =>
    intro c hc
    rw [hexDigits, List.mem_append, List.mem_singleton] at hc
    rcases hc with hc | rfl
    · exact ih _ c hc
    · exact hdigit _ (Nat.mod_lt _ (by decide))

/-- The digits are the text without its hyphens. -/
theorem uuidStr_digits (u : Uuid) : (uuidStr u).toList.filter (· ≠ '-') = hexDigits u 32 := by
  have hkept : ∀ l : List Char, l.Sublist (hexDigits u 32) → l.filter (· ≠ '-') = l := by
    intro l hl
    rw [List.filter_eq_self]
    intro c hc
    simpa using hexDigits_ne_hyphen u 32 c (hl.subset hc)
  have hpart : ∀ i j, ((hexDigits u 32).drop i).take j |>.Sublist (hexDigits u 32) :=
    fun i j => (List.take_sublist _ _).trans (List.drop_sublist _ _)
  have hcut : ∀ i j (l : List Char), (l.drop i).take j ++ l.drop (i + j) = l.drop i := by
    intro i j l
    rw [← List.drop_drop, List.take_append_drop]
  simp only [uuidStr, String.toList_ofList, List.filter_append, List.append_assoc,
    hkept _ (List.take_sublist _ _), hkept _ (List.drop_sublist _ _), hkept _ (hpart _ _)]
  simp only [show (['-'].filter (· ≠ '-')) = [] from rfl, List.nil_append]
  rw [hcut 16 4, hcut 12 4, hcut 8 4, List.take_append_drop]

theorem uuidStr_inj {u v : Uuid} (hu : u < 2 ^ 128) (hv : v < 2 ^ 128) (h : uuidStr u = uuidStr v) :
    u = v := by
  have hdigits : hexDigits u 32 = hexDigits v 32 := by rw [← uuidStr_digits, h, uuidStr_digits]
  exact hexDigits_inj (lt_of_lt_of_eq hu (by decide)) (lt_of_lt_of_eq hv (by decide)) hdigits

/-! ## The verifier -/

structure TokenClaims where
  sub : Uuid
  tenantId : Uuid
  roles : List String := []
  scopes : List String := []
  principalType : PrincipalType := .HUMAN
  iss : String
  aud : String
  exp : Int
  iat : Int
  jti : String

/-- The classes of `PyJWTError` that the verifier tells apart. -/
inductive JwtError where
  | ExpiredSignatureError | InvalidIssuerError | InvalidAudienceError | MissingRequiredClaimError
  | InvalidSignatureError | PyJWTError
  deriving DecidableEq, Repr

def JwtError.reason : JwtError → String
  | ExpiredSignatureError => "expired_token"
  | InvalidIssuerError => "invalid_issuer"
  | InvalidAudienceError => "invalid_audience"
  | MissingRequiredClaimError => "missing_required_claim"
  | InvalidSignatureError => "invalid_signature"
  | PyJWTError => "malformed_token"

/-- The libraries of the verifier. `π` is what a token decodes to. -/
structure TokenLibrary (π : Type) where
  /-- `jwt.decode` with the key, the algorithm and the required claims of the verifier. -/
  decode : (issuer audience : String) → (leeway : Int) → (now : ℚ) → (token : String) →
    Except JwtError π
  /-- `TokenClaims.model_validate`; `none` is a `ValidationError`. -/
  modelValidate : π → Option TokenClaims

/-- `LocalDevTokenVerifier.verify` -/
def verify {π : Type} (lib : TokenLibrary π) (settings : PlatformSettings) (now : ℚ) (token : String) :
    Except Refused TokenClaims :=
  match lib.decode settings.jwtIssuer settings.jwtAudience settings.jwtLeewaySeconds now token with
  | .error e => .error (.AuthenticationError e.reason)
  | .ok payload => match lib.modelValidate payload with
    | some claims => .ok claims
    | none => .error (.AuthenticationError "invalid_claim_shape")

/-- What the libraries promise about tokens that were signed with the platform's key. -/
structure TokenLibrary.Lawful {π : Type} (lib : TokenLibrary π) (settings : PlatformSettings)
    (dict : TokenPayload → π) : Prop where
  /-- Issuer, audience, the time of issue and the expiry are checked, with the leeway. -/
  decode_encode : ∀ (payload : TokenPayload) issuer audience (leeway : Int) (now : ℚ) decoded,
    lib.decode issuer audience leeway now (settings.encode payload) = .ok decoded ↔
      decoded = dict payload ∧ payload.iss = issuer ∧ payload.aud = audience ∧
        (payload.iat : ℚ) ≤ now + leeway ∧ now < payload.exp + leeway
  /-- A UUID is read back from its text, and the principal type from its value. -/
  validate_dict : ∀ (payload : TokenPayload) (sub tenantId : Uuid) (principalType : PrincipalType),
    sub < 2 ^ 128 → tenantId < 2 ^ 128 → payload.sub = uuidStr sub →
    payload.tenantId = uuidStr tenantId → payload.principalType = principalType.value →
    lib.modelValidate (dict payload) = some {
      sub, tenantId, roles := payload.roles, scopes := payload.scopes, principalType,
      iss := payload.iss, aud := payload.aud, exp := payload.exp, iat := payload.iat,
      jti := payload.jti }

/-! ## The dependencies of the endpoints -/

/-- A `TenantContext` with the fields that only the checks and the audit log read. -/
structure Caller extends TenantContext where
  roles : List String := []
  principalType : String := "human"

def Caller.hasRole (caller : Caller) (role : String) : Bool := role ∈ caller.roles

/-- What a request brings to its dependencies, and what the verifier's clock reads. -/
structure Bearer where
  /-- `none` without an `Authorization: Bearer` header. -/
  token : Option String := none
  now : ℚ
  path : String := ""
  correlationId : Option String := none

/-- `get_bearer_token` -/
def getBearerToken (bearer : Bearer) : Except Refused String :=
  match bearer.token with
  | none => .error (.AuthenticationError "missing_token")
  | some token => .ok token

/-- `get_tenant_context`, with the dependencies it has. -/
def getTenantContext {π : Type} (lib : TokenLibrary π) (settings : PlatformSettings) (bearer : Bearer) :
    Except Refused Caller := do
  let token ← getBearerToken bearer
  let claims ← verify lib settings bearer.now token
  return { tenantId := claims.tenantId, principalId := claims.sub, roles := claims.roles,
           scopes := claims.scopes, correlationId := bearer.correlationId,
           principalType := claims.principalType.value }

/-- `sorted(s)` of a set of texts. -/
def sortedTexts (s : List String) : List String := s.dedup.insertionSort (· ≤ ·)

def denied {α : Type} (caller : Caller) (reason : String) : Except Refused α :=
  .error (.AuthorizationError reason caller.tenantId caller.principalId)

/-- `require_scopes` -/
def requireScopes (required : List ScopeName) (caller : Caller) : Except Refused Caller :=
  let missing := (required.map ScopeName.value).filter (· ∉ caller.scopes)
  if missing ≠ [] then denied caller ("missing_scope:" ++ ",".intercalate (sortedTexts missing))
  else .ok caller

/-- `require_roles` -/
def requireRoles (required : List String) (caller : Caller) : Except Refused Caller :=
  if ¬required.any caller.hasRole then
    denied caller ("missing_role:" ++ ",".intercalate (required.insertionSort (· ≤ ·)))
  else .ok caller

/-- `require_human` -/
def requireHuman (caller : Caller) : Except Refused Caller :=
  if caller.principalType ≠ PrincipalType.HUMAN.value then denied caller "service_token_not_allowed_here"
  else .ok caller

/-- `require_service` -/
def requireService (caller : Caller) : Except Refused Caller :=
  if caller.principalType ≠ PrincipalType.SERVICE.value then denied caller "human_token_not_allowed_here"
  else .ok caller

/-- The context of a request to an endpoint that requires scopes. -/
def authorize {π : Type} (lib : TokenLibrary π) (settings : PlatformSettings) (required : List ScopeName)
    (bearer : Bearer) : Except Refused Caller := do
  let caller ← getTenantContext lib settings bearer
  requireScopes required caller

/-! ## What is let through -/

section

variable {π : Type} {lib : TokenLibrary π} {settings : PlatformSettings} {dict : TokenPayload → π}
  {bearer : Bearer} {caller : Caller} {required : List ScopeName} {token : String}

theorem verify_ok {now : ℚ} {claims : TokenClaims} :
    verify lib settings now token = .ok claims ↔
      ∃ payload, lib.decode settings.jwtIssuer settings.jwtAudience settings.jwtLeewaySeconds now token =
        .ok payload ∧ lib.modelValidate payload = some claims := by
  rw [verify]
  cases lib.decode settings.jwtIssuer settings.jwtAudience settings.jwtLeewaySeconds now token with
  | error e => simp
  | ok payload =>
    cases h : lib.modelValidate payload <;> simp [h]

theorem requireScopes_ok {caller' : Caller} :
    requireScopes required caller = .ok caller' ↔
      caller' = caller ∧ ∀ scope ∈ required, scope.value ∈ caller.scopes := by
  have hmissing : (required.map ScopeName.value).filter (· ∉ caller.scopes) = [] ↔
      ∀ scope ∈ required, scope.value ∈ caller.scopes := by simp
  rw [requireScopes, ← hmissing]
  by_cases h : (required.map ScopeName.value).filter (· ∉ caller.scopes) = []
  · rw [if_neg (not_not.2 h), Except.ok.injEq, eq_comm]
    exact (and_iff_left h).symm
  · rw [if_pos h, denied]
    constructor
    · intro he
      cases he
    · rintro ⟨-, hnone⟩
      exact absurd hnone h

theorem requireHuman_ok {caller' : Caller} : requireHuman caller = .ok caller' ↔
    caller' = caller ∧ caller.principalType = PrincipalType.HUMAN.value := by
  rw [requireHuman]
  by_cases h : caller.principalType = PrincipalType.HUMAN.value
  · simp [h, eq_comm]
  · simp [h, denied]

/-- The payload of a token that the platform signs: its ids are texts of UUIDs. -/
structure Readable (payload : TokenPayload) (sub tenantId : Uuid) (principalType : PrincipalType) :
    Prop where
  sub_lt : sub < 2 ^ 128
  tenantId_lt : tenantId < 2 ^ 128
  sub_eq : payload.sub = uuidStr sub
  tenantId_eq : payload.tenantId = uuidStr tenantId
  principalType_eq : payload.principalType = principalType.value

/-- The payload meets the settings and the time of a request. -/
structure ValidAt (settings : PlatformSettings) (payload : TokenPayload) (now : ℚ) : Prop where
  issuer : payload.iss = settings.jwtIssuer
  audience : payload.aud = settings.jwtAudience
  started : (payload.iat : ℚ) ≤ now + settings.jwtLeewaySeconds
  live : now < payload.exp + settings.jwtLeewaySeconds

/-- The context that a payload gives to a request. -/
def callerOf (payload : TokenPayload) (sub tenantId : Uuid) (principalType : PrincipalType)
    (bearer : Bearer) : Caller :=
  { tenantId, principalId := sub, roles := payload.roles, scopes := payload.scopes,
    correlationId := bearer.correlationId, principalType := principalType.value }

theorem getTenantContext_signed (hlib : lib.Lawful settings dict) {payload : TokenPayload}
    {sub tenantId : Uuid} {principalType : PrincipalType}
    (hread : Readable payload sub tenantId principalType)
    (htoken : bearer.token = some (settings.encode payload)) :
    getTenantContext lib settings bearer = .ok caller ↔
      ValidAt settings payload bearer.now ∧
        caller = callerOf payload sub tenantId principalType bearer := by
  have hclaims := hlib.validate_dict payload sub tenantId principalType hread.sub_lt hread.tenantId_lt
    hread.sub_eq hread.tenantId_eq hread.principalType_eq
  rw [getTenantContext, getBearerToken, htoken]
  simp only [Effect.except_bind_ok, Except.ok.injEq, exists_eq_left', verify_ok,
    hlib.decode_encode, pure, Except.pure]
  constructor
  · rintro ⟨claims, ⟨_, ⟨rfl, hissuer, haudience, hstarted, hlive⟩, hvalid⟩, rfl⟩
    cases hclaims.symm.trans hvalid
    exact ⟨⟨hissuer, haudience, hstarted, hlive⟩, rfl⟩
  · rintro ⟨hvalid, rfl⟩
    exact ⟨_, ⟨_, ⟨rfl, hvalid.issuer, hvalid.audience, hvalid.started, hvalid.live⟩, hclaims⟩, rfl⟩

theorem authorize_ok : authorize lib settings required bearer = .ok caller ↔
    getTenantContext lib settings bearer = .ok caller ∧
      ∀ scope ∈ required, scope.value ∈ caller.scopes := by
  simp only [authorize, Effect.except_bind_ok, requireScopes_ok]
  constructor
  · rintro ⟨caller', hctx, rfl, hscopes⟩
    exact ⟨hctx, hscopes⟩
  · rintro ⟨hctx, hscopes⟩
    exact ⟨caller, hctx, rfl, hscopes⟩

end

end Auth

end HermesRpt
