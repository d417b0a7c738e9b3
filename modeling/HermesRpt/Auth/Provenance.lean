import HermesRpt.Auth.Steps
import HermesRpt.Lib.JsonText
import HermesRpt.Lib.Run
import Mathlib

/-!
# HermesRpt.Auth.Provenance

Where the context of a request comes from, over all runs of the platform.

* `Genuine`    : a token that the verifier accepts was signed by the platform before.
* `Sound`      : what every reachable platform meets: ids are UUIDs, the scopes of every credential
  are grantable, and every signed payload is readable.
* `Issued`, `Grants` : the events behind a token.
* `explained`  : every credential was issued, and every signed payload is a script's or was granted
  to a credential that was issued before.
* `admitted_provenance` : so is the context of every request.
* `management_closed` : outside the development environments nothing manages credentials.
-/

namespace HermesRpt

namespace Auth

open Keyed (Table)
open Machine UnitOfWork

/-- The token of a request. -/
def Request.bearer? : Request → Option Bearer
  | devToken _ => none
  | exchange _ => none
  | create bearer _ _ _ => some bearer
  | list bearer => some bearer
  | revoke bearer _ _ => some bearer
  | access bearer _ _ => some bearer

/-- The row as it was issued: all but its use and its revocation. -/
def asIssued (credential : ServiceCredential) : ServiceCredential :=
  { credential with isActive := true, lastUsedAt := none }

section

variable {π : Type} (std : Stdlib) (lib : TokenLibrary π) (settings : PlatformSettings)

/-- A token that the verifier accepts was signed by the platform before. -/
def Genuine (p : Platform) (request : Request) : Prop :=
  ∀ bearer ∈ request.bearer?, ∀ token ∈ bearer.token,
    (∃ caller, getTenantContext lib settings bearer = .ok caller) →
      ∃ payload ∈ p.signed, token = settings.encode payload

/-- The request issues this row. -/
def Issued (row : ServiceCredential) (p : Platform) (request : Request) : Prop :=
  ∃ bearer body drawn now caller, request = .create bearer body drawn now ∧
    Created std lib settings p bearer body drawn now caller row

/-- The request is an exchange that signs this payload, for a credential that was issued as `row`. -/
def Grants (row : ServiceCredential) (payload : TokenPayload) (p : Platform) (request : Request) : Prop :=
  ∃ call credential, request = .exchange call ∧ Granted std p call credential ∧
    asIssued credential = row ∧ payload = servicePayload settings credential call.issuedAt call.jti

/-- A script signs this payload. -/
def Scripted (payload : TokenPayload) (requests : List Request) : Prop :=
  ∃ call, .devToken call ∈ requests ∧ DevSigned settings call ∧ payload = call.payload settings

/-- A platform without credentials whose key has signed nothing yet. -/
structure Fresh (p : Platform) : Prop where
  credentials : p.credentials.rows = []
  signed : p.signed = []

structure Sound (p : Platform) : Prop where
  id_lt : ∀ c ∈ p.credentials, c.id < 2 ^ 128
  tenantId_lt : ∀ c ∈ p.credentials, c.tenantId < 2 ^ 128
  grantable : ∀ c ∈ p.credentials, ∀ scope ∈ c.scopes, scope ∈ grantableScopes
  readable : ∀ payload ∈ p.signed, ∃ sub tenantId principalType,
    Readable payload sub tenantId principalType

end

section

variable {π : Type} {std : Stdlib} {lib : TokenLibrary π} {settings : PlatformSettings}
  {dict : TokenPayload → π} {p p' : Platform} {request : Request} {bearer : Bearer} {caller : Caller}

/-! ## The context of a request -/

theorem getTenantContext_token (h : getTenantContext lib settings bearer = .ok caller) :
    ∃ token, bearer.token = some token := by
  unfold getTenantContext getBearerToken at h
  cases htoken : bearer.token with
  | none => rw [htoken] at h; cases h
  | some token => exact ⟨token, rfl⟩

/-- The context is that of a payload the platform signed. -/
theorem context_signed (hlib : lib.Lawful settings dict)
    (hreadable : ∀ payload ∈ p.signed, ∃ sub tenantId principalType,
      Readable payload sub tenantId principalType)
    (hgenuine : Genuine lib settings p request) (hbearer : request.bearer? = some bearer)
    (h : getTenantContext lib settings bearer = .ok caller) :
    ∃ payload ∈ p.signed, ∃ sub tenantId principalType, Readable payload sub tenantId principalType ∧
      ValidAt settings payload bearer.now ∧
        caller = callerOf payload sub tenantId principalType bearer := by
  obtain ⟨token, htoken⟩ := getTenantContext_token h
  obtain ⟨payload, hsigned, rfl⟩ := hgenuine bearer hbearer token htoken ⟨caller, h⟩
  obtain ⟨sub, tenantId, principalType, hread⟩ := hreadable payload hsigned
  obtain ⟨hvalid, hcaller⟩ := (getTenantContext_signed hlib hread htoken).1 h
  exact ⟨payload, hsigned, sub, tenantId, principalType, hread, hvalid, hcaller⟩

/-! ## The invariant -/

theorem asIssued_eq {c r : ServiceCredential} : asIssued c = asIssued r ↔
    c.id = r.id ∧ c.tenantId = r.tenantId ∧ c.clientId = r.clientId ∧ c.secretHash = r.secretHash ∧
      c.scopes = r.scopes ∧ c.expiresAt = r.expiresAt := by
  cases c
  cases r
  simp [asIssued]

theorem readable_dev (settings : PlatformSettings) (call : DevTokenCall) :
    Readable (call.payload settings) call.principalId call.tenantId call.principalType :=
  ⟨call.principalId.isLt, call.tenantId.isLt, rfl, rfl, rfl⟩

theorem readable_service (settings : PlatformSettings) (credential : ServiceCredential) (issuedAt : Int)
    (jti : String) (hid : credential.id < 2 ^ 128) (htenant : credential.tenantId < 2 ^ 128) :
    Readable (servicePayload settings credential issuedAt jti) credential.id credential.tenantId .SERVICE :=
  ⟨hid, htenant, rfl, rfl, rfl⟩

theorem Sound.fresh (h : Fresh p) : Sound p := by
  have hrows : ∀ c : ServiceCredential, c ∉ p.credentials := by
    intro c hc
    rw [Table.mem_def, h.credentials] at hc
    exact List.not_mem_nil hc
  refine ⟨fun c hc => absurd hc (hrows c), fun c hc => absurd hc (hrows c),
    fun c hc => absurd hc (hrows c), ?_⟩
  rw [h.signed]
  exact fun payload hp => absurd hp List.not_mem_nil

/-- What a step leaves of a row is the row, but for its use and its revocation. -/
theorem mem_touched {call : ExchangeCall} {c : ServiceCredential}
    (h : c ∈ touched p.credentials call) : ∃ r ∈ p.credentials, asIssued c = asIssued r := by
  obtain ⟨r, hr, rfl⟩ := Table.mem_update.1 h
  refine ⟨r, hr, ?_⟩
  split <;> rfl

theorem mem_revoked {credential : ServiceCredential} {now : DateTime} (h : Revokes p p' credential now)
    {c : ServiceCredential} (hc : c ∈ p'.credentials) : ∃ r ∈ p.credentials, asIssued c = asIssued r := by
  rw [h.credentials] at hc
  obtain ⟨r, hr, rfl⟩ := Table.mem_update.1 hc
  refine ⟨r, hr, ?_⟩
  split <;> rfl

/-- A row after a request was there before it, or was issued by it. -/
theorem row_step {c : ServiceCredential} (hc : c ∈ (step std lib settings p request).credentials) :
    (∃ r ∈ p.credentials, asIssued c = asIssued r) ∨
      asIssued c = c ∧ Issued std lib settings c p request := by
  rcases step_cases std lib settings p request with hstill | ⟨call, -, -, hstep⟩ |
    ⟨call, credential, -, -, hcredentials, -⟩ |
    ⟨bearer, body, drawn, now, caller, credential, hrequest, hcreated, hissues⟩ |
    ⟨bearer, credentialId, now, caller, credential, -, -, hrevokes⟩
  · exact .inl ⟨c, hstill.credentials ▸ hc, rfl⟩
  · rw [hstep] at hc
    exact .inl ⟨c, hc, rfl⟩
  · exact .inl (mem_touched (hcredentials ▸ hc))
  · rw [Table.mem_def, hissues.credentials, List.mem_append, List.mem_singleton] at hc
    rcases hc with hc | rfl
    · exact .inl ⟨c, hc, rfl⟩
    · refine .inr ⟨?_, bearer, body, drawn, now, caller, hrequest, hcreated⟩
      rw [hcreated.credential_eq]
      rfl
  · exact .inl (mem_revoked hrevokes hc)

/-- A payload after a request was signed before it, or by it. -/
theorem signed_step {payload : TokenPayload} (h : payload ∈ (step std lib settings p request).signed) :
    payload ∈ p.signed ∨ (∃ call, request = .devToken call ∧ DevSigned settings call ∧
        payload = call.payload settings) ∨
      ∃ call credential, request = .exchange call ∧ Granted std p call credential ∧
        payload = servicePayload settings credential call.issuedAt call.jti := by
  rcases step_cases std lib settings p request with hstill | ⟨call, hrequest, hdev, hstep⟩ |
    ⟨call, credential, hrequest, hgranted, -, -, hsigned⟩ |
    ⟨bearer, body, drawn, now, caller, credential, -, -, hissues⟩ |
    ⟨bearer, credentialId, now, caller, credential, -, -, hrevokes⟩
  · exact .inl (hstill.signed ▸ h)
  · rw [hstep, List.mem_append, List.mem_singleton] at h
    exact h.imp_right fun h => .inl ⟨call, hrequest, hdev, h⟩
  · rw [hsigned, List.mem_append, List.mem_singleton] at h
    exact h.imp_right fun h => .inr ⟨call, credential, hrequest, hgranted, h⟩
  · exact .inl (hissues.signed ▸ h)
  · exact .inl (hrevokes.signed ▸ h)

theorem Granted.mem {call : ExchangeCall} {credential : ServiceCredential}
    (h : Granted std p call credential) : credential ∈ p.credentials :=
  (Table.find?_eq_some.1 h.found).1

theorem Sound.step (std : Stdlib) (hlib : lib.Lawful settings dict) (h : Sound p)
    (hgenuine : Genuine lib settings p request) : Sound (step std lib settings p request) := by
  -- A new row has a UUID that was drawn and the tenant of a context, which a signed payload names.
  have hissued : ∀ {c}, Issued std lib settings c p request →
      c.id < 2 ^ 128 ∧ c.tenantId < 2 ^ 128 ∧ ∀ scope ∈ c.scopes, scope ∈ grantableScopes := by
    rintro c ⟨bearer, body, drawn, now, caller, rfl, hcreated⟩
    obtain ⟨payload, -, sub, tenantId, principalType, hread, -, rfl⟩ :=
      context_signed hlib h.readable hgenuine rfl (authorize_ok.1 hcreated.authorized).1
    rw [hcreated.credential_eq]
    refine ⟨drawn.id.isLt, hread.tenantId_lt, fun scope hscope => hcreated.grantable scope ?_⟩
    simpa [credentialOf, sortedTexts] using hscope
  have hrow : ∀ c ∈ (Auth.step std lib settings p request).credentials,
      c.id < 2 ^ 128 ∧ c.tenantId < 2 ^ 128 ∧ ∀ scope ∈ c.scopes, scope ∈ grantableScopes := by
    intro c hc
    rcases row_step hc with ⟨r, hr, hsame⟩ | ⟨-, hnew⟩
    · obtain ⟨hid, htenant, -, -, hscopes, -⟩ := asIssued_eq.1 hsame
      rw [hid, htenant, hscopes]
      exact ⟨h.id_lt r hr, h.tenantId_lt r hr, h.grantable r hr⟩
    · exact hissued hnew
  refine ⟨fun c hc => (hrow c hc).1, fun c hc => (hrow c hc).2.1, fun c hc => (hrow c hc).2.2, ?_⟩
  intro payload hpayload
  rcases signed_step hpayload with hbefore | ⟨call, -, -, rfl⟩ | ⟨call, credential, -, hgranted, rfl⟩
  · exact h.readable payload hbefore
  · exact ⟨_, _, _, readable_dev settings call⟩
  · exact ⟨_, _, _, readable_service settings credential call.issuedAt call.jti (h.id_lt _ hgranted.mem)
      (h.tenantId_lt _ hgranted.mem)⟩

theorem sound_run (hlib : lib.Lawful settings dict) (h : Sound p) {requests : List Request}
    (hgenuine : Meets (step std lib settings) (Genuine lib settings) p requests) :
    Sound (run (step std lib settings) p requests) :=
  run_invariant_of_meets (fun _ _ hs hg => hs.step _ hlib hg) h hgenuine

/-! ## The history -/

/-- Every row was issued, and every signed payload is a script's or was granted to such a row. -/
structure Explained (std : Stdlib) (lib : TokenLibrary π) (settings : PlatformSettings) (start : Platform)
    (requests : List Request) (p : Platform) : Prop where
  rows : ∀ c ∈ p.credentials,
    Saw (Auth.step std lib settings) start requests [Issued std lib settings (asIssued c)]
  signed : ∀ payload ∈ p.signed, Scripted settings payload requests ∨
    ∃ row, Saw (Auth.step std lib settings) start requests
      [Issued std lib settings row, Grants std settings row payload]

theorem explained (std : Stdlib) (lib : TokenLibrary π) (settings : PlatformSettings) {start : Platform} (h : Fresh start) (requests : List Request) :
    Explained std lib settings start requests (run (step std lib settings) start requests) := by
  refine run_history (Explained std lib settings start) ?_ ?_ requests
  · constructor
    · intro c hc
      rw [Table.mem_def, h.credentials] at hc
      cases hc
    · intro payload hpayload
      rw [h.signed] at hpayload
      cases hpayload
  · intro requests request ih
    constructor
    · intro c hc
      rcases row_step hc with ⟨r, hr, hsame⟩ | ⟨hsame, hnew⟩
      · rw [hsame]
        exact (ih.rows r hr).append _
      · rw [hsame]
        exact (saw_nil start requests).snoc hnew
    · intro payload hpayload
      rcases signed_step hpayload with hbefore | ⟨call, rfl, hdev, rfl⟩ |
        ⟨call, credential, rfl, hgranted, rfl⟩
      · rcases ih.signed payload hbefore with ⟨call, hcall, hscripted⟩ | ⟨row, hsaw⟩
        · exact .inl ⟨call, List.mem_append_left _ hcall, hscripted⟩
        · exact .inr ⟨row, hsaw.append _⟩
      · exact .inl ⟨call, by simp, hdev, rfl⟩
      · exact .inr ⟨asIssued credential, (ih.rows credential hgranted.mem).snoc
          ⟨call, credential, rfl, hgranted, rfl, rfl⟩⟩

/-- The requests to the management endpoints. -/
def Request.Manages : Request → Prop
  | create .. => True
  | list _ => True
  | revoke .. => True
  | _ => False

/-- The row but for its last use. -/
def withoutUse (credential : ServiceCredential) : ServiceCredential :=
  { credential with lastUsedAt := none }

/-- Every token that was signed so far has grantable scopes. -/
def Confined (p : Platform) : Prop :=
  ∀ payload ∈ p.signed, ∀ scope ∈ payload.scopes, scope ∈ grantableScopes

theorem manage_not_grantable : ScopeName.SERVICE_CREDENTIAL_MANAGE.value ∉ grantableScopes := by decide

/-- A request without the scopes is refused with 401 or 403. -/
theorem authorize_error {required : List ScopeName} {e : Refused}
    (h : authorize lib settings required bearer = .error e) :
    (∃ reason, e = .AuthenticationError reason) ∨
      ∃ reason tenantId principalId, e = .AuthorizationError reason tenantId principalId := by
  unfold authorize getTenantContext getBearerToken at h
  cases htoken : bearer.token with
  | none =>
    rw [htoken] at h
    cases h
    exact .inl ⟨_, rfl⟩
  | some token =>
    rw [htoken] at h
    cases hverify : verify lib settings bearer.now token with
    | error e' =>
      simp only [Effect.except_ok_bind, hverify] at h
      cases h
      unfold verify at hverify
      split at hverify
      · cases hverify
        exact .inl ⟨_, rfl⟩
      · split at hverify
        · cases hverify
        · cases hverify
          exact .inl ⟨_, rfl⟩
    | ok claims =>
      simp only [Effect.except_ok_bind, hverify, pure, Except.pure, requireScopes, denied] at h
      split at h
      · cases h
        exact .inr ⟨_, _, _, rfl⟩
      · cases h

theorem endpoint_unauthorized {body : Caller → InSession Ledger Refused Reply}
    (h : ∀ caller, authorize lib settings manageScope bearer ≠ .ok caller) :
    ∃ statusCode detail, (endpoint p bearer (authorize lib settings manageScope bearer) body).1 =
      .failed statusCode detail ∧ (statusCode = 401 ∨ statusCode = 403) := by
  cases hauthorize : authorize lib settings manageScope bearer with
  | ok caller => exact absurd hauthorize (h caller)
  | error e =>
    rcases authorize_error hauthorize with ⟨reason, rfl⟩ | ⟨reason, tenantId, principalId, rfl⟩
    · exact ⟨401, _, rfl, .inl rfl⟩
    · exact ⟨403, _, rfl, .inr rfl⟩

/-- No context of a confined platform has the scope of the management endpoints. -/
theorem not_authorized (hlib : lib.Lawful settings dict) (hsound : Sound p) (hconfined : Confined p)
    (hgenuine : Genuine lib settings p request) (hbearer : request.bearer? = some bearer)
    (caller : Caller) : authorize lib settings manageScope bearer ≠ .ok caller := by
  intro h
  obtain ⟨hcontext, hscopes⟩ := authorize_ok.1 h
  obtain ⟨payload, hsigned, _, _, _, -, -, rfl⟩ :=
    context_signed hlib hsound.readable hgenuine hbearer hcontext
  exact manage_not_grantable (hconfined payload hsigned _ (hscopes _ (by simp [manageScope])))

theorem manage_refused (hlib : lib.Lawful settings dict) (hsound : Sound p) (hconfined : Confined p)
    (hgenuine : Genuine lib settings p request) (hmanages : request.Manages) :
    ∃ statusCode detail, (serve std lib settings p request).1 = .failed statusCode detail ∧
      (statusCode = 401 ∨ statusCode = 403) := by
  cases request with
  | create bearer body drawn now =>
    exact endpoint_unauthorized (not_authorized hlib hsound hconfined hgenuine rfl)
  | list bearer => exact endpoint_unauthorized (not_authorized hlib hsound hconfined hgenuine rfl)
  | revoke bearer credentialId now =>
    exact endpoint_unauthorized (not_authorized hlib hsound hconfined hgenuine rfl)
  | devToken call => exact hmanages.elim
  | exchange call => exact hmanages.elim
  | access bearer required humanOnly => exact hmanages.elim

theorem touched_withoutUse (credentials : Table ServiceCredential) (call : ExchangeCall) :
    (touched credentials call).rows.map withoutUse = credentials.rows.map withoutUse := by
  rw [touched, Table.update, List.map_map]
  refine List.map_congr_left fun r _ => ?_
  rw [Function.comp_apply]
  split <;> rfl

/-- What every request of such a run keeps. -/
structure Closed (start p : Platform) : Prop where
  sound : Sound p
  confined : Confined p
  rows : p.credentials.rows.map withoutUse = start.credentials.rows.map withoutUse
  details : p.ledger.details = start.ledger.details

theorem Closed.step (hlib : lib.Lawful settings dict)
    (henvironment : settings.environment ≠ .LOCAL ∧ settings.environment ≠ .CI) {start : Platform}
    (h : Closed start p) (hgenuine : Genuine lib settings p request) :
    Closed start (step std lib settings p request) := by
  have hsound := h.sound.step std hlib hgenuine
  rcases step_cases std lib settings p request with hstill | ⟨call, -, hdev, -⟩ |
    ⟨call, credential, -, hgranted, hcredentials, hdetails, hsigned⟩ |
    ⟨bearer, body, drawn, now, caller, credential, rfl, hcreated, -⟩ |
    ⟨bearer, credentialId, now, caller, credential, rfl, hrevoked, -⟩
  · refine ⟨hsound, ?_, ?_, ?_⟩
    · rw [Confined, hstill.signed]
      exact h.confined
    · rw [hstill.credentials]
      exact h.rows
    · rw [hstill.details]
      exact h.details
  · rcases devSigned_iff.1 hdev with hlocal | hci
    · exact absurd hlocal henvironment.1
    · exact absurd hci henvironment.2
  · refine ⟨hsound, ?_, ?_, ?_⟩
    · rw [Confined, hsigned]
      intro payload hpayload
      rcases List.mem_append.1 hpayload with hbefore | hnew
      · exact h.confined payload hbefore
      · rw [List.mem_singleton.1 hnew]
        exact h.sound.grantable credential hgranted.mem
    · rw [hcredentials, touched_withoutUse]
      exact h.rows
    · rw [hdetails]
      exact h.details
  · exact absurd hcreated.authorized (not_authorized hlib h.sound h.confined hgenuine rfl caller)
  · exact absurd hrevoked.authorized (not_authorized hlib h.sound h.confined hgenuine rfl caller)

/-- In staging and in production every request to the management endpoints is refused, whatever tokens
the exchange has handed out, and no run changes a credential beyond the time of its last use. -/
theorem management_closed (hlib : lib.Lawful settings dict)
    (henvironment : settings.environment ≠ .LOCAL ∧ settings.environment ≠ .CI) (start : Platform)
    (hsound : Sound start) (hconfined : Confined start) (requests : List Request)
    (hgenuine : Meets (step std lib settings) (Genuine lib settings) start requests) :
    Meets (step std lib settings) (fun p request => request.Manages →
      ∃ statusCode detail, (serve std lib settings p request).1 = .failed statusCode detail ∧
        (statusCode = 401 ∨ statusCode = 403)) start requests ∧
    (run (step std lib settings) start requests).credentials.rows.map withoutUse =
      start.credentials.rows.map withoutUse ∧
    (run (step std lib settings) start requests).ledger.details = start.ledger.details := by
  have hclosed : ∀ requests, Meets (step std lib settings) (Genuine lib settings) start requests →
      Closed start (run (step std lib settings) start requests) := fun requests h =>
    run_invariant_of_meets (fun _ _ hc hg => hc.step hlib henvironment hg)
      ⟨hsound, hconfined, rfl, rfl⟩ h
  refine ⟨meets_iff.2 fun pre request post heq hmanages => ?_, (hclosed requests hgenuine).rows,
    (hclosed requests hgenuine).details⟩
  have hhere := meets_iff.1 hgenuine pre request post heq
  rw [heq] at hgenuine
  have hthen := hclosed pre (meets_append.1 hgenuine).1
  exact manage_refused hlib hthen.sound hthen.confined hhere hmanages

end

/-! A key that signs by writing the payload down. -/

namespace Sample

open Canonical

def payloadJson (payload : TokenPayload) : Json :=
  .arr [.strs [payload.sub, payload.tenantId, payload.principalType, payload.iss, payload.aud,
      Int.repr payload.iat, Int.repr payload.exp, payload.jti], .strs payload.roles,
    .strs payload.scopes]

def platformSettings (environment : Environment) : PlatformSettings :=
  { environment, encode := fun payload => dumps (payloadJson payload) }

theorem payloadJson_normal (payload : TokenPayload) : (payloadJson payload).normal = payloadJson payload := by
  simp [payloadJson, Json.normal, normalAll]

theorem payloadJson_numberFree (payload : TokenPayload) : (payloadJson payload).numberFree = true := by
  simp [payloadJson, Json.numberFree, allNumberFree]

theorem encode_inj {environment : Environment} {a b : TokenPayload}
    (h : (platformSettings environment).encode a = (platformSettings environment).encode b) : a = b := by
  have hjson := (dumps_inj (payloadJson_numberFree a) (payloadJson_numberFree b)).1 h
  rw [payloadJson_normal, payloadJson_normal] at hjson
  simp only [payloadJson, Json.arr.injEq, List.cons.injEq, strs_inj, and_true] at hjson
  obtain ⟨⟨hsub, htenant, htype, hiss, haud, hiat, hexp, hjti⟩, hroles, hscopes⟩ := hjson
  have hiat := Int.repr_injective hiat
  have hexp := Int.repr_injective hexp
  cases a
  cases b
  simp_all

open Classical in
/-- The library that reads such tokens back. -/
noncomputable def library (environment : Environment) : TokenLibrary TokenPayload where
  decode issuer audience leeway now token :=
    if h : ∃ payload, token = (platformSettings environment).encode payload ∧ payload.iss = issuer ∧
        payload.aud = audience ∧ (payload.iat : ℚ) ≤ now + leeway ∧ now < payload.exp + leeway then
      .ok h.choose
    else .error .PyJWTError
  modelValidate payload :=
    if h : ∃ ids : Uuid × Uuid × PrincipalType, Readable payload ids.1 ids.2.1 ids.2.2 then
      some { sub := h.choose.1, tenantId := h.choose.2.1, roles := payload.roles,
             scopes := payload.scopes, principalType := h.choose.2.2, iss := payload.iss,
             aud := payload.aud, exp := payload.exp, iat := payload.iat, jti := payload.jti }
    else none

theorem lawful_library (environment : Environment) :
    (library environment).Lawful (platformSettings environment) id := by
  constructor
  · intro payload issuer audience leeway now decoded
    simp only [library]
    split
    · rename_i h
      obtain ⟨hencode, hvalid⟩ := h.choose_spec
      rw [← encode_inj hencode] at hvalid ⊢
      rw [Except.ok.injEq, eq_comm]
      exact (and_iff_left hvalid).symm
    · rename_i h
      simp only [reduceCtorEq, false_iff]
      rintro ⟨-, hvalid⟩
      exact h ⟨payload, rfl, hvalid⟩
  · intro payload sub tenantId principalType hsub htenantId hsubEq htenantEq htypeEq
    have h : ∃ ids : Uuid × Uuid × PrincipalType, Readable payload ids.1 ids.2.1 ids.2.2 :=
      ⟨(sub, tenantId, principalType), hsub, htenantId, hsubEq, htenantEq, htypeEq⟩
    have hread := h.choose_spec
    have h1 : h.choose.1 = sub := uuidStr_inj hread.sub_lt hsub (hread.sub_eq.symm.trans hsubEq)
    have h2 : h.choose.2.1 = tenantId :=
      uuidStr_inj hread.tenantId_lt htenantId (hread.tenantId_eq.symm.trans htenantEq)
    have h3 : h.choose.2.2 = principalType := by
      have hvalue := hread.principalType_eq.symm.trans htypeEq
      revert hvalue
      cases h.choose.2.2 <;> cases principalType <;> decide
    simp only [library, id]
    rw [dif_pos h]
    simp only [h1, h2, h3]

/-! A script signs a manager's token, the manager issues a credential, and its holder exchanges it. -/

def manager : DevTokenCall :=
  { tenantId := 1, principalId := 7, scopes := ["service_credential:manage"], ttlSeconds := some 900,
    issuedAt := 0, jti := "m" }

def managerBearer (environment : Environment) : Bearer :=
  let settings := platformSettings environment
  { token := some (settings.encode (manager.payload settings)), now := 10 }

def body : CreateRequest := { name := "vms", scopes := ["prediction:execute"] }

def drawn : Drawn := { id := 50, clientSecret := "secret", clientIdEnd := "a" }

def row : ServiceCredential :=
  { id := 50, tenantId := 1, clientId := "hrpt_svc_a", secretHash := "secret",
    scopes := ["prediction:execute"] }

def exchange : ExchangeCall :=
  { clientId := "hrpt_svc_a", clientSecret := "secret", clientNow := 100, ipNow := 100, now := ⟨0, 0⟩,
    issuedAt := 20, jti := "t" }

def holderBearer (environment : Environment) : Bearer :=
  let settings := platformSettings environment
  { token := some (settings.encode (servicePayload settings row 20 "t")), now := 30 }

/-- The platform of the sample, in an environment. -/
noncomputable def stepIn (environment : Environment) : Platform → Request → Platform :=
  step HermesRpt.Sample.std (library environment) (platformSettings environment)

theorem holder_context (environment : Environment) :
    getTenantContext (library environment) (platformSettings environment) (holderBearer environment) =
      .ok { tenantId := 1, principalId := 50, scopes := ["prediction:execute"], principalType := "service" } :=
  (getTenantContext_signed (lawful_library environment)
    (readable_service (platformSettings environment) row 20 "t" (by decide) (by decide))
    rfl).2 ⟨⟨rfl, rfl, by norm_num [holderBearer, servicePayload, signedPayload, platformSettings],
      by norm_num [holderBearer, servicePayload, signedPayload, platformSettings]⟩, rfl⟩

theorem manager_context : getTenantContext (library .LOCAL) (platformSettings .LOCAL)
    (managerBearer .LOCAL) =
      .ok { tenantId := 1, principalId := 7, scopes := ["service_credential:manage"] } :=
  (getTenantContext_signed (lawful_library .LOCAL) (readable_dev (platformSettings .LOCAL) manager)
    rfl).2 ⟨⟨rfl, rfl, by norm_num [managerBearer, manager, DevTokenCall.payload, signedPayload,
      platformSettings], by norm_num [managerBearer, manager, DevTokenCall.payload, signedPayload,
      platformSettings]⟩, rfl⟩

def issueRequest : Request := .create (managerBearer .LOCAL) body drawn ⟨0, 0⟩

theorem managed : stepIn .LOCAL {} (.devToken manager) =
    { signed := [manager.payload (platformSettings .LOCAL)] } :=
  step_devToken_signed rfl

theorem authorized : authorize (library .LOCAL) (platformSettings .LOCAL) manageScope
    (managerBearer .LOCAL) =
      .ok { tenantId := 1, principalId := 7, scopes := ["service_credential:manage"] } :=
  authorize_ok.2 ⟨manager_context, by decide⟩

theorem created : Created HermesRpt.Sample.std (library .LOCAL) (platformSettings .LOCAL)
    (stepIn .LOCAL {} (.devToken manager)) (managerBearer .LOCAL) body drawn ⟨0, 0⟩
    { tenantId := 1, principalId := 7, scopes := ["service_credential:manage"] } row := by
  refine ⟨authorized, by decide, rfl, rfl, ?_⟩
  rw [managed]
  exact fun r hr => absurd hr (Table.not_mem_empty r)

theorem issued : Issues (stepIn .LOCAL {} (.devToken manager))
    (stepIn .LOCAL (stepIn .LOCAL {} (.devToken manager)) issueRequest) "vms" row :=
  (serve_create_created created).2

theorem granted (p : Platform) (hrows : p.credentials.rows = [row]) (hlimiters : p.limiters = {}) :
    Granted HermesRpt.Sample.std p exchange row := by
  refine ⟨?_, ?_, by decide +kernel⟩
  · show (p.limiters.check 100 100 "hrpt_svc_a" "unknown").1 = true
    rw [hlimiters]
    decide +kernel
  · rw [Table.find?, hrows]
    exact List.find?_cons_of_pos (by decide +kernel)

theorem issued_granted : Granted HermesRpt.Sample.std
    (stepIn .LOCAL (stepIn .LOCAL {} (.devToken manager)) issueRequest) exchange row := by
  refine granted _ ?_ ?_
  · rw [issued.credentials, managed]
    rfl
  · rw [issued.limiters, managed]

def history : List Request := [.devToken manager, issueRequest, .exchange exchange]

def useRequest : Request := .access (holderBearer .LOCAL) [.PREDICTION_EXECUTE] false

/-- Both tokens of the run were signed before they are used. -/
theorem genuine_history : Meets (stepIn .LOCAL) (Genuine (library .LOCAL) (platformSettings .LOCAL)) {}
    (history ++ [useRequest]) := by
  have hsigned := (serve_exchange_granted (library .LOCAL) (platformSettings .LOCAL) issued_granted).2.2.2
  refine ⟨?_, ?_, ?_, ?_, trivial⟩
  · rintro bearer ⟨⟩
  · rintro bearer ⟨⟩ token ⟨⟩ -
    refine ⟨manager.payload (platformSettings .LOCAL), ?_, rfl⟩
    show _ ∈ (stepIn .LOCAL {} (.devToken manager)).signed
    rw [managed]
    exact List.mem_singleton.2 rfl
  · rintro bearer ⟨⟩
  · rintro bearer ⟨⟩ token ⟨⟩ -
    refine ⟨servicePayload (platformSettings .LOCAL) row 20 "t", ?_, rfl⟩
    exact (congrArg (_ ∈ ·) hsigned).mpr (List.mem_append_right _ (List.mem_singleton.2 rfl))

end Sample

namespace Sample

def deployed : Platform := { ledger := { store := { credentials := ⟨[row], by decide⟩ } } }

def escalation : List Request :=
  [.exchange exchange, .create (holderBearer .PRODUCTION) body drawn ⟨0, 0⟩]

theorem sound_deployed : Sound deployed := by
  have hrow : ∀ c ∈ deployed.credentials, c = row := fun c hc => List.mem_singleton.1 hc
  refine ⟨?_, ?_, ?_, fun payload hpayload => absurd hpayload List.not_mem_nil⟩
  · intro c hc
    rw [hrow c hc]
    decide
  · intro c hc
    rw [hrow c hc]
    decide
  · intro c hc
    rw [hrow c hc]
    decide

theorem genuine_escalation : Meets (stepIn .PRODUCTION)
    (Genuine (library .PRODUCTION) (platformSettings .PRODUCTION)) deployed escalation := by
  have hsigned := (serve_exchange_granted (library .PRODUCTION) (platformSettings .PRODUCTION)
    (granted deployed rfl rfl)).2.2.2
  refine ⟨?_, ?_, trivial⟩
  · rintro bearer ⟨⟩
  · rintro bearer ⟨⟩ token ⟨⟩ -
    refine ⟨servicePayload (platformSettings .PRODUCTION) row 20 "t", ?_, rfl⟩
    exact (congrArg (_ ∈ ·) hsigned).mpr (List.mem_append_right _ (List.mem_singleton.2 rfl))

end Sample

theorem management_closed_escalation :
    Meets (Sample.stepIn .PRODUCTION) (fun p request => request.Manages → ∃ statusCode detail,
      (serve HermesRpt.Sample.std (Sample.library .PRODUCTION) (Sample.platformSettings .PRODUCTION) p
        request).1 = .failed statusCode detail ∧ (statusCode = 401 ∨ statusCode = 403))
      Sample.deployed Sample.escalation ∧
    (run (Sample.stepIn .PRODUCTION) Sample.deployed Sample.escalation).credentials.rows.map withoutUse =
      Sample.deployed.credentials.rows.map withoutUse ∧
    (run (Sample.stepIn .PRODUCTION) Sample.deployed Sample.escalation).ledger.details =
      Sample.deployed.ledger.details :=
  management_closed (Sample.lawful_library .PRODUCTION) ⟨by decide, by decide⟩ Sample.deployed
    Sample.sound_deployed (fun _ hpayload => absurd hpayload List.not_mem_nil) Sample.escalation
    Sample.genuine_escalation

end Auth

end HermesRpt
