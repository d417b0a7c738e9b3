import HermesRpt.Auth.Credentials

/-!
# HermesRpt.Auth.Steps

What a request can do to the credentials and to the tokens that were signed, said once: it leaves
them alone, or it is one of four kinds.

* `Granted`  : an exchange hands out a token.
* `Created`  : a credential is issued.
* `Revoked`  : a credential is revoked.
* `DevSigned` : a token is signed outside the API.
* `serve_exchange_granted`, `serve_create_created`, `serve_revoke_revoked` : the reply and the state of
  each kind; the `*_refused` lemmas say that everything else leaves a platform `Still`.
* `step_cases` : a request does one of these.
-/

namespace HermesRpt

namespace Auth

open Keyed (Table Dict)
open Transaction UnitOfWork Effect

/-- Credentials, their details and the signed tokens are the same. -/
structure Still (p p' : Platform) : Prop where
  credentials : p'.credentials = p.credentials
  details : p'.ledger.details = p.ledger.details
  signed : p'.signed = p.signed

theorem Still.refl (p : Platform) : Still p p := ⟨rfl, rfl, rfl⟩

/-- A handler writes to the audit log only. -/
theorem refuse_still (p : Platform) (bearer : Bearer) (tenantId : Option Uuid) (e : Refused) :
    Still p (refuse p bearer tenantId e).2 := by
  cases e <;> exact ⟨rfl, rfl, rfl⟩

theorem refuse_failed (p : Platform) (bearer : Bearer) (tenantId : Option Uuid) (e : Refused) :
    ∃ statusCode detail, (refuse p bearer tenantId e).1 = .failed statusCode detail := by
  cases e <;> exact ⟨_, _, rfl⟩

section

variable {π : Type} {std : Stdlib} {lib : TokenLibrary π} {settings : PlatformSettings}
  {p p' : Platform} {caller : Caller} {credential : ServiceCredential}

/-! ## The exchange -/

/-- The exchange hands out a token for this credential. -/
structure Granted (std : Stdlib) (p : Platform) (call : ExchangeCall) (credential : ServiceCredential) :
    Prop where
  within : withinLimits ⟨p.ledger.store, p.limiters⟩ call = true
  found : p.credentials.find? call.clientId = some credential
  accepted : denial std credential call.clientSecret call.now = none

/-- The three checks that a credential passes. -/
theorem denial_eq_none {clientSecret : String} {now : DateTime} :
    denial std credential clientSecret now = none ↔
      hashSecret std clientSecret = credential.secretHash ∧ credential.isActive = true ∧
        ∀ t ∈ credential.expiresAt, now < t := by
  have hexpiry : credential.expiresAt.any (· ≤ now) = false ↔ ∀ t ∈ credential.expiresAt, now < t := by
    cases credential.expiresAt with
    | none => simp
    | some t =>
      have hlt : ¬t ≤ now ↔ now < t := Int.not_le
      simp [hlt]
  rw [← hexpiry, denial]
  by_cases hsecret : hashSecret std clientSecret = credential.secretHash <;>
    cases credential.isActive <;> cases credential.expiresAt.any (· ≤ now) <;> simp [hsecret]

/-- The use of a credential. -/
def touched (credentials : Table ServiceCredential) (call : ExchangeCall) : Table ServiceCredential :=
  credentials.update call.clientId (fun r => { r with lastUsedAt := some call.now }) (fun _ => rfl)

/-- The answer of an exchange that is granted. -/
def grantedBody (settings : Settings) (credential : ServiceCredential) (call : ExchangeCall) :
    ServiceTokenExchangeResponse :=
  { accessToken := issueServiceToken settings credential call.issuedAt call.jti,
    expiresIn := settings.serviceTokenTtlSeconds, scope := " ".intercalate credential.scopes }

theorem session_granted_exact (settings : Settings) {store : Store} {call : ExchangeCall}
    (hfound : store.credentials.find? call.clientId = some credential)
    (haccepted : denial std credential call.clientSecret call.now = none) :
    session (exchangeServiceToken std settings call true) store =
      (.ok (grantedBody settings credential call),
        { credentials := touched store.credentials call,
          audit := store.audit ++ [exchangeEvent credential .SUCCESS []] }) := by
  have hid : credential.clientId = call.clientId := (Table.find?_eq_some.1 hfound).2
  have hauthenticated : authenticate std call.clientId call.clientSecret call.now ⟨store, store⟩ =
      (.ok { credential with lastUsedAt := some call.now }, ⟨store, {
        credentials := touched store.credentials call,
        audit := store.audit ++ [exchangeEvent credential .SUCCESS []] }⟩) := by
    rw [authenticate_found hfound, haccepted]
    refine (Process.bind_ok (touch_apply _ _ _)).trans ((Process.bind_ok (recordEvent_apply _ _)).trans ?_)
    rw [touched, ← hid]
    rfl
  unfold session exchangeServiceToken
  rw [if_neg (by decide), Process.bind_ok hauthenticated]
  rfl

theorem respond_granted (settings : PlatformSettings) {call : ExchangeCall} (h : Granted std p call credential) :
    respond std settings.toSettings ⟨p.ledger.store, p.limiters⟩ call =
      (.ok (grantedBody settings.toSettings credential call),
        { store := { credentials := touched p.credentials call,
                     audit := p.ledger.store.audit ++ [exchangeEvent credential .SUCCESS []] },
          limiters := (p.limiters.check call.clientNow call.ipNow call.clientId
            (call.clientHost.getD "unknown")).2 }) := by
  have hwithin := h.within
  unfold withinLimits at hwithin
  unfold respond
  rcases hl : p.limiters.check call.clientNow call.ipNow call.clientId
    (call.clientHost.getD "unknown") with ⟨within, limiters⟩
  rw [hl] at hwithin
  cases hwithin
  have hsession : session (exchangeServiceToken std settings.toSettings call true) p.ledger.store = _ :=
    session_granted_exact settings.toSettings h.found h.accepted
  simp only [hsession]
  rfl

/-- The reply and the state of an exchange that is granted. -/
theorem serve_exchange_granted (lib : TokenLibrary π) (settings : PlatformSettings) {call : ExchangeCall} (h : Granted std p call credential) :
    (serve std lib settings p (.exchange call)).1 =
        .exchanged (grantedBody settings.toSettings credential call) ∧
      (step std lib settings p (.exchange call)).credentials = touched p.credentials call ∧
      (step std lib settings p (.exchange call)).ledger.details = p.ledger.details ∧
      (step std lib settings p (.exchange call)).signed =
        p.signed ++ [servicePayload settings credential call.issuedAt call.jti] := by
  have hfound : (touched p.credentials call).find? call.clientId =
      some { credential with lastUsedAt := some call.now } := by
    rw [touched, Table.find?_update, if_pos rfl, h.found, Option.map_some]
  have hresponse := respond_granted settings h
  refine ⟨?_, ?_, ?_, ?_⟩ <;> simp only [step, serve, hresponse]
  · rfl
  · simp only [Platform.credentials] at hfound ⊢
    rw [hfound]
    rfl

/-- An exchange that is not granted writes to the audit log and the rate limiters only. -/
theorem respond_refused (settings : PlatformSettings) {call : ExchangeCall} (h : ∀ credential, ¬Granted std p call credential) :
    ∃ statusCode detail audit limiters,
      respond std settings.toSettings ⟨p.ledger.store, p.limiters⟩ call =
        (.failed statusCode detail, { store := { p.ledger.store with audit }, limiters }) := by
  unfold respond
  rcases hl : p.limiters.check call.clientNow call.ipNow call.clientId
    (call.clientHost.getD "unknown") with ⟨within, limiters⟩
  have hwithin : withinLimits ⟨p.ledger.store, p.limiters⟩ call = within := by rw [withinLimits, hl]
  cases within with
  | false =>
    simp only [session_limited]
    exact ⟨_, _, _, _, rfl⟩
  | true =>
    cases hfound : p.credentials.find? call.clientId with
    | none =>
      obtain ⟨view, hunknown⟩ := authenticate_unknown std (w := ⟨p.ledger.store, p.ledger.store⟩) hfound
      simp only [session_denied hunknown, session_recordFailure]
      exact ⟨_, _, _, _, rfl⟩
    | some credential =>
      cases hdenial : denial std credential call.clientSecret call.now with
      | none => exact absurd ⟨hwithin, hfound, hdenial⟩ (h credential)
      | some reason =>
        obtain ⟨view, hdeny⟩ := authenticate_denied (w := ⟨p.ledger.store, p.ledger.store⟩) hfound hdenial
        simp only [session_denied hdeny, session_recordFailure]
        exact ⟨_, _, _, _, rfl⟩

theorem serve_exchange_refused (lib : TokenLibrary π) (settings : PlatformSettings) {call : ExchangeCall}
    (h : ∀ credential, ¬Granted std p call credential) :
    (∃ statusCode detail,
      (serve std lib settings p (.exchange call)).1 = .failed statusCode detail) ∧
      Still p (step std lib settings p (.exchange call)) := by
  obtain ⟨statusCode, detail, audit, limiters, hresponse⟩ := respond_refused settings h
  simp only [step, serve, hresponse]
  exact ⟨⟨_, _, rfl⟩, ⟨rfl, rfl, rfl⟩⟩

/-! ## Endpoints with a bearer token -/

/-- A request that is not answered by its endpoint is refused, and what the endpoint did is dropped. -/
theorem endpoint_cases (p : Platform) (bearer : Bearer) (authorized : Except Refused Caller)
    (body : Caller → InSession Ledger Refused Reply)
    (hkept : ∀ caller e ledger, session (body caller) p.ledger = (.error e, ledger) → ledger = p.ledger) :
    (∃ caller reply ledger, authorized = .ok caller ∧ session (body caller) p.ledger = (.ok reply, ledger) ∧
      endpoint p bearer authorized body = (reply, { p with ledger })) ∨
    (∃ statusCode detail, (endpoint p bearer authorized body).1 = .failed statusCode detail) ∧
      Still p (endpoint p bearer authorized body).2 := by
  unfold endpoint
  cases authorized with
  | error e => exact .inr ⟨refuse_failed p bearer none e, refuse_still p bearer none e⟩
  | ok caller =>
    rcases hsession : session (body caller) p.ledger with ⟨r, ledger⟩
    cases r with
    | ok reply => exact .inl ⟨caller, reply, ledger, rfl, hsession, by simp only [hsession]⟩
    | error e =>
      cases hkept caller e ledger hsession
      simp only [hsession]
      exact .inr ⟨refuse_failed _ bearer _ e, refuse_still _ bearer _ e⟩

/-! ## Issue -/

/-- The endpoint issues this credential. -/
structure Created (std : Stdlib) (lib : TokenLibrary π) (settings : PlatformSettings) (p : Platform)
    (bearer : Bearer) (body : CreateRequest) (drawn : Drawn) (now : DateTime) (caller : Caller)
    (credential : ServiceCredential) : Prop where
  authorized : authorize lib settings manageScope bearer = .ok caller
  grantable : ∀ scope ∈ body.scopes, scope ∈ grantableScopes
  expiry : checkExpiry now body.expiresAt = .ok credential.expiresAt
  credential_eq : credential = credentialOf std caller body credential.expiresAt drawn
  /-- Neither the id nor the client id is taken. -/
  fresh : ∀ r ∈ p.credentials, r.id ≠ credential.id ∧ r.clientId ≠ credential.clientId

/-- The state after an issue. -/
structure Issues (p p' : Platform) (name : String) (credential : ServiceCredential) : Prop where
  credentials : p'.credentials.rows = p.credentials.rows ++ [credential]
  details : p'.ledger.details = p.ledger.details.set credential.clientId { name }
  signed : p'.signed = p.signed
  limiters : p'.limiters = p.limiters

theorem addCredential_ok {details : CredentialDetails} {w w' : Work Ledger} {u : Unit} :
    addCredential caller credential details w = (.ok u, w') ↔
      credential.tenantId = caller.tenantId ∧ (∀ r ∈ w.view.store.credentials, r.id ≠ credential.id) ∧
        ∃ credentials, w.view.store.credentials.insert? credential = some credentials ∧
          w' = { w with view := { store := { w.view.store with credentials },
                                  details := w.view.details.set credential.clientId details } } := by
  have hfresh : w.view.store.credentials.rows.any (·.id = credential.id) = false ↔
      ∀ r ∈ w.view.store.credentials, r.id ≠ credential.id := by simp [Table.mem_def]
  rw [addCredential, flush_eq_ok, ← hfresh]
  simp only [write_ok]
  by_cases htenant : credential.tenantId = caller.tenantId
  · cases hany : w.view.store.credentials.rows.any (·.id = credential.id) with
    | true => simp [htenant]
    | false =>
      cases hinsert : w.view.store.credentials.insert? credential with
      | none => simp [htenant]
      | some credentials => simp [htenant, eq_comm]
  · simp [htenant]

theorem recordManagement_apply (caller : Caller) (action : String) (id : Uuid)
    (details : List (String × Option Value)) (w : Work Ledger) :
    ∃ audit, recordManagement caller action id details w = (.ok (), { w with view := { w.view with
      store := { w.view.store with audit } } }) :=
  ⟨_, flush_ok (write_ok.2 rfl)⟩

theorem issueCredential_pending (std : Stdlib) (caller : Caller) (body : CreateRequest) (drawn : Drawn)
    (now : DateTime) : Pending (issueCredential std caller body drawn now) := by
  unfold issueCredential
  dsimp only
  split
  · exact Pending.raise _
  · exact (Pending.lift _).bind fun _ => (Pending.flush _).bind fun _ => (Pending.flush _).bind fun _ =>
      Pending.pure _

theorem issueCredential_ok {body : CreateRequest} {drawn : Drawn} {now : DateTime}
    {issued : ServiceCredential × String} {w w' : Work Ledger} :
    issueCredential std caller body drawn now w = (.ok issued, w') →
      (∀ scope ∈ body.scopes, scope ∈ grantableScopes) ∧ ∃ expiresAt credentials audit,
        checkExpiry now body.expiresAt = .ok expiresAt ∧
        issued = (credentialOf std caller body expiresAt drawn, drawn.clientSecret) ∧
        (∀ r ∈ w.view.store.credentials, r.id ≠ issued.1.id) ∧
        w.view.store.credentials.insert? issued.1 = some credentials ∧
        w'.view = { store := { credentials, audit },
                    details := w.view.details.set issued.1.clientId { name := body.name } } := by
  intro h
  have hnone : body.scopes.filter (· ∉ grantableScopes) = [] ↔
      ∀ scope ∈ body.scopes, scope ∈ grantableScopes := by simp
  unfold issueCredential at h
  by_cases hgrantable : body.scopes.filter (· ∉ grantableScopes) = []
  · rw [if_neg (not_not.2 hgrantable), lift_bind_eq_ok] at h
    obtain ⟨expiresAt, hexpiry, h⟩ := h
    obtain ⟨u, w₁, hadd, h⟩ := Process.bind_eq_ok.1 h
    obtain ⟨-, hfresh, credentials, hinsert, rfl⟩ := addCredential_ok.1 hadd
    obtain ⟨audit, hrecord⟩ := recordManagement_apply caller "service_credential.create"
      (credentialOf std caller body expiresAt drawn).id _ _
    rw [Process.bind_ok hrecord, Process.pure_eq_ok] at h
    obtain ⟨rfl, rfl⟩ := h
    exact ⟨hnone.1 hgrantable, expiresAt, credentials, audit, hexpiry, rfl, hfresh, hinsert, rfl⟩
  · rw [if_pos hgrantable] at h
    cases h

/-- A refusal of the service stays a refusal in the endpoint. -/
theorem createServiceCredential_pending (std : Stdlib) (caller : Caller) (body : CreateRequest)
    (drawn : Drawn) (now : DateTime) {e : Refused} {ledger ledger' : Ledger}
    (h : session (createServiceCredential std body drawn now caller) ledger = (.error e, ledger')) :
    ledger' = ledger := by
  refine Pending.session_commit_error ?_ h
  exact (issueCredential_pending std caller body drawn now).orElse fun e => by
    cases e <;> exact Pending.raise _

theorem createServiceCredential_ok {body : CreateRequest} {drawn : Drawn} {now : DateTime} {reply : Reply}
    {ledger ledger' : Ledger} :
    session (createServiceCredential std body drawn now caller) ledger = (.ok reply, ledger') ↔
      ∃ issued w, issueCredential std caller body drawn now ⟨ledger, ledger⟩ = (.ok issued, w) ∧
        reply = .created (createResponse body issued) ∧ ledger' = w.view := by
  rw [createServiceCredential, Pending.session_commit_ok]
  simp only [Process.orElse_eq_ok]
  constructor
  · rintro ⟨issued, w, hissued | ⟨e, w₁, -, hraised⟩, hreply, hledger⟩
    · exact ⟨issued, w, hissued, hreply, hledger⟩
    · cases e <;> cases hraised
  · rintro ⟨issued, w, hissued, hreply, hledger⟩
    exact ⟨issued, w, .inl hissued, hreply, hledger⟩

/-- The reply and the state of an issue. -/
theorem serve_create_created {bearer : Bearer} {body : CreateRequest} {drawn : Drawn} {now : DateTime}
    (h : Created std lib settings p bearer body drawn now caller credential) :
    (serve std lib settings p (.create bearer body drawn now)).1 =
        .created (createResponse body (credential, drawn.clientSecret)) ∧
      Issues p (step std lib settings p (.create bearer body drawn now)) body.name credential := by
  obtain ⟨credentials, hinsert⟩ := Table.insert?_isSome (t := p.credentials) (r := credential)
    (Table.find?_eq_none.2 fun r hr => (h.fresh r hr).2)
  have hgrantable : body.scopes.filter (· ∉ grantableScopes) = [] := by simpa using h.grantable
  have hadd : addCredential caller credential { name := body.name } ⟨p.ledger, p.ledger⟩ =
      (.ok (), ⟨p.ledger, {
        store := { p.ledger.store with credentials }
        details := p.ledger.details.set credential.clientId { name := body.name } }⟩) :=
    addCredential_ok.2 ⟨by rw [h.credential_eq]; rfl, fun r hr => (h.fresh r hr).1, credentials, hinsert,
      rfl⟩
  obtain ⟨audit, hrecord⟩ := recordManagement_apply caller "service_credential.create" credential.id
    [("name", some (.str body.name)), ("scopes", some (.json (reprStrList (sortedTexts body.scopes))))]
    ⟨p.ledger, {
      store := { p.ledger.store with credentials }
      details := p.ledger.details.set credential.clientId { name := body.name } }⟩
  have hissued : issueCredential std caller body drawn now ⟨p.ledger, p.ledger⟩ =
      (.ok (credential, drawn.clientSecret), ⟨p.ledger, {
        store := { credentials, audit },
        details := p.ledger.details.set credential.clientId { name := body.name } }⟩) := by
    rw [h.credential_eq] at hadd hrecord ⊢
    unfold issueCredential
    have hlift : (Process.lift (checkExpiry now body.expiresAt) : InSession Ledger Refused _)
        ⟨p.ledger, p.ledger⟩ = (.ok credential.expiresAt, ⟨p.ledger, p.ledger⟩) := by
      rw [Process.lift, h.expiry]
    rw [if_neg (not_not.2 hgrantable), Process.bind_ok hlift, Process.bind_ok hadd, Process.bind_ok hrecord]
    rfl
  have hsession := createServiceCredential_ok.2 ⟨_, _, hissued, rfl, rfl⟩
  have hserve : serve std lib settings p (.create bearer body drawn now) =
      (.created (createResponse body (credential, drawn.clientSecret)), { p with ledger := {
        store := { credentials, audit }
        details := p.ledger.details.set credential.clientId { name := body.name } } }) := by
    simp only [serve, endpoint, h.authorized, hsession]
  rw [step, hserve]
  exact ⟨rfl, (Table.insert?_eq_some.1 hinsert).2, rfl, rfl, rfl⟩

theorem serve_create_refused {bearer : Bearer} {body : CreateRequest} {drawn : Drawn} {now : DateTime}
    (h : ∀ caller credential, ¬Created std lib settings p bearer body drawn now caller credential) :
    (∃ statusCode detail,
      (serve std lib settings p (.create bearer body drawn now)).1 = .failed statusCode detail) ∧
      Still p (step std lib settings p (.create bearer body drawn now)) := by
  rcases endpoint_cases p bearer (authorize lib settings manageScope bearer)
    (createServiceCredential std body drawn now)
    (fun caller e ledger => createServiceCredential_pending std caller body drawn now) with
    ⟨caller, reply, ledger, hauthorized, hsession, -⟩ | hrefused
  · obtain ⟨issued, w, hissued, -, -⟩ := createServiceCredential_ok.1 hsession
    obtain ⟨hgrantable, expiresAt, credentials, -, hexpiry, rfl, hid, hinsert, -⟩ := issueCredential_ok hissued
    have hclient := Table.find?_eq_none.1 (Table.insert?_eq_some.1 hinsert).1
    exact absurd ⟨hauthorized, hgrantable, hexpiry, rfl, fun r hr => ⟨hid r hr, hclient r hr⟩⟩
      (h caller (credentialOf std caller body expiresAt drawn))
  · exact hrefused

/-! ## Revocation -/

/-- The endpoint revokes this credential. -/
structure Revoked (lib : TokenLibrary π) (settings : PlatformSettings) (p : Platform) (bearer : Bearer)
    (credentialId : Uuid) (caller : Caller) (credential : ServiceCredential) : Prop where
  authorized : authorize lib settings manageScope bearer = .ok caller
  found : p.credentials.rows.find? (·.id = credentialId) = some credential
  tenant : credential.tenantId = caller.tenantId

/-- The state after a revocation. -/
structure Revokes (p p' : Platform) (credential : ServiceCredential) (now : DateTime) : Prop where
  credentials : p'.credentials = p.credentials.update credential.clientId
    (fun r => { r with isActive := false }) (fun _ => rfl)
  details : p'.ledger.details = p.ledger.details.update credential.clientId
    (fun q => (q.1, { q.2 with revokedAt := some now })) (fun _ => rfl)
  signed : p'.signed = p.signed
  limiters : p'.limiters = p.limiters

theorem requireCredential_ok {ledger : Ledger} {credentialId : Uuid} :
    requireCredential ledger credentialId caller = .ok credential ↔
      ledger.store.credentials.rows.find? (·.id = credentialId) = some credential ∧
        credential.tenantId = caller.tenantId := by
  rw [requireCredential]
  cases ledger.store.credentials.rows.find? (·.id = credentialId) with
  | none => simp
  | some r =>
    simp only [ne_eq, ite_not, Option.some.injEq]
    by_cases ht : r.tenantId = caller.tenantId
    · simp only [ht, if_true, Except.ok.injEq]
      exact ⟨fun h => ⟨h, h ▸ ht⟩, fun h => h.1⟩
    · simp only [ht, if_false, reduceCtorEq, false_iff, not_and]
      rintro rfl
      exact ht

theorem revoke_ok {credentialId : Uuid} {now : DateTime} {w w' : Work Ledger} {u : Unit} :
    revoke caller credentialId now w = (.ok u, w') ↔ ∃ credential,
      requireCredential w.view credentialId caller = .ok credential ∧
        (recordManagement caller "service_credential.revoke" credential.id []
          { w with view := revokeIn w.view credential now }) = (.ok u, w') := by
  rw [revoke, flush_read_bind_eq_ok]
  simp only [flush_bind_eq_ok, write_ok]
  constructor
  · rintro ⟨credential, hfound, -, s, hs, hrecord⟩
    cases hs
    exact ⟨credential, hfound, hrecord⟩
  · rintro ⟨credential, hfound, hrecord⟩
    exact ⟨credential, hfound, (), _, rfl, hrecord⟩

theorem revoke_pending (caller : Caller) (credentialId : Uuid) (now : DateTime) :
    Pending (revoke caller credentialId now) :=
  (Pending.flush _).bind fun _ => (Pending.flush _).bind fun _ => Pending.flush _

theorem revokeServiceCredential_ok {credentialId : Uuid} {now : DateTime} {reply : Reply}
    {ledger ledger' : Ledger} :
    session (revokeServiceCredential credentialId now caller) ledger = (.ok reply, ledger') ↔
      ∃ u w, revoke caller credentialId now ⟨ledger, ledger⟩ = (.ok u, w) ∧ reply = .revoked ∧
        ledger' = w.view := Pending.session_commit_ok

/-- The reply and the state of a revocation. -/
theorem serve_revoke_revoked {bearer : Bearer} {credentialId : Uuid} {now : DateTime}
    (h : Revoked lib settings p bearer credentialId caller credential) :
    (serve std lib settings p (.revoke bearer credentialId now)).1 = .revoked ∧
      Revokes p (step std lib settings p (.revoke bearer credentialId now)) credential now := by
  obtain ⟨audit, hrecord⟩ := recordManagement_apply caller "service_credential.revoke" credential.id []
    ⟨p.ledger, revokeIn p.ledger credential now⟩
  have hrevoke : revoke caller credentialId now ⟨p.ledger, p.ledger⟩ = _ :=
    revoke_ok.2 ⟨credential, requireCredential_ok.2 ⟨h.found, h.tenant⟩, hrecord⟩
  have hsession := revokeServiceCredential_ok.2 ⟨(), _, hrevoke, rfl, rfl⟩
  have hserve : serve std lib settings p (.revoke bearer credentialId now) =
      (.revoked, { p with ledger := { revokeIn p.ledger credential now with
        store := { (revokeIn p.ledger credential now).store with audit } } }) := by
    simp only [serve, endpoint, h.authorized, hsession]
  rw [step, hserve]
  exact ⟨rfl, rfl, rfl, rfl, rfl⟩

theorem serve_revoke_refused (std : Stdlib) {bearer : Bearer} {credentialId : Uuid} (now : DateTime)
    (h : ∀ caller credential, ¬Revoked lib settings p bearer credentialId caller credential) :
    (∃ statusCode detail,
      (serve std lib settings p (.revoke bearer credentialId now)).1 = .failed statusCode detail) ∧
      Still p (step std lib settings p (.revoke bearer credentialId now)) := by
  rcases endpoint_cases p bearer (authorize lib settings manageScope bearer)
    (revokeServiceCredential credentialId now)
    (fun caller e ledger => Pending.session_commit_error (revoke_pending caller credentialId now)) with
    ⟨caller, reply, ledger, hauthorized, hsession, -⟩ | hrefused
  · obtain ⟨u, w, hrevoke, -, -⟩ := revokeServiceCredential_ok.1 hsession
    obtain ⟨credential, hfound, -⟩ := revoke_ok.1 hrevoke
    obtain ⟨hfound, htenant⟩ := requireCredential_ok.1 hfound
    exact absurd ⟨hauthorized, hfound, htenant⟩ (h caller credential)
  · exact hrefused

/-! ## The other requests -/

/-- A token is signed outside the API. -/
def DevSigned (settings : PlatformSettings) (call : DevTokenCall) : Prop :=
  (issueDevToken settings call).isSome

theorem devSigned_iff {call : DevTokenCall} : DevSigned settings call ↔
    settings.environment = .LOCAL ∨ settings.environment = .CI := by
  rw [DevSigned, issueDevToken]
  cases settings.environment <;> simp

theorem step_devToken_signed {call : DevTokenCall} (h : DevSigned settings call) :
    step std lib settings p (.devToken call) = { p with signed := p.signed ++ [call.payload settings] } := by
  obtain ⟨accessToken, htoken⟩ := Option.isSome_iff_exists.1 h
  simp only [step, serve, htoken]

theorem step_devToken_refused {call : DevTokenCall} (h : ¬DevSigned settings call) :
    step std lib settings p (.devToken call) = p := by
  have hnone : issueDevToken settings call = none := by simpa [DevSigned] using h
  simp only [step, serve, hnone]

/-- An endpoint that writes nothing. -/
theorem endpoint_still {bearer : Bearer} {authorized : Except Refused Caller}
    {body : Caller → InSession Ledger Refused Reply} (hbody : ∀ caller, Pending (body caller)) :
    Still p (endpoint p bearer authorized body).2 := by
  rcases endpoint_cases p bearer authorized body (fun caller e ledger h => by
      have hkept := (hbody caller).session p.ledger
      rw [h] at hkept
      exact hkept) with ⟨caller, reply, ledger, -, hsession, hreply⟩ | ⟨-, hstill⟩
  · have hkept := (hbody caller).session p.ledger
    rw [hsession] at hkept
    cases hkept
    rw [hreply]
    exact Still.refl p
  · exact hstill

theorem step_list_still (std : Stdlib) (lib : TokenLibrary π) (settings : PlatformSettings) (p : Platform)
    (bearer : Bearer) : Still p (step std lib settings p (.list bearer)) :=
  endpoint_still fun _ => (Pending.flush _).bind fun _ => Pending.pure _

theorem step_access_still (std : Stdlib) (lib : TokenLibrary π) (settings : PlatformSettings)
    (p : Platform) (bearer : Bearer) (required : List ScopeName) (humanOnly : Bool) :
    Still p (step std lib settings p (.access bearer required humanOnly)) :=
  endpoint_still fun _ => Pending.pure _

/-! ## All requests -/

/-- What a request does to the credentials and the signed tokens. -/
theorem step_cases (std : Stdlib) (lib : TokenLibrary π) (settings : PlatformSettings) (p : Platform)
    (request : Request) :
    Still p (step std lib settings p request) ∨
    (∃ call, request = .devToken call ∧ DevSigned settings call ∧
      step std lib settings p request = { p with signed := p.signed ++ [call.payload settings] }) ∨
    (∃ call credential, request = .exchange call ∧ Granted std p call credential ∧
      (step std lib settings p request).credentials = touched p.credentials call ∧
      (step std lib settings p request).ledger.details = p.ledger.details ∧
      (step std lib settings p request).signed =
        p.signed ++ [servicePayload settings credential call.issuedAt call.jti]) ∨
    (∃ bearer body drawn now caller credential, request = .create bearer body drawn now ∧
      Created std lib settings p bearer body drawn now caller credential ∧
      Issues p (step std lib settings p request) body.name credential) ∨
    ∃ bearer credentialId now caller credential, request = .revoke bearer credentialId now ∧
      Revoked lib settings p bearer credentialId caller credential ∧
      Revokes p (step std lib settings p request) credential now := by
  cases request with
  | devToken call =>
    by_cases h : DevSigned settings call
    · exact .inr (.inl ⟨call, rfl, h, step_devToken_signed h⟩)
    · rw [step_devToken_refused h]
      exact .inl (Still.refl p)
  | exchange call =>
    by_cases h : ∃ credential, Granted std p call credential
    · obtain ⟨credential, hgranted⟩ := h
      exact .inr (.inr (.inl ⟨call, credential, rfl, hgranted, (serve_exchange_granted lib settings hgranted).2⟩))
    · exact .inl (serve_exchange_refused lib settings fun credential hgranted => h ⟨credential, hgranted⟩).2
  | create bearer body drawn now =>
    by_cases h : ∃ caller credential, Created std lib settings p bearer body drawn now caller credential
    · obtain ⟨caller, credential, hcreated⟩ := h
      exact .inr (.inr (.inr (.inl ⟨bearer, body, drawn, now, caller, credential, rfl, hcreated,
        (serve_create_created hcreated).2⟩)))
    · exact .inl (serve_create_refused fun caller credential hcreated => h ⟨caller, credential, hcreated⟩).2
  | list bearer => exact .inl (step_list_still std lib settings p bearer)
  | revoke bearer credentialId now =>
    by_cases h : ∃ caller credential, Revoked lib settings p bearer credentialId caller credential
    · obtain ⟨caller, credential, hrevoked⟩ := h
      exact .inr (.inr (.inr (.inr ⟨bearer, credentialId, now, caller, credential, rfl, hrevoked,
        (serve_revoke_revoked hrevoked).2⟩)))
    · exact .inl (serve_revoke_refused std now fun caller credential hrevoked => h ⟨caller, credential, hrevoked⟩).2
  | access bearer required humanOnly => exact .inl (step_access_still std lib settings p bearer required humanOnly)

end

end Auth

end HermesRpt
