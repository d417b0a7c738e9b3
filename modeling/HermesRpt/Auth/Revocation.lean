import HermesRpt.Auth.Provenance

/-!
# HermesRpt.Auth.Revocation

What the exchange does, told by the answers of earlier requests alone: it grants a token for a secret
that was issued, whose credential was not revoked since.

* `Creates`, `RevokesId` : the events, read off the replies.
* `Tracked` : the active rows are the credentials that were issued and not revoked since.
* `exchange_granted_iff` : which exchanges are granted, and what they hand out.
* `revoked_for_good` : a revocation ends the exchanges at once, and the use of their tokens when the
  last of them has expired.
-/

namespace HermesRpt

namespace Auth

open Keyed (Table)
open Machine

section

variable {π : Type} (std : Stdlib) (lib : TokenLibrary π) (settings : PlatformSettings)

/-- The request creates a credential, and is answered with it. -/
def Creates (response : ServiceCredentialCreateResponse) (p : Platform) (request : Request) : Prop :=
  ∃ bearer body drawn now, request = .create bearer body drawn now ∧
    (serve std lib settings p request).1 = .created response

/-- The request is a revocation of the credential, and it is not refused. -/
def RevokesId (id : Uuid) (p : Platform) (request : Request) : Prop :=
  ∃ bearer now, request = .revoke bearer id now ∧ (serve std lib settings p request).1 = .revoked

/-- The row holds what the response told. -/
structure Told (response : ServiceCredentialCreateResponse) (c : ServiceCredential) : Prop where
  id : c.id = response.id
  tenantId : c.tenantId = response.tenantId
  clientId : c.clientId = response.clientId
  secretHash : c.secretHash = hashSecret std response.clientSecret
  scopes : c.scopes = response.scopes
  expiresAt : c.expiresAt = response.expiresAt

/-- The active rows are the credentials that were issued and not revoked since. -/
structure Tracked (start : Platform) (requests : List Request) (p : Platform) : Prop where
  unique : ∀ c ∈ p.credentials, ∀ r ∈ p.credentials, c.id = r.id → c = r
  issued : ∀ c ∈ p.credentials, c.isActive = true → ∃ response, Told std response c ∧
    Since (step std lib settings) (Creates std lib settings response)
      (RevokesId std lib settings response.id) start requests
  active : ∀ response, Since (step std lib settings) (Creates std lib settings response)
    (RevokesId std lib settings response.id) start requests →
      ∃ c ∈ p.credentials, Told std response c ∧ c.isActive = true

end

section

variable {π : Type} {std : Stdlib} {lib : TokenLibrary π} {settings : PlatformSettings}
  {dict : TokenPayload → π} {p p' : Platform} {request : Request} {bearer : Bearer} {caller : Caller}
  {c r credential : ServiceCredential} {response : ServiceCredentialCreateResponse} {id : Uuid}
  {now : DateTime}

/-! ## The events -/

theorem creates_iff : Creates std lib settings response p request ↔
    ∃ bearer body drawn now caller credential, request = .create bearer body drawn now ∧
      Created std lib settings p bearer body drawn now caller credential ∧
      response = createResponse body (credential, drawn.clientSecret) := by
  constructor
  · rintro ⟨bearer, body, drawn, now, rfl, h⟩
    by_cases hcreated : ∃ caller credential,
      Created std lib settings p bearer body drawn now caller credential
    · obtain ⟨caller, credential, hcreated⟩ := hcreated
      rw [(serve_create_created hcreated).1] at h
      cases h
      exact ⟨bearer, body, drawn, now, caller, credential, rfl, hcreated, rfl⟩
    · obtain ⟨⟨statusCode, detail, hfailed⟩, -⟩ :=
        serve_create_refused fun caller credential hc => hcreated ⟨caller, credential, hc⟩
      rw [hfailed] at h
      cases h
  · rintro ⟨bearer, body, drawn, now, caller, credential, rfl, hcreated, rfl⟩
    exact ⟨bearer, body, drawn, now, rfl, (serve_create_created hcreated).1⟩

theorem revokesId_iff : RevokesId std lib settings id p request ↔
    ∃ bearer now caller credential, request = .revoke bearer id now ∧
      Revoked lib settings p bearer id caller credential := by
  constructor
  · rintro ⟨bearer, now, rfl, h⟩
    by_cases hrevoked : ∃ caller credential, Revoked lib settings p bearer id caller credential
    · obtain ⟨caller, credential, hrevoked⟩ := hrevoked
      exact ⟨bearer, now, caller, credential, rfl, hrevoked⟩
    · obtain ⟨⟨statusCode, detail, hfailed⟩, -⟩ := serve_revoke_refused std now
        fun caller credential hr => hrevoked ⟨caller, credential, hr⟩
      rw [hfailed] at h
      cases h
  · rintro ⟨bearer, now, caller, credential, rfl, hrevoked⟩
    exact ⟨bearer, now, rfl, (serve_revoke_revoked hrevoked).1⟩

theorem Revoked.id_eq {credentialId : Uuid}
    (h : Revoked lib settings p bearer credentialId caller credential) :
    credential ∈ p.credentials ∧ credential.id = credentialId :=
  ⟨List.mem_of_find?_eq_some h.found, by simpa using List.find?_some h.found⟩

/-- The response of an issue tells its row. -/
theorem Created.told {body : CreateRequest} {drawn : Drawn}
    (h : Created std lib settings p bearer body drawn now caller credential) :
    Told std (createResponse body (credential, drawn.clientSecret)) credential := by
  rw [h.credential_eq]
  exact ⟨rfl, rfl, rfl, rfl, rfl, rfl⟩

/-- The columns that a response tells never change. -/
theorem Told.of_same (h : Told std response r) (hsame : asIssued c = asIssued r) :
    Told std response c := by
  obtain ⟨hid, htenant, hclient, hsecret, hscopes, hexpires⟩ := asIssued_eq.1 hsame
  exact ⟨hid.trans h.id, htenant.trans h.tenantId, hclient.trans h.clientId, hsecret.trans h.secretHash,
    hscopes.trans h.scopes, hexpires.trans h.expiresAt⟩

/-! ## One request -/

/-- What becomes of the rows: each stays, with its activity unless it is revoked, and an issue adds
one under a new id. -/
structure Advances (std : Stdlib) (lib : TokenLibrary π) (settings : PlatformSettings) (p p' : Platform)
    (request : Request) : Prop where
  before : ∀ c ∈ p'.credentials, (∃ r ∈ p.credentials, asIssued c = asIssued r ∧
    (c.isActive = true → r.isActive = true ∧ ¬RevokesId std lib settings r.id p request)) ∨
    ∃ response, Creates std lib settings response p request ∧ Told std response c ∧
      ∀ r ∈ p.credentials, r.id ≠ c.id
  kept : ∀ r ∈ p.credentials, ∃ c ∈ p'.credentials, asIssued c = asIssued r ∧
    (r.isActive = true → ¬RevokesId std lib settings r.id p request → c.isActive = true)
  added : ∀ response, Creates std lib settings response p request →
    ∃ c ∈ p'.credentials, Told std response c ∧ c.isActive = true

theorem advances_of_same (hrows : p'.credentials = p.credentials)
    (hcreates : ∀ response, ¬Creates std lib settings response p request)
    (hrevokes : ∀ id, ¬RevokesId std lib settings id p request) :
    Advances std lib settings p p' request := by
  refine ⟨?_, ?_, fun response h => absurd h (hcreates response)⟩
  · intro c hc
    exact .inl ⟨c, hrows ▸ hc, rfl, fun h => ⟨h, hrevokes c.id⟩⟩
  · intro r hr
    exact ⟨r, hrows.symm ▸ hr, rfl, fun h _ => h⟩

theorem advances_touched {call : ExchangeCall} (hrows : p'.credentials = touched p.credentials call)
    (hcreates : ∀ response, ¬Creates std lib settings response p request)
    (hrevokes : ∀ id, ¬RevokesId std lib settings id p request) :
    Advances std lib settings p p' request := by
  refine ⟨?_, ?_, fun response h => absurd h (hcreates response)⟩
  · intro c hc
    rw [hrows] at hc
    obtain ⟨r, hr, rfl⟩ := Table.mem_update.1 hc
    refine .inl ⟨r, hr, by split <;> rfl, fun h => ⟨?_, hrevokes r.id⟩⟩
    split at h <;> exact h
  · intro r hr
    rw [hrows]
    refine ⟨_, Table.mem_update.2 ⟨r, hr, rfl⟩, by split <;> rfl, fun h _ => ?_⟩
    split <;> exact h

theorem advances_create {body : CreateRequest} {drawn : Drawn}
    (h : Created std lib settings p bearer body drawn now caller credential)
    (hissues : Issues p p' body.name credential) :
    Advances std lib settings p p' (.create bearer body drawn now) := by
  have hrevokes : ∀ id, ¬RevokesId std lib settings id p (.create bearer body drawn now) := by
    rintro id ⟨bearer, now, ⟨⟩, -⟩
  have hnew : credential ∈ p'.credentials := by
    rw [Table.mem_def, hissues.credentials]
    exact List.mem_append_right _ (List.mem_singleton.2 rfl)
  refine ⟨?_, ?_, ?_⟩
  · intro c hc
    rw [Table.mem_def, hissues.credentials, List.mem_append, List.mem_singleton] at hc
    rcases hc with hc | rfl
    · exact .inl ⟨c, hc, rfl, fun h => ⟨h, hrevokes c.id⟩⟩
    · exact .inr ⟨_, creates_iff.2 ⟨_, _, _, _, _, _, rfl, h, rfl⟩, h.told, fun r hr => (h.fresh r hr).1⟩
  · intro r hr
    refine ⟨r, ?_, rfl, fun h _ => h⟩
    rw [Table.mem_def, hissues.credentials]
    exact List.mem_append_left _ hr
  · rintro response ⟨bearer', body', drawn', now', hrequest, hreply⟩
    cases hrequest
    rw [(serve_create_created h).1] at hreply
    cases hreply
    refine ⟨credential, hnew, h.told, ?_⟩
    rw [h.credential_eq]
    rfl

/-- The row that is revoked is the one with the id of the request. -/
theorem advances_revoke {credentialId : Uuid}
    (hunique : ∀ c ∈ p.credentials, ∀ r ∈ p.credentials, c.id = r.id → c = r)
    (h : Revoked lib settings p bearer credentialId caller credential)
    (hrevokes : Revokes p p' credential now) :
    Advances std lib settings p p' (.revoke bearer credentialId now) := by
  obtain ⟨hmem, hid⟩ := h.id_eq
  refine ⟨?_, ?_, ?_⟩
  · intro c hc
    rw [hrevokes.credentials] at hc
    obtain ⟨r, hr, rfl⟩ := Table.mem_update.1 hc
    refine .inl ⟨r, hr, by split <;> rfl, ?_⟩
    split
    · intro hactive
      cases hactive
    · rename_i hkey
      refine fun hactive => ⟨hactive, ?_⟩
      rintro ⟨bearer', now', hrequest, -⟩
      cases hrequest
      exact hkey (congrArg ServiceCredential.clientId (hunique r hr credential hmem hid.symm))
  · intro r hr
    rw [hrevokes.credentials]
    refine ⟨_, Table.mem_update.2 ⟨r, hr, rfl⟩, by split <;> rfl, fun hactive hnot => ?_⟩
    split
    · rename_i hkey
      have hr' : r = credential := Table.eq_of_key_eq hr hmem hkey
      refine absurd (revokesId_iff.2 ⟨bearer, now, caller, credential, ?_, ?_⟩) hnot
      · rw [hr', hid]
      · rw [hr', hid]
        exact h
    · exact hactive
  · rintro response ⟨bearer', body', drawn', now', hrequest, -⟩
    cases hrequest

theorem advances_step (std : Stdlib) (lib : TokenLibrary π) (settings : PlatformSettings)
    (hunique : ∀ c ∈ p.credentials, ∀ r ∈ p.credentials, c.id = r.id → c = r) (request : Request) :
    Advances std lib settings p (step std lib settings p request) request := by
  cases request with
  | devToken call =>
    refine advances_of_same ?_ (by rintro _ ⟨_, _, _, _, ⟨⟩, _⟩) (by rintro _ ⟨_, _, ⟨⟩, _⟩)
    by_cases h : DevSigned settings call
    · rw [step_devToken_signed h]
      rfl
    · rw [step_devToken_refused h]
  | exchange call =>
    by_cases h : ∃ credential, Granted std p call credential
    · obtain ⟨credential, hgranted⟩ := h
      exact advances_touched (serve_exchange_granted lib settings hgranted).2.1 (by rintro _ ⟨_, _, _, _, ⟨⟩, _⟩)
        (by rintro _ ⟨_, _, ⟨⟩, _⟩)
    · have hstill := (serve_exchange_refused lib settings
        fun credential hg => h ⟨credential, hg⟩).2
      exact advances_of_same hstill.credentials (by rintro _ ⟨_, _, _, _, ⟨⟩, _⟩)
        (by rintro _ ⟨_, _, ⟨⟩, _⟩)
  | create bearer body drawn now =>
    by_cases h : ∃ caller credential, Created std lib settings p bearer body drawn now caller credential
    · obtain ⟨caller, credential, hcreated⟩ := h
      exact advances_create hcreated (serve_create_created hcreated).2
    · have hstill := (serve_create_refused fun caller credential hc => h ⟨caller, credential, hc⟩).2
      refine advances_of_same hstill.credentials ?_ (by rintro _ ⟨_, _, ⟨⟩, _⟩)
      intro response hcreates
      obtain ⟨_, _, _, _, caller, credential, hrequest, hcreated, -⟩ := creates_iff.1 hcreates
      cases hrequest
      exact h ⟨caller, credential, hcreated⟩
  | list bearer =>
    exact advances_of_same (step_list_still std lib settings p bearer).credentials
      (by rintro _ ⟨_, _, _, _, ⟨⟩, _⟩) (by rintro _ ⟨_, _, ⟨⟩, _⟩)
  | revoke bearer credentialId now =>
    by_cases h : ∃ caller credential, Revoked lib settings p bearer credentialId caller credential
    · obtain ⟨caller, credential, hrevoked⟩ := h
      exact advances_revoke hunique hrevoked (serve_revoke_revoked hrevoked).2
    · have hstill := (serve_revoke_refused std now
        fun caller credential hr => h ⟨caller, credential, hr⟩).2
      refine advances_of_same hstill.credentials (by rintro _ ⟨_, _, _, _, ⟨⟩, _⟩) ?_
      intro id hrevokes
      obtain ⟨_, _, caller, credential, hrequest, hrevoked⟩ := revokesId_iff.1 hrevokes
      cases hrequest
      exact h ⟨caller, credential, hrevoked⟩
  | access bearer required humanOnly =>
    exact advances_of_same (step_access_still std lib settings p bearer required humanOnly).credentials
      (by rintro _ ⟨_, _, _, _, ⟨⟩, _⟩) (by rintro _ ⟨_, _, ⟨⟩, _⟩)

/-- A request creates one credential. -/
theorem Creates.eq {response' : ServiceCredentialCreateResponse}
    (h : Creates std lib settings response p request)
    (h' : Creates std lib settings response' p request) : response = response' := by
  obtain ⟨_, _, _, _, -, hreply⟩ := h
  obtain ⟨_, _, _, _, -, hreply'⟩ := h'
  exact Reply.created.inj (hreply.symm.trans hreply')

/-- Ids stay unique: rows of one id come from one row, or are the one that was added. -/
theorem Advances.unique (h : Advances std lib settings p p' request)
    (hunique : ∀ c ∈ p.credentials, ∀ r ∈ p.credentials, c.id = r.id → c = r) :
    ∀ c ∈ p'.credentials, ∀ d ∈ p'.credentials, c.id = d.id → c = d := by
  intro c hc d hd hid
  have hkey : c.clientId = d.clientId := by
    rcases h.before c hc with ⟨r, hr, hcr, -⟩ | ⟨response, hcreates, htold, hfresh⟩ <;>
      rcases h.before d hd with ⟨t, ht, hdt, -⟩ | ⟨response', hcreates', htold', hfresh'⟩
    · have hcid := (asIssued_eq.1 hcr).1
      have hdid := (asIssued_eq.1 hdt).1
      have hrt : r = t := hunique r hr t ht (by rw [← hcid, ← hdid, hid])
      subst hrt
      exact (asIssued_eq.1 (hcr.trans hdt.symm)).2.2.1
    · exact absurd ((asIssued_eq.1 hcr).1.symm.trans hid) (hfresh' r hr)
    · exact absurd ((asIssued_eq.1 hdt).1.symm.trans hid.symm) (hfresh t ht)
    · rw [htold.clientId, htold'.clientId, hcreates.eq hcreates']
  exact Table.eq_of_key_eq hc hd hkey

/-! ## The run -/

theorem tracked (std : Stdlib) (lib : TokenLibrary π) (settings : PlatformSettings) {start : Platform} (hstart : Fresh start) (requests : List Request) :
    Tracked std lib settings start requests (run (step std lib settings) start requests) := by
  refine run_history (Tracked std lib settings start) ?_ ?_ requests
  · have hnone : ∀ c : ServiceCredential, c ∉ start.credentials := by
      intro c hc
      rw [Table.mem_def, hstart.credentials] at hc
      exact List.not_mem_nil hc
    refine ⟨fun c hc => absurd hc (hnone c), fun c hc => absurd hc (hnone c), ?_⟩
    rintro response ⟨pre, a, post, hnil, -⟩
    cases pre <;> cases hnil
  · intro requests request ih
    have hstep := advances_step std lib settings ih.unique request
    refine ⟨?_, ?_, ?_⟩
    · exact hstep.unique ih.unique
    · intro c hc hactive
      rcases hstep.before c hc with ⟨r, hr, hsame, hkept⟩ | ⟨response, hcreates, htold, -⟩
      · obtain ⟨hractive, hnot⟩ := hkept hactive
        obtain ⟨response, htold, hsince⟩ := ih.issued r hr hractive
        rw [htold.id] at hnot
        exact ⟨response, htold.of_same hsame, hsince.snoc hnot⟩
      · exact ⟨response, htold, since_last hcreates⟩
    · intro response hsince
      rcases since_snoc.1 hsince with hcreates | ⟨hsince, hnot⟩
      · exact hstep.added response hcreates
      · obtain ⟨r, hr, htold, hactive⟩ := ih.active response hsince
        obtain ⟨c, hc, hsame, hkept⟩ := hstep.kept r hr
        rw [← htold.id] at hnot
        exact ⟨c, hc, htold.of_same hsame, hkept hactive hnot⟩

/-- What the exchange hands out for a credential of this response. -/
def exchangedBody (settings : PlatformSettings) (response : ServiceCredentialCreateResponse)
    (call : ExchangeCall) : ServiceTokenExchangeResponse :=
  { accessToken := settings.encode (signedPayload settings response.tenantId response.id []
      response.scopes .SERVICE (some settings.serviceTokenTtlSeconds) none none call.issuedAt call.jti),
    expiresIn := settings.serviceTokenTtlSeconds, scope := " ".intercalate response.scopes }

theorem Told.grantedBody_eq (h : Told std response c) (call : ExchangeCall) :
    grantedBody settings.toSettings c call = exchangedBody settings response call := by
  rw [grantedBody, issueServiceToken_eq, servicePayload, h.id, h.tenantId, h.scopes]
  rfl

/-- An exchange within the rate limits is granted exactly with the secret of a credential that was
created, has not expired, and was not revoked since; it hands out a token for that credential. -/
theorem exchange_granted_iff {start : Platform} (hstart : Fresh start) (requests : List Request)
    (call : ExchangeCall) (body : ServiceTokenExchangeResponse) :
    (serve std lib settings (run (step std lib settings) start requests) (.exchange call)).1 =
        .exchanged body ↔
      withinLimits ⟨(run (step std lib settings) start requests).ledger.store,
        (run (step std lib settings) start requests).limiters⟩ call = true ∧
      ∃ response, Since (step std lib settings) (Creates std lib settings response)
          (RevokesId std lib settings response.id) start requests ∧
        response.clientId = call.clientId ∧
        hashSecret std response.clientSecret = hashSecret std call.clientSecret ∧
        (∀ t ∈ response.expiresAt, call.now < t) ∧ body = exchangedBody settings response call := by
  have htracked : Tracked std lib settings start requests _ := tracked std lib settings hstart requests
  constructor
  · intro h
    by_cases hgranted : ∃ credential,
      Granted std (run (step std lib settings) start requests) call credential
    · obtain ⟨credential, hgranted⟩ := hgranted
      rw [(serve_exchange_granted lib settings hgranted).1] at h
      cases h
      obtain ⟨hsecret, hactive, hexpiry⟩ := denial_eq_none.1 hgranted.accepted
      obtain ⟨response, htold, hsince⟩ := htracked.issued credential hgranted.mem hactive
      refine ⟨hgranted.within, response, hsince, ?_, ?_, ?_, htold.grantedBody_eq call⟩
      · rw [← htold.clientId]
        exact (Table.find?_eq_some.1 hgranted.found).2
      · rw [← htold.secretHash, hsecret]
      · rwa [← htold.expiresAt]
    · obtain ⟨⟨statusCode, detail, hfailed⟩, -⟩ := serve_exchange_refused lib
        settings fun credential hg => hgranted ⟨credential, hg⟩
      rw [hfailed] at h
      cases h
  · rintro ⟨hwithin, response, hsince, hclient, hsecret, hexpiry, rfl⟩
    obtain ⟨c, hc, htold, hactive⟩ := htracked.active response hsince
    have hgranted : Granted std (run (step std lib settings) start requests) call c := by
      refine ⟨hwithin, Table.find?_eq_some.2 ⟨hc, htold.clientId.trans hclient⟩, ?_⟩
      rw [denial_eq_none, htold.secretHash, htold.expiresAt]
      exact ⟨hsecret.symm, hactive, hexpiry⟩
    rw [(serve_exchange_granted lib settings hgranted).1, htold.grantedBody_eq]

/-! ## After a revocation -/

/-- The credential of this id is there, revoked. -/
def Ended (id : Uuid) (p : Platform) : Prop :=
  (∀ c ∈ p.credentials, ∀ r ∈ p.credentials, c.id = r.id → c = r) ∧
    ∃ c ∈ p.credentials, c.id = id ∧ c.isActive = false

theorem Ended.step (h : Ended id p) (request : Request) :
    Ended id (step std lib settings p request) := by
  obtain ⟨hunique, r, hr, hid, hinactive⟩ := h
  have hstep := advances_step std lib settings hunique request
  obtain ⟨c, hc, hsame, -⟩ := hstep.kept r hr
  have hcid : c.id = r.id := (asIssued_eq.1 hsame).1
  refine ⟨hstep.unique hunique, c, hc, hcid.trans hid, ?_⟩
  rcases hstep.before c hc with ⟨r', hr', hsame', hkept⟩ | ⟨_, -, -, hfresh⟩
  · have hrr : r' = r := hunique r' hr' r hr ((asIssued_eq.1 hsame').1.symm.trans hcid)
    rw [hrr] at hkept
    cases hactive : c.isActive with
    | false => rfl
    | true =>
      have hcontra := (hkept hactive).1
      rw [hinactive] at hcontra
      cases hcontra
  · exact absurd hcid.symm (hfresh r hr)

theorem Ended.not_granted (h : Ended id p) {call : ExchangeCall}
    (hgranted : Granted std p call credential) : credential.id ≠ id := by
  intro hid
  obtain ⟨hunique, r, hr, hrid, hinactive⟩ := h
  have hrow : credential = r := hunique _ hgranted.mem r hr (hid.trans hrid.symm)
  have hactive := (denial_eq_none.1 hgranted.accepted).2.1
  rw [hrow, hinactive] at hactive
  cases hactive

theorem ended_of_revokes (hunique : ∀ c ∈ p.credentials, ∀ r ∈ p.credentials, c.id = r.id → c = r)
    (h : RevokesId std lib settings id p request) : Ended id (step std lib settings p request) := by
  have hstep := advances_step std lib settings hunique request
  obtain ⟨bearer, now, caller, credential, rfl, hrevoked⟩ := revokesId_iff.1 h
  obtain ⟨hmem, hid⟩ := hrevoked.id_eq
  refine ⟨hstep.unique hunique, { credential with isActive := false }, ?_, hid, rfl⟩
  rw [(serve_revoke_revoked hrevoked).2.credentials]
  exact Table.mem_update.2 ⟨credential, hmem, (if_pos rfl).symm⟩

/-- After a revocation the exchange grants nothing to the credential, and a request that comes when the
last of its tokens has expired has the credential's context from a script at most. The clock of the
exchange ran before the revocation. -/
theorem revoked_for_good (hlib : lib.Lawful settings dict) {start : Platform} (hstart : Fresh start)
    (pre post : List Request) (revoker : Bearer) (id : Uuid) (now : DateTime)
    (hrevoked : (serve std lib settings (run (step std lib settings) start pre)
      (.revoke revoker id now)).1 = .revoked)
    (hclock : ∀ call, .exchange call ∈ pre → (call.issuedAt : ℚ) ≤ now.micros / 1000000) :
    (∀ call credential, Granted std (run (step std lib settings) start (pre ++ .revoke revoker id now :: post))
      call credential → credential.id ≠ id) ∧
    ∀ request bearer caller, Meets (step std lib settings) (Genuine lib settings) start
        (pre ++ .revoke revoker id now :: post ++ [request]) →
      request.bearer? = some bearer → getTenantContext lib settings bearer = .ok caller →
      (now.micros : ℚ) / 1000000 + settings.serviceTokenTtlSeconds + settings.jwtLeewaySeconds ≤ bearer.now →
      caller.principalId = id →
      ∃ call, .devToken call ∈ pre ++ .revoke revoker id now :: post ∧ DevSigned settings call ∧
        caller = callerOf (call.payload settings) call.principalId call.tenantId call.principalType
          bearer := by
  have hended : ∀ later, Ended id (run (step std lib settings) start (pre ++ .revoke revoker id now :: later)) := by
    intro later
    rw [run_append, run_cons]
    exact run_invariant (fun _ request h => h.step request)
      (ended_of_revokes (tracked std lib settings hstart pre).unique
        ⟨revoker, now, rfl, hrevoked⟩) later
  refine ⟨fun call credential hgranted => (hended post).not_granted hgranted, ?_⟩
  intro request bearer caller hgenuine hbearer hcontext hlate hid
  obtain ⟨hbefore, hrequest, -⟩ := meets_append.1 hgenuine
  obtain ⟨token, htoken⟩ := getTenantContext_token hcontext
  obtain ⟨payload, hsigned, rfl⟩ := hrequest bearer hbearer token htoken ⟨caller, hcontext⟩
  rcases (explained std lib settings hstart _).signed payload hsigned with
    ⟨call, hcall, hdev, rfl⟩ | ⟨row, hsaw⟩
  · exact ⟨call, hcall, hdev,
      ((getTenantContext_signed hlib (readable_dev settings call) htoken).1 hcontext).2⟩
  · obtain ⟨before, -, after, heq, call, credential, rfl, hgranted, rfl, rfl⟩ :=
      saw_last [Issued std lib settings row] hsaw
    rw [heq] at hbefore
    have hthen : Sound (run (step std lib settings) start before) :=
      sound_run hlib (Sound.fresh hstart) (meets_append.1 hbefore).1
    have hread := readable_service settings credential call.issuedAt call.jti (hthen.id_lt _ hgranted.mem)
      (hthen.tenantId_lt _ hgranted.mem)
    obtain ⟨hvalid, rfl⟩ := (getTenantContext_signed hlib hread htoken).1 hcontext
    -- The exchange came before the revocation, so its token has expired, or it was not granted.
    rcases List.append_eq_append_iff.1 heq with ⟨between, rfl, hpost⟩ | ⟨between, rfl, hpost⟩
    · cases between with
      | nil => cases hpost
      | cons a between =>
        obtain ⟨rfl, rfl⟩ := List.cons.inj hpost
        exact absurd hid ((hended between).not_granted hgranted)
    · have hmem : Request.exchange call ∈ before ++ between := by
        cases between with
        | nil => cases hpost
        | cons a between =>
          obtain ⟨rfl, -⟩ := List.cons.inj hpost
          simp
      have hissued := hclock call hmem
      have hlive := hvalid.live
      simp only [servicePayload, signedPayload, Option.getD_some, Int.cast_add] at hlive
      linarith

end

namespace Sample

/-- The answer to the manager. -/
def response : ServiceCredentialCreateResponse :=
  { id := 50, tenantId := 1, name := "vms", clientId := "hrpt_svc_a", clientSecret := "secret",
    scopes := ["prediction:execute"], expiresAt := none }

theorem created_since : Since (stepIn .LOCAL)
    (Creates HermesRpt.Sample.std (library .LOCAL) (platformSettings .LOCAL) response)
    (RevokesId HermesRpt.Sample.std (library .LOCAL) (platformSettings .LOCAL) 50) {}
    [.devToken manager, issueRequest] :=
  ⟨[.devToken manager], issueRequest, [], rfl,
    ⟨_, _, _, _, rfl, (serve_create_created created).1⟩, trivial⟩

def revocation : Request := .revoke (managerBearer .LOCAL) 50 ⟨60000000, 0⟩

theorem revocation_accepted : (serve HermesRpt.Sample.std (library .LOCAL) (platformSettings .LOCAL)
    (run (stepIn .LOCAL) {} history) revocation).1 = .revoked := by
  have hrows := (serve_exchange_granted (library .LOCAL) (platformSettings .LOCAL) issued_granted).2.1
  have hrevoked : Revoked (library .LOCAL) (platformSettings .LOCAL) (run (stepIn .LOCAL) {} history)
      (managerBearer .LOCAL) 50 _ { row with lastUsedAt := some ⟨0, 0⟩ } := ⟨authorized, ?_, rfl⟩
  · exact (serve_revoke_revoked hrevoked).1
  refine (congrArg (fun t : Table ServiceCredential => t.rows.find? (·.id = 50)) hrows).trans ?_
  show List.find? _ (List.map _ (stepIn .LOCAL (stepIn .LOCAL {} (.devToken manager))
    issueRequest).credentials.rows) = _
  rw [issued.credentials, managed]
  rfl

end Sample

/-- The secret of the sample is exchanged. -/
theorem exchange_granted_iff_issued :
    (serve HermesRpt.Sample.std (Sample.library .LOCAL) (Sample.platformSettings .LOCAL)
      (run (Sample.stepIn .LOCAL) {} [.devToken Sample.manager, Sample.issueRequest])
      (.exchange Sample.exchange)).1 =
        .exchanged (exchangedBody (Sample.platformSettings .LOCAL) Sample.response Sample.exchange) :=
  (exchange_granted_iff ⟨rfl, rfl⟩ _ Sample.exchange _).2
    ⟨Sample.issued_granted.within, Sample.response, Sample.created_since, rfl, rfl, nofun, rfl⟩

/-- After the revocation of the sample the secret is worth nothing. -/
theorem revoked_for_good_sample : ¬∃ credential, Granted HermesRpt.Sample.std
      (run (Sample.stepIn .LOCAL) {} (Sample.history ++ Sample.revocation :: [])) Sample.exchange
      credential ∧ credential.id = 50 := by
  rintro ⟨credential, hgranted, hid⟩
  exact (revoked_for_good (Sample.lawful_library .LOCAL) ⟨rfl, rfl⟩ Sample.history []
    (Sample.managerBearer .LOCAL) 50 ⟨60000000, 0⟩ Sample.revocation_accepted (by
      intro call hcall
      obtain rfl : call = Sample.exchange := by simpa [Sample.history, Sample.issueRequest] using hcall
      norm_num [Sample.exchange])).1 Sample.exchange credential hgranted hid

end Auth

end HermesRpt
