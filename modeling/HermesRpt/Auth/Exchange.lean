import HermesRpt.Auth.Service
import HermesRpt.System

/-!
# HermesRpt.Auth.Exchange

What a token exchange leaves in the audit log. The endpoint commits its session on every way out but
one: a denial is raised through it, and the session is closed with the denial's event in it.

* `denial`         : why a credential that was found is refused.
* `committedEvent` : the one event that a request leaves.
* `respond_audit`  : a request adds exactly that event to the log.
* `denied_exchange_unrecorded` : a denial with a credential that was found is not on record.
-/

namespace HermesRpt

namespace Auth

open Keyed (Table Dict)
open Transaction UnitOfWork Effect

section

variable {std : Stdlib} {settings : Settings} {api : Api} {call : ExchangeCall} {store : Store}
  {credential : ServiceCredential} {reason : String}

/-- The first of the three checks that the exchange fails. -/
def denial (std : Stdlib) (credential : ServiceCredential) (clientSecret : String) (now : DateTime) :
    Option String :=
  if hashSecret std clientSecret ≠ credential.secretHash then some "wrong_secret"
  else if ¬credential.isActive then some "revoked"
  else if credential.expiresAt.any (· ≤ now) then some "expired"
  else none

def withinLimits (api : Api) (call : ExchangeCall) : Bool :=
  (api.limiters.check call.clientNow call.ipNow call.clientId
    (call.clientHost.getD "unknown")).1

/-- The event that a request leaves in the log. -/
def committedEvent (std : Stdlib) (api : Api) (call : ExchangeCall) : AuditEvent :=
  if ¬withinLimits api call then anonymousEvent "rate_limited"
  else match api.store.credentials.find? call.clientId with
    | none => failureEvent call "service_credential_not_found"
    | some credential => match denial std credential call.clientSecret call.now with
      | some reason => failureEvent call ("service_credential_" ++ reason)
      | none => exchangeEvent credential .SUCCESS []

/-! ## The session of the request -/

theorem recordEvent_apply (event : AuditEvent) (w : Work Store) :
    recordEvent event w =
      (.ok (), { w with view := { w.view with audit := w.view.audit ++ [event] } }) :=
  flush_ok (write_ok.2 rfl)

theorem touch_apply (credential : ServiceCredential) (now : DateTime) (w : Work Store) :
    touch credential now w =
      (.ok (), { w with view := { w.view with
        credentials := w.view.credentials.update credential.clientId
          (fun r => { r with lastUsedAt := some now }) (fun _ => rfl) } }) :=
  flush_ok (write_ok.2 rfl)

/-- A denial is raised, and its event is left to the session. -/
theorem deny_apply {α : Type} (credential : ServiceCredential) (reason : String) (w : Work Store) :
    (deny credential reason : InSession Store Raised α) w =
      (.error (.AuthenticationError ("service_credential_" ++ reason)),
        { w with view := { w.view with audit := w.view.audit ++
          [exchangeEvent credential .DENIED [("reason", some (.str reason))]] } }) :=
  Process.bind_ok (recordEvent_apply _ _)

theorem authenticate_unknown (std : Stdlib) {w : Work Store}
    (h : w.view.credentials.find? call.clientId = none) :
    ∃ view, authenticate std call.clientId call.clientSecret call.now w =
      (.error (.AuthenticationError "service_credential_not_found"), { w with view }) := by
  unfold authenticate
  rw [flush_bind_ok (a := none) (s := w.view) (read_ok.2 ⟨congrArg _ h, rfl⟩)]
  exact ⟨_, Process.bind_ok (recordEvent_apply _ _)⟩

/-- The three checks in a row give the same denials as `denial`. -/
theorem authenticate_found {w : Work Store}
    (h : w.view.credentials.find? call.clientId = some credential) :
    authenticate std call.clientId call.clientSecret call.now w =
      (match denial std credential call.clientSecret call.now with
        | some reason => deny credential reason
        | none => do
          touch credential call.now
          recordEvent (exchangeEvent credential .SUCCESS [])
          return { credential with lastUsedAt := some call.now }) w := by
  unfold authenticate
  rw [flush_bind_ok (a := some credential) (s := w.view) (read_ok.2 ⟨congrArg _ h, rfl⟩)]
  unfold denial
  dsimp only
  split_ifs <;> rfl

theorem authenticate_denied {w : Work Store}
    (h : w.view.credentials.find? call.clientId = some credential)
    (hd : denial std credential call.clientSecret call.now = some reason) :
    ∃ view, authenticate std call.clientId call.clientSecret call.now w =
      (.error (.AuthenticationError ("service_credential_" ++ reason)), { w with view }) := by
  rw [authenticate_found h, hd]
  exact ⟨_, deny_apply credential reason w⟩

/-- A request within the limits whose credential is refused commits nothing. -/
theorem session_denied {e : Raised} {view : Store}
    (h : authenticate std call.clientId call.clientSecret call.now ⟨store, store⟩ =
      (.error e, ⟨store, view⟩)) :
    session (exchangeServiceToken std settings call true) store = (.error e, store) := by
  unfold session exchangeServiceToken
  rw [if_neg (by decide), Process.bind_error h]

theorem session_recordFailure (call : ExchangeCall) (reason : String) (store : Store) :
    (session (recordFailure call reason) store).2 =
      { store with audit := store.audit ++ [failureEvent call reason] } := by
  unfold session recordFailure
  rw [Process.bind_ok (recordEvent_apply _ _)]
  rfl

theorem session_limited (store : Store) :
    session (exchangeServiceToken std settings call false) store =
      (.error (.HTTPException 429 "Too many requests."),
        { store with audit := store.audit ++ [anonymousEvent "rate_limited"] }) := by
  unfold session exchangeServiceToken
  rw [if_pos (by decide), Process.bind_ok (recordEvent_apply _ _)]
  rfl

/-- A granted exchange commits the use of the credential with its event. -/
theorem session_granted (settings : Settings)
    (h : store.credentials.find? call.clientId = some credential)
    (hd : denial std credential call.clientSecret call.now = none) :
    ∃ body credentials, session (exchangeServiceToken std settings call true) store =
      (.ok body, { credentials, audit := store.audit ++ [exchangeEvent credential .SUCCESS []] }) := by
  have hgrant : ∃ view : Store, authenticate std call.clientId call.clientSecret call.now ⟨store, store⟩ =
      (.ok { credential with lastUsedAt := some call.now }, ⟨store, view⟩) ∧
      view.audit = store.audit ++ [exchangeEvent credential .SUCCESS []] := by
    rw [authenticate_found h, hd]
    refine ⟨_, (Process.bind_ok (touch_apply _ _ _)).trans
      (Process.bind_ok (recordEvent_apply _ _)), ?_⟩
    rfl
  obtain ⟨view, hgrant, haudit⟩ := hgrant
  unfold session exchangeServiceToken
  rw [if_neg (by decide), Process.bind_ok hgrant]
  exact ⟨_, view.credentials, by rw [← haudit]; rfl⟩

/-! ## The log -/

theorem respond_audit (std : Stdlib) (settings : Settings) (api : Api) (call : ExchangeCall) :
    (respond std settings api call).2.store.audit =
      api.store.audit ++ [committedEvent std api call] := by
  unfold respond committedEvent
  rcases hl : api.limiters.check call.clientNow call.ipNow call.clientId
    (call.clientHost.getD "unknown") with ⟨within, limiters⟩
  have hwithin : withinLimits api call = within := by rw [withinLimits, hl]
  rw [hwithin]
  cases within with
  | false => simp [session_limited]
  | true =>
    cases hf : api.store.credentials.find? call.clientId with
    | none =>
      obtain ⟨view, hu⟩ := authenticate_unknown std (w := ⟨api.store, api.store⟩) hf
      simp [session_denied hu, session_recordFailure]
    | some credential =>
      cases hd : denial std credential call.clientSecret call.now with
      | some reason =>
        obtain ⟨view, hdeny⟩ := authenticate_denied (w := ⟨api.store, api.store⟩) hf hd
        simp [session_denied hdeny, session_recordFailure, hd]
      | none =>
        obtain ⟨body, credentials, hg⟩ := session_granted settings hf hd
        simp [hg, hd]

/-- The denial of the exchange is on record: an event that came with the request names the
credential, its tenant and the reason. -/
def OnRecord (before after : Store) (credential : ServiceCredential) (reason : String) : Prop :=
  ∃ event ∈ after.audit.drop before.audit.length,
    event.outcome = .DENIED ∧ event.tenantId = some credential.tenantId ∧
      (event.resourceId = some credential.id ∨ event.principalId = some credential.id) ∧
      ("reason", some (.str reason)) ∈ event.details

/-- The request is refused after its credential was found. -/
structure Denied (std : Stdlib) (api : Api) (call : ExchangeCall) (credential : ServiceCredential)
    (reason : String) : Prop where
  within : withinLimits api call = true
  found : api.store.credentials.find? call.clientId = some credential
  denied : denial std credential call.clientSecret call.now = some reason

theorem denied_exchange_unrecorded (std : Stdlib) (settings : Settings) (api : Api)
    (call : ExchangeCall) (credential : ServiceCredential) (reason : String)
    (h : Denied std api call credential reason) :
    ¬OnRecord api.store (respond std settings api call).2.store credential reason := by
  rintro ⟨event, hevent, -, htenant, -⟩
  rw [respond_audit, List.drop_left, List.mem_singleton] at hevent
  rw [hevent, committedEvent, if_neg (by simp [h.within]), h.found] at htenant
  simp only [h.denied] at htenant
  cases htenant

end

/-! One credential, and an exchange with another secret. -/

namespace Sample

def credential : ServiceCredential :=
  { id := 50, tenantId := 1, clientId := "hrpt_svc_a", secretHash := "right" }

def api : Api := { store := { credentials := ⟨[credential], by decide⟩ } }

def settings : Settings := { encode := fun payload => payload.jti }

def wrongSecret : ExchangeCall :=
  { clientId := "hrpt_svc_a", clientSecret := "wrong", clientNow := 100, ipNow := 100,
    now := ⟨0, 0⟩, issuedAt := 0, jti := "" }

theorem denied_wrongSecret :
    Denied HermesRpt.Sample.std api wrongSecret credential "wrong_secret" :=
  ⟨by decide +kernel, rfl, rfl⟩

end Sample

/-- The request is refused and its event names neither the credential nor the tenant. -/
theorem wrong_secret_unrecorded :
    (respond HermesRpt.Sample.std Sample.settings Sample.api Sample.wrongSecret).1 =
        .failed 401 "Authentication required." ∧
      Denied HermesRpt.Sample.std Sample.api Sample.wrongSecret Sample.credential "wrong_secret" ∧
      ¬OnRecord Sample.api.store (respond HermesRpt.Sample.std Sample.settings Sample.api
        Sample.wrongSecret).2.store Sample.credential "wrong_secret" := by
  refine ⟨by decide +kernel, Sample.denied_wrongSecret, ?_⟩
  rintro ⟨event, hevent, -, htenant, -⟩
  rw [respond_audit, List.drop_left, List.mem_singleton] at hevent
  rw [hevent] at htenant
  revert htenant
  decide +kernel

/-- The same request, through the general result. -/
theorem denied_exchange_unrecorded_sample :
    ¬OnRecord Sample.api.store (respond HermesRpt.Sample.std Sample.settings Sample.api
      Sample.wrongSecret).2.store Sample.credential "wrong_secret" :=
  denied_exchange_unrecorded HermesRpt.Sample.std Sample.settings Sample.api Sample.wrongSecret
    Sample.credential "wrong_secret" Sample.denied_wrongSecret

end Auth

end HermesRpt
