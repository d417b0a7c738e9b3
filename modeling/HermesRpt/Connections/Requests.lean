import HermesRpt.Connections.Replies
import HermesRpt.Connections.Rows

/-!
# HermesRpt.Connections.Requests

Requests one after the other. A request may fail at any of its steps; what it has flushed is lost
then, and what it did to the secrets and the pool stays.

* `Attempt`     : a request, and where it fails if it does.
* `respond`     : its result, what it performed, and the state it leaves.
* `stateAfter`  : the state after a sequence of attempts.
* `*_ok`        : what a request that succeeds has done.
* `row_of_ok`   : what it does to the connections: to one row at most, and to no column but those
  that its method assigns.
-/

namespace HermesRpt

namespace Connections

open Connectors Keyed Machine
open Async Code

structure Attempt where
  request : Request
  /-- After how many of its effects the request fails, if it does. -/
  fault : Option Nat := none

/-- Whatever is raised when a step fails, it is not the request's own error. -/
def Attempt.failing (a : Attempt) (tr : Trace Reply) : Option PyError :=
  if a.fault = some tr.length then some ⟨.DatabaseError, ""⟩ else none

def respond (s : Shared) (a : Attempt) : Except PyError Response × Trace Reply × Shared :=
  serve handle a.failing [] (program a.request) s

/-- The state an attempt leaves. -/
def after (s : Shared) (a : Attempt) : Shared := (respond s a).2.2

def stateAfter (s : Shared) (as : List Attempt) : Shared := run after s as

def Succeeds (s : Shared) (a : Attempt) : Prop := ∃ response, (respond s a).1 = .ok response

theorem Succeeds.respond_eq {s : Shared} {a : Attempt} (h : Succeeds s a) :
    ∃ response tr, respond s a = (.ok response, tr, after s a) := by
  obtain ⟨response, hr⟩ := h
  exact ⟨response, (respond s a).2.1, by rw [← hr]; rfl⟩

/-- Until its commit a request changes nothing that is committed. -/
theorem db_of_uncommitted {s : Shared} {a : Attempt} (h : ¬HasCommitted (respond s a).2.1) :
    (after s a).db = s.db := by
  refine (serve_invariant (h := handle) (I := fun tr s' => HasCommitted tr ∨ s'.db = s.db)
    (fun tr e s₁ r s₂ hs _ _ hr => ?_) (program_safe a.request) (.inr rfl)).resolve_left h
  rcases hs with hs | hs
  · exact .inl (List.mem_append_left _ hs)
  · by_cases he : e = .commit
    · subst he
      exact .inl (by simp [HasCommitted])
    · exact .inr ((db_of_replied hr he).trans hs)

theorem uncommitted_of_error {s : Shared} {a : Attempt} {err : PyError}
    (h : (respond s a).1 = .error err) : ¬HasCommitted (respond s a).2.1 := by
  have hr : serve handle a.failing [] (program a.request) s =
      (.error err, (respond s a).2.1, after s a) := by
    rw [← h]
    rfl
  rcases serve_ends (program_safe a.request) hr with hend | ⟨-, -, e, hasserts⟩
  · exact hend.2.1 err rfl
  · exact hasserts.1

/-- A request that raises leaves the database as it was. -/
theorem after_db_of_fails {s : Shared} {a : Attempt} (h : ¬Succeeds s a) :
    (after s a).db = s.db := by
  cases hr : (respond s a).1 with
  | ok response => exact absurd ⟨response, hr⟩ h
  | error err => exact db_of_uncommitted (uncommitted_of_error hr)

/-! ## What a request that succeeds has done -/

section

variable {s s' : Shared} {ctx : TenantContext} {connectionId : Uuid} {fault : Option Nat}
  {response : Response} {tr : Trace Reply}

/-- The statements of a session, one after the other, up to the record of the event. -/
theorem applyWrites_audit_ok {db db' : ControlPlane} (ws : List Write) {ctx : TenantContext}
    {action : String} {outcome : AuditOutcome} {id : Uuid} {details : List (String × Option Value)}
    (h : applyWrites db (ws ++ [.audit ctx action outcome id details]) = .ok db') :
    ∃ db₁, applyWrites db ws = .ok db₁ ∧ db' = { db₁ with audit := db'.audit } := by
  rw [applyWrites, List.foldlM_append] at h
  obtain ⟨db₁, hws, h⟩ := Effect.except_bind_ok.1 h
  simp only [List.foldlM_cons, List.foldlM_nil] at h
  obtain ⟨db₂, ha, h⟩ := Effect.except_bind_ok.1 h
  cases h
  cases ha
  exact ⟨db₁, hws, rfl⟩

attribute [local simp] respond program commitThen serve_await_ok serve_done_ok

theorem register_ok {body : ConnectionRegisterRequest} {secretId credentialId : Uuid}
    (h : respond s ⟨.registerConnection ctx body secretId credentialId connectionId, fault⟩ =
      (.ok response, tr, s')) :
    ∃ db, applyWrites s.db [
        .addCredential ctx (newCredential ctx credentialId "local_dev" (referenceKeyOf secretId)),
        .addConnection ctx (body.connection ctx connectionId credentialId)] = .ok db ∧
      s' = { s with
        db := { db with audit := s'.db.audit }
        secrets := s.secrets.set (referenceKeyOf secretId) body.secretValue } := by
  simp [registerConnection] at h
  obtain ⟨-, key, s₁, h₁, -, u₂, s₂, h₂, -, u₃, s₃, h₃, -, u₄, s₄, h₄, -, u₅, h₅, -⟩ := h
  cases h₁
  cases flush_replied h₂
  cases flush_replied h₃
  cases flush_replied h₄
  obtain ⟨db, hws, rfl⟩ := commit_replied h₅
  obtain ⟨db₁, hws, hdb⟩ := applyWrites_audit_ok [_, _] hws
  exact ⟨db₁, hws, by rw [hdb]⟩

theorem getOrCreateEngine_ok
    (h : respond s ⟨.getOrCreateEngine connectionId ctx, fault⟩ = (.ok response, tr, s')) :
    ∃ connection engine, response = .engine connection engine ∧
      s.db.connections.find? connectionId = some connection ∧ connection.tenantId = ctx.tenantId ∧
      connection.status ≠ .DISABLED ∧ s'.db = s.db ∧ s'.secrets = s.secrets := by
  simp [getOrCreateEngineMethod, resolveEngine] at h
  obtain ⟨-, row, s₁, h₁, h⟩ := h
  obtain ⟨hrow, htenant, rfl⟩ := requireConnection_replied h₁
  split at h
  · simp at h
  · rename_i hstatus
    simp at h
    obtain ⟨-, credential, s₂, h₂, -, password, s₃, h₃, -, engine, h₄, rfl, -⟩ := h
    obtain ⟨-, -, rfl⟩ := requireCredential_replied h₂
    obtain ⟨-, rfl⟩ := resolve_replied h₃
    refine ⟨row, engine, rfl, hrow, htenant, hstatus, db_of_replied h₄ (by simp), ?_⟩
    rcases getOrCreate_replied h₄ with ⟨-, rfl⟩ | ⟨-, -, rfl⟩ <;> rfl

/-- The engine that is checked was in the pool, or is built from the connection as it is. -/
theorem validate_ok {checkedAt : DateTime} {failure : Option String}
    (h : respond s ⟨.validateConnection connectionId ctx checkedAt failure, fault⟩ =
      (.ok response, tr, s')) :
    ∃ connection engine db, s.db.connections.find? connectionId = some connection ∧
      connection.tenantId = ctx.tenantId ∧
      (s.pool.get? (ctx.tenantId, connectionId) = some engine ∨
        engine.connection = connection ∧
          engine.credential.id = connection.credentialReferenceId) ∧
      ⟨.checkConnectivity engine failure, failure⟩ ∈ tr ∧
      applyWrites s.db [.updateConnection connection
        (healthCheckResult checkedAt failure).changes] = .ok db ∧
      s'.db = { db with audit := s'.db.audit } ∧ s'.secrets = s.secrets := by
  simp [validateConnection, resolveEngine, check] at h
  obtain ⟨-, connection, s₁, h₁, -, credential, s₂, h₂, -, password, s₃, h₃, -, engine, s₄, h₄, -,
    raised, s₅, h₅, -, u₆, s₆, h₆, -, u₇, h₇, htr⟩ := h
  obtain ⟨hrow, htenant, rfl⟩ := requireConnection_replied h₁
  obtain ⟨hcredential, -, rfl⟩ := requireCredential_replied h₂
  obtain ⟨-, rfl⟩ := resolve_replied h₃
  have hid : connection.id = connectionId := (Table.find?_eq_some.1 hrow).2
  have hengine : s₃.pool.get? (ctx.tenantId, connectionId) = some engine ∨
      engine.connection = connection ∧
        engine.credential.id = connection.credentialReferenceId := by
    rw [hid] at h₄
    rcases getOrCreate_replied h₄ with ⟨hp, -⟩ | ⟨-, rfl, -⟩
    · exact .inl hp
    · exact .inr ⟨rfl, (Table.find?_eq_some.1 hcredential).2⟩
  have hdb := db_of_replied h₄ (by simp)
  have hsecrets : s₄.secrets = s₃.secrets := by
    rcases getOrCreate_replied h₄ with ⟨-, rfl⟩ | ⟨-, -, rfl⟩ <;> rfl
  cases h₅
  cases flush_replied h₆
  obtain ⟨db, hws, rfl⟩ := commit_replied h₇
  obtain ⟨db₁, hws, hdb₁⟩ := applyWrites_audit_ok [_] hws
  refine ⟨connection, engine, db₁, hrow, htenant, hengine, ?_, ?_, hdb₁, hsecrets⟩
  · rw [htr.2]
    simp
  · rw [← hdb]
    exact hws

theorem enable_ok (h : respond s ⟨.enableConnection connectionId ctx, fault⟩ =
      (.ok response, tr, s')) :
    ∃ connection db, s.db.connections.find? connectionId = some connection ∧
      connection.tenantId = ctx.tenantId ∧
      applyWrites s.db [.updateConnection connection { status := some .ACTIVE }] = .ok db ∧
      s' = { s with db := { db with audit := s'.db.audit } } := by
  simp [enableConnection] at h
  obtain ⟨-, connection, s₁, h₁, h⟩ := h
  obtain ⟨hrow, htenant, rfl⟩ := requireConnection_replied h₁
  split at h
  · simp at h
  · simp at h
    obtain ⟨-, u₂, s₂, h₂, -, u₃, h₃, -⟩ := h
    cases flush_replied h₂
    obtain ⟨db, hws, rfl⟩ := commit_replied h₃
    obtain ⟨db₁, hws, hdb₁⟩ := applyWrites_audit_ok [_] hws
    exact ⟨connection, db₁, hrow, htenant, hws, by rw [hdb₁]⟩

theorem disable_ok (h : respond s ⟨.disableConnection connectionId ctx, fault⟩ =
      (.ok response, tr, s')) :
    ∃ connection db, s.db.connections.find? connectionId = some connection ∧
      connection.tenantId = ctx.tenantId ∧
      applyWrites s.db [.updateConnection connection { status := some .DISABLED }] = .ok db ∧
      s' = { s with
        db := { db with audit := s'.db.audit }
        pool := s.pool.erase (ctx.tenantId, connection.id) } := by
  simp [disableConnection] at h
  obtain ⟨-, connection, s₁, h₁, -, u₂, s₂, h₂, -, u₃, s₃, h₃, -, u₄, h₄, -⟩ := h
  obtain ⟨hrow, htenant, rfl⟩ := requireConnection_replied h₁
  cases h₂
  cases flush_replied h₃
  obtain ⟨db, hws, rfl⟩ := commit_replied h₄
  obtain ⟨db₁, hws, hdb₁⟩ := applyWrites_audit_ok [_] hws
  exact ⟨connection, db₁, hrow, htenant, hws, by rw [hdb₁]⟩

/-- The new secret is stored before the old one is deleted. -/
theorem rotate_ok {newSecretValue : String} {secretId credentialId : Uuid} {now : DateTime}
    (h : respond s ⟨.rotateSecret connectionId ctx newSecretValue secretId credentialId now, fault⟩ =
      (.ok response, tr, s')) :
    ∃ connection old db, s.db.connections.find? connectionId = some connection ∧
      connection.tenantId = ctx.tenantId ∧
      s.db.credentials.find? connection.credentialReferenceId = some old ∧
      applyWrites s.db [
        .addCredential ctx (newCredential ctx credentialId old.provider (referenceKeyOf secretId)),
        .retireCredential old.id now, .updateConnection connection (rotated credentialId)] =
          .ok db ∧
      s' = { s with
        db := { db with audit := s'.db.audit }
        secrets := (s.secrets.set (referenceKeyOf secretId) newSecretValue).erase old.referenceKey
        pool := s.pool.erase (ctx.tenantId, connection.id) } := by
  simp [rotateSecret] at h
  obtain ⟨-, connection, s₁, h₁, -, old, s₂, h₂, -, key, s₃, h₃, -, u₄, s₄, h₄, -, u₅, s₅, h₅, -,
    u₆, s₆, h₆, -, u₇, s₇, h₇, -, u₈, h₈, -⟩ := h
  obtain ⟨hrow, htenant, rfl⟩ := requireConnection_replied h₁
  obtain ⟨hold, -, rfl⟩ := requireCredential_replied h₂
  cases h₃
  cases flush_replied h₄
  cases h₅
  cases h₆
  cases flush_replied h₇
  obtain ⟨db, hws, rfl⟩ := commit_replied h₈
  obtain ⟨db₁, hws, hdb₁⟩ := applyWrites_audit_ok [_, _, _] hws
  exact ⟨connection, old, db₁, hrow, htenant, hold, hws, by rw [hdb₁]⟩

/-- The credential and its secret go with the connection, when the tenant owns the credential. -/
theorem delete_ok (h : respond s ⟨.deleteConnection connectionId ctx, fault⟩ =
      (.ok response, tr, s')) :
    ∃ connection db, s.db.connections.find? connectionId = some connection ∧
      connection.tenantId = ctx.tenantId ∧
      match (get s.db connection.credentialReferenceId ctx : Option DatabaseCredentialReference) with
      | some credential =>
        applyWrites s.db [.deleteConnection connection, .deleteCredential credential.id] = .ok db ∧
          s' = { s with
            db := { db with audit := s'.db.audit }
            secrets := s.secrets.erase credential.referenceKey
            pool := s.pool.erase (ctx.tenantId, connection.id) }
      | none =>
        applyWrites s.db [.deleteConnection connection] = .ok db ∧
          s' = { s with
            db := { db with audit := s'.db.audit }
            pool := s.pool.erase (ctx.tenantId, connection.id) } := by
  simp [deleteConnectionMethod] at h
  obtain ⟨-, connection, s₁, h₁, -, credential, s₂, h₂, -, u₃, s₃, h₃, -, u₄, s₄, h₄, h⟩ := h
  obtain ⟨hrow, htenant, rfl⟩ := requireConnection_replied h₁
  cases h₂
  cases h₃
  cases flush_replied h₄
  cases hc : (get s₁.db connection.credentialReferenceId ctx :
    Option DatabaseCredentialReference) with
  | some credential =>
    simp [hc] at h
    obtain ⟨-, u₅, s₅, h₅, -, u₆, s₆, h₆, -, u₇, s₇, h₇, -, u₈, h₈, -⟩ := h
    cases flush_replied h₅
    cases h₆
    cases flush_replied h₇
    obtain ⟨db, hws, rfl⟩ := commit_replied h₈
    obtain ⟨db₁, hws, hdb₁⟩ := applyWrites_audit_ok [_, _] hws
    refine ⟨connection, db₁, hrow, htenant, ?_⟩
    rw [hc]
    exact ⟨hws, by rw [hdb₁]⟩
  | none =>
    simp [hc] at h
    obtain ⟨-, u₅, s₅, h₅, -, u₆, h₆, -⟩ := h
    cases flush_replied h₅
    obtain ⟨db, hws, rfl⟩ := commit_replied h₆
    obtain ⟨db₁, hws, hdb₁⟩ := applyWrites_audit_ok [_] hws
    refine ⟨connection, db₁, hrow, htenant, ?_⟩
    rw [hc]
    exact ⟨hws, by rw [hdb₁]⟩

/-! ## The connections after a request -/

/-- What the method assigns on the connection it has read. -/
def changesOf : Request → Option ConnectionChanges
  | .validateConnection _ _ checkedAt failure => some (healthCheckResult checkedAt failure).changes
  | .enableConnection _ _ => some { status := some .ACTIVE }
  | .disableConnection _ _ => some { status := some .DISABLED }
  | .rotateSecret _ _ _ _ credentialId _ => some (rotated credentialId)
  | _ => none

theorem applyWrites_cons_ok {db db' : ControlPlane} {w : Write} {ws : List Write} :
    applyWrites db (w :: ws) = .ok db' ↔
      ∃ db₁, applyWrite db w = .ok db₁ ∧ applyWrites db₁ ws = .ok db' := by
  rw [applyWrites, List.foldlM_cons, Effect.except_bind_ok]
  rfl

theorem applyWrites_nil_ok {db db' : ControlPlane} : applyWrites db [] = .ok db' ↔ db = db' :=
  Effect.except_pure_ok

/-- The request only reads its connection. -/
def Reads : Request → Prop
  | .getOrCreateEngine .. => True
  | _ => False

/-- A request changes one connection at most: it adds the row, assigns its method's columns to it,
or deletes it. -/
inductive RowStep (s : Shared) (request : Request) (s' : Shared) (c : Uuid) : Prop where
  | same (hother : c = connectionOf request → Reads request)
      (h : s'.db.connections.find? c = s.db.connections.find? c)
  | registered (hc : c = connectionOf request) (hr : Registers request)
      (row' : CustomerDatabaseConnection) (h : s'.db.connections.find? c = some row')
      (hs : row'.status = .PENDING_VALIDATION)
      (ht : row'.tenantId = (callerContext request).tenantId)
  | changed (hc : c = connectionOf request) (row : CustomerDatabaseConnection)
      (changes : ConnectionChanges) (hch : changesOf request = some changes)
      (hrow : s.db.connections.find? c = some row)
      (h : s'.db.connections.find? c = some (written changes row))
      (ht : row.tenantId = (callerContext request).tenantId)
  | deleted (hc : c = connectionOf request) (h : s'.db.connections.find? c = none)

theorem rowStep_of_update {db db' : ControlPlane} {request : Request} {c : Uuid}
    {row : CustomerDatabaseConnection} {changes : ConnectionChanges}
    (hrow : s.db.connections.find? (connectionOf request) = some row)
    (htenant : row.tenantId = (callerContext request).tenantId)
    (hch : changesOf request = some changes) (hbase : db.connections = s.db.connections)
    (h : applyWrites db [.updateConnection row changes] = .ok db')
    (hdb : s'.db.connections = db'.connections) : RowStep s request s' c := by
  obtain ⟨db₁, h, hws⟩ := applyWrites_cons_ok.1 h
  cases applyWrites_nil_ok.1 hws
  have hid : row.id = connectionOf request := (Table.find?_eq_some.1 hrow).2
  have hfind : s'.db.connections.find? c =
      if c = row.id then some (written changes row) else s.db.connections.find? c := by
    rw [hdb, ← hbase]
    exact find?_updateConnection (by rw [hbase, hid, hrow]) h
  rw [hid] at hfind
  by_cases hc : c = connectionOf request
  · rw [if_pos hc] at hfind
    exact .changed hc row changes hch (hc ▸ hrow) hfind htenant
  · rw [if_neg hc] at hfind
    exact .same (fun h => absurd h hc) hfind

theorem rowStep_of_delete {db db' : ControlPlane} {request : Request} {c : Uuid}
    {row : CustomerDatabaseConnection}
    (hrow : s.db.connections.find? (connectionOf request) = some row)
    (h : applyWrite s.db (.deleteConnection row) = .ok db)
    (hbase : db'.connections = db.connections) (hdb : s'.db.connections = db'.connections) :
    RowStep s request s' c := by
  have hid : row.id = connectionOf request := (Table.find?_eq_some.1 hrow).2
  have hfind : s'.db.connections.find? c =
      if c = row.id then none else s.db.connections.find? c := by
    rw [hdb, hbase, deleteConnection_ok h, Table.find?_erase]
  rw [hid] at hfind
  by_cases hc : c = connectionOf request
  · rw [if_pos hc] at hfind
    exact .deleted hc hfind
  · rw [if_neg hc] at hfind
    exact .same (fun h => absurd h hc) hfind

theorem row_of_ok {a : Attempt} (h : respond s a = (.ok response, tr, s')) (c : Uuid) :
    RowStep s a.request s' c := by
  obtain ⟨request, fault⟩ := a
  cases request with
  | registerConnection ctx body secretId credentialId connectionId =>
    obtain ⟨db, hws, hs⟩ := register_ok h
    obtain ⟨db₁, h₁, hws⟩ := applyWrites_cons_ok.1 hws
    obtain ⟨db₂, h₂, hws⟩ := applyWrites_cons_ok.1 hws
    cases applyWrites_nil_ok.1 hws
    have hfind : s'.db.connections.find? c =
        if connectionId = c then some (body.connection ctx connectionId credentialId)
        else s.db.connections.find? c := by
      rw [hs, ← connections_of_applyWrite h₁ fun hn => hn]
      exact (addConnection_ok h₂).2 c
    by_cases hc : c = connectionId
    · rw [if_pos hc.symm] at hfind
      exact .registered hc trivial _ hfind rfl rfl
    · rw [if_neg (Ne.symm hc)] at hfind
      exact .same (fun h => absurd h hc) hfind
  | getOrCreateEngine connectionId ctx =>
    obtain ⟨connection, engine, -, -, -, -, hdb, -⟩ := getOrCreateEngine_ok h
    exact .same (fun _ => trivial) (by rw [hdb])
  | validateConnection connectionId ctx checkedAt failure =>
    obtain ⟨row, engine, db, hrow, htenant, -, -, hws, hdb, -⟩ := validate_ok h
    exact rowStep_of_update hrow htenant rfl rfl hws (by rw [hdb])
  | enableConnection connectionId ctx =>
    obtain ⟨row, db, hrow, htenant, hws, hs⟩ := enable_ok h
    exact rowStep_of_update hrow htenant rfl rfl hws (by rw [hs])
  | disableConnection connectionId ctx =>
    obtain ⟨row, db, hrow, htenant, hws, hs⟩ := disable_ok h
    exact rowStep_of_update hrow htenant rfl rfl hws (by rw [hs])
  | rotateSecret connectionId ctx newSecretValue secretId credentialId now =>
    obtain ⟨row, old, db, hrow, htenant, -, hws, hs⟩ := rotate_ok h
    obtain ⟨db₁, h₁, hws⟩ := applyWrites_cons_ok.1 hws
    obtain ⟨db₂, h₂, hws⟩ := applyWrites_cons_ok.1 hws
    have hbase : db₂.connections = s.db.connections :=
      (connections_of_applyWrite h₂ fun hn => hn).trans (connections_of_applyWrite h₁ fun hn => hn)
    exact rowStep_of_update hrow htenant rfl hbase hws (by rw [hs])
  | deleteConnection connectionId ctx =>
    obtain ⟨row, db, hrow, -, h⟩ := delete_ok h
    split at h
    · obtain ⟨hws, hs⟩ := h
      obtain ⟨db₁, h₁, hws⟩ := applyWrites_cons_ok.1 hws
      obtain ⟨db₂, h₂, hws⟩ := applyWrites_cons_ok.1 hws
      cases applyWrites_nil_ok.1 hws
      exact rowStep_of_delete hrow h₁ (connections_of_applyWrite h₂ fun hn => hn) (by rw [hs])
    · obtain ⟨hws, hs⟩ := h
      obtain ⟨db₁, h₁, hws⟩ := applyWrites_cons_ok.1 hws
      cases applyWrites_nil_ok.1 hws
      exact rowStep_of_delete hrow h₁ rfl (by rw [hs])

end

end Connections

end HermesRpt
