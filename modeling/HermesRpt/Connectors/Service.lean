import HermesRpt.Common.Repository

/-!
# HermesRpt.Connectors.Service

From a connection row to an engine: the connection and its credential are looked up under the
caller's tenant, the secret is resolved, and the engine is taken from the pool registry, whose
entries are keyed by tenant and connection.
-/

namespace HermesRpt

namespace Connectors

open Keyed (Dict)

/-- `TenantConnectionPoolRegistry._engines` -/
abbrev PoolRegistry := Dict (Uuid × Uuid) Engine

/-- `SecretProvider.resolve`; `none` is a reference without a secret. -/
abbrev SecretProvider := String → Option String

def secretNotFound (referenceKey : String) : PyError :=
  ⟨.SecretNotFoundError, "No secret found for reference " ++ reprStr referenceKey⟩

/-- `_resolve_target` -/
def resolveTarget (secrets : SecretProvider) (db : ControlPlane)
    (connection : CustomerDatabaseConnection) (ctx : TenantContext) :
    Except PyError ConnectionTarget := do
  let credential ← require DatabaseCredentialReference db connection.credentialReferenceId ctx
  match secrets credential.referenceKey with
  | none => .error (secretNotFound credential.referenceKey)
  | some password => .ok {
      host := connection.host, port := connection.port, database := connection.databaseName,
      username := connection.username, password, tlsMode := connection.tlsMode }

/-- `pool_registry.get_or_create`: an engine that is there is kept, whatever the target. -/
def getOrCreatePool (pool : PoolRegistry) (tenantId connectionId : Uuid)
    (target : ConnectionTarget) : Engine × PoolRegistry :=
  match pool.get? (tenantId, connectionId) with
  | some engine => (engine, pool)
  | none => (target, pool.set (tenantId, connectionId) target)

/-- The connection, its engine and the registry afterwards. -/
def getOrCreateEngine (secrets : SecretProvider) (db : ControlPlane) (pool : PoolRegistry)
    (connectionId : Uuid) (ctx : TenantContext) :
    Except PyError (CustomerDatabaseConnection × Engine × PoolRegistry) := do
  let connection ← require CustomerDatabaseConnection db connectionId ctx
  if connection.status = .DISABLED then
    .error ⟨.ConnectionDisabledError,
      "Connection " ++ uuidStr connectionId ++ " is disabled and cannot be used"⟩
  else
    let target ← resolveTarget secrets db connection ctx
    return (connection, getOrCreatePool pool ctx.tenantId connection.id target)

/-- Except for an engine that was in the pool already, an engine is built from rows of the
caller's tenant: the connection's own and its credential's. -/
theorem getOrCreateEngine_ok {secrets : SecretProvider} {db : ControlPlane} {pool pool' : PoolRegistry}
    {connectionId : Uuid} {ctx : TenantContext} {connection : CustomerDatabaseConnection}
    {engine : Engine}
    (h : getOrCreateEngine secrets db pool connectionId ctx = .ok (connection, engine, pool')) :
    db.connections.find? connectionId = some connection ∧ connection.tenantId = ctx.tenantId ∧
      connection.status ≠ .DISABLED ∧
      pool'.get? (ctx.tenantId, connectionId) = some engine ∧
      (∀ k, k ≠ (ctx.tenantId, connectionId) → pool'.get? k = pool.get? k) ∧
      (pool.get? (ctx.tenantId, connectionId) = some engine ∨
        pool.get? (ctx.tenantId, connectionId) = none ∧
          resolveTarget secrets db connection ctx = .ok engine) := by
  unfold getOrCreateEngine at h
  cases hc : require CustomerDatabaseConnection db connectionId ctx with
  | error e => rw [hc] at h; cases h
  | ok c =>
    rw [hc] at h
    simp only [bind, Except.bind] at h
    split at h
    · cases h
    · rename_i hs
      cases ht : resolveTarget secrets db c ctx with
      | error e => rw [ht] at h; cases h
      | ok target =>
        rw [ht] at h
        simp only [pure, Except.pure, Except.ok.injEq, Prod.mk.injEq] at h
        obtain ⟨rfl, hp⟩ := h
        obtain ⟨hfind, hten⟩ := require_ok.1 hc
        have hid : c.id = connectionId := (Keyed.Table.find?_eq_some.1 hfind).2
        rw [hid, getOrCreatePool] at hp
        cases hg : pool.get? (ctx.tenantId, connectionId) with
        | some e =>
          rw [hg] at hp; cases hp
          exact ⟨hfind, hten, hs, hg, fun _ _ => rfl, .inl rfl⟩
        | none =>
          rw [hg] at hp; cases hp
          refine ⟨hfind, hten, hs, ?_, ?_, .inr ⟨rfl, ht⟩⟩
          · rw [Keyed.Dict.get?_set, if_pos rfl]
          · intro k hk; rw [Keyed.Dict.get?_set, if_neg hk]

end Connectors

end HermesRpt
