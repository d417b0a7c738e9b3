import HermesRpt.Features.Compiler

/-!
# HermesRpt.Extraction.Routes

Which engine a call gets for a connection. The pool registry grows during a call, but the engine of
a connection does not depend on when the call asks for it.

* `routeOf`  : the engine of a connection, from the registry at the start of the call.
* `Serves`   : an engine of a connection row that the tenant owns.
* `OnRoutes` : the invariant of a call, about the registry and the statements sent so far.
-/

namespace HermesRpt

namespace Extraction

open Effect Connectors Features

/-- The engine of a connection for a call that starts with the registry `pool`. -/
def routeOf (env : Environment) (db : ControlPlane) (ctx : TenantContext) (pool : PoolRegistry)
    (connectionId : Uuid) : Except PyError Engine := do
  let (_, engine, _) ← getOrCreateEngine env.secrets db pool connectionId ctx
  return engine

/-- The engine is the registry's for a connection row of the tenant, or, where the registry had
none, it is built from that row and a credential row of the tenant. -/
def Serves (env : Environment) (db : ControlPlane) (ctx : TenantContext) (pool : PoolRegistry)
    (engine : Engine) : Prop :=
  ∃ connection ∈ db.connections, connection.tenantId = ctx.tenantId ∧
    (pool.get? (ctx.tenantId, connection.id) = some engine ∨
      pool.get? (ctx.tenantId, connection.id) = none ∧
        Connectors.resolveTarget env.secrets db connection ctx = .ok engine)

/-- The registry during a call that started with `pool`: nothing is lost, and what is new is the
engine of a connection of the tenant. -/
structure Grown (env : Environment) (db : ControlPlane) (ctx : TenantContext)
    (pool pool' : PoolRegistry) : Prop where
  kept : ∀ k engine, pool.get? k = some engine → pool'.get? k = some engine
  new : ∀ k engine, pool'.get? k = some engine → pool.get? k = some engine ∨
    pool.get? k = none ∧ ∃ connection, db.connections.find? k.2 = some connection ∧
      Connectors.resolveTarget env.secrets db connection ctx = .ok engine

structure OnRoutes (env : Environment) (db : ControlPlane) (ctx : TenantContext)
    (pool : PoolRegistry) (s : ExtractionState) : Prop where
  grown : Grown env db ctx pool s.pool
  statements : ∀ sent ∈ s.statements, Serves env db ctx pool sent.1

section

variable {env : Environment} {db : ControlPlane} {ctx : TenantContext} {pool : PoolRegistry}

theorem onRoutes_start : OnRoutes env db ctx pool { pool } where
  grown := ⟨fun _ _ h => h, fun _ _ h => .inl h⟩
  statements := by simp

theorem serves_of_routeOf {connectionId : Uuid} {engine : Engine}
    (h : routeOf env db ctx pool connectionId = .ok engine) : Serves env db ctx pool engine := by
  unfold routeOf at h
  cases hg : getOrCreateEngine env.secrets db pool connectionId ctx with
  | error e => rw [hg] at h; cases h
  | ok r =>
    obtain ⟨connection, engine', pool'⟩ := r
    rw [hg] at h
    cases h
    obtain ⟨hfind, howned, -, -, -, hengine⟩ := getOrCreateEngine_ok hg
    obtain ⟨hmem, rfl⟩ := Keyed.Table.find?_eq_some.1 hfind
    exact ⟨connection, hmem, howned, hengine⟩

/-- Asking for an engine later in the call gives the engine of the start, and keeps the registry
as the invariant says. -/
theorem getOrCreateEngine_grown {pool' : PoolRegistry} (h : Grown env db ctx pool pool')
    (connectionId : Uuid) :
    match getOrCreateEngine env.secrets db pool' connectionId ctx with
    | .ok (_, engine, pool'') =>
      routeOf env db ctx pool connectionId = .ok engine ∧ Grown env db ctx pool pool''
    | .error e => routeOf env db ctx pool connectionId = .error e := by
  unfold routeOf getOrCreateEngine
  cases hc : require CustomerDatabaseConnection db connectionId ctx with
  | error e => rfl
  | ok connection =>
    simp only [bind, Except.bind]
    by_cases hdisabled : connection.status = .DISABLED
    · simp only [hdisabled, if_true]
    · simp only [if_neg hdisabled]
      cases ht : Connectors.resolveTarget env.secrets db connection ctx with
      | error e => rfl
      | ok target =>
        have hfind : db.connections.find? connectionId = some connection := (require_ok.1 hc).1
        have hid : connection.id = connectionId := (Keyed.Table.find?_eq_some.1 hfind).2
        simp only [pure, Except.pure, getOrCreatePool]
        cases hp : pool'.get? (ctx.tenantId, connection.id) with
        | some engine =>
          simp only
          refine ⟨?_, h⟩
          rcases h.new _ _ hp with hold | ⟨hnone, c, hc', ht'⟩
          · rw [hold]
          · obtain rfl : connection = c := Option.some.inj ((hid ▸ hfind).symm.trans hc')
            rw [ht] at ht'
            rw [hnone]
            exact ht'
        | none =>
          have hnone : pool.get? (ctx.tenantId, connection.id) = none := by
            cases ho : pool.get? (ctx.tenantId, connection.id) with
            | none => rfl
            | some engine => rw [h.kept _ _ ho] at hp; cases hp
          simp only [hnone, true_and]
          refine ⟨fun k engine hk => ?_, fun k engine hk => ?_⟩
          · rw [Keyed.Dict.get?_set, if_neg]
            · exact h.kept k engine hk
            · rintro rfl; rw [hnone] at hk; cases hk
          · rw [Keyed.Dict.get?_set] at hk
            split at hk
            · rename_i he
              cases hk
              subst he
              exact .inr ⟨hnone, connection, hid ▸ hfind, ht⟩
            · exact h.new k engine hk

/-- The engine of a connection is its route, at every point of the call. -/
theorem engineFor_computes (connectionId : Uuid) :
    Computes (OnRoutes env db ctx pool) (engineFor env db connectionId ctx)
      (routeOf env db ctx pool connectionId) := by
  intro s hs
  have h := getOrCreateEngine_grown hs.grown connectionId
  unfold engineFor Process.update
  cases hg : getOrCreateEngine env.secrets db s.pool connectionId ctx with
  | error e =>
    rw [hg] at h
    simp only [bind, Except.bind, hg]
    exact ⟨hs, h.symm⟩
  | ok r =>
    obtain ⟨connection, engine, pool'⟩ := r
    rw [hg] at h
    simp only [bind, Except.bind, hg, pure, Except.pure]
    exact ⟨⟨h.2, hs.statements⟩, h.1.symm⟩

theorem engineFor_serves (connectionId : Uuid) :
    Keeps (OnRoutes env db ctx pool) (Serves env db ctx pool)
      (engineFor env db connectionId ctx) := by
  intro s hs
  obtain ⟨hkept, hresult⟩ := engineFor_computes connectionId s hs
  refine ⟨hkept, fun engine he => ?_⟩
  have hroute : routeOf env db ctx pool connectionId = .ok engine := by
    rw [← hresult, he]
  exact serves_of_routeOf hroute

/-- A statement on an engine of the tenant answers as the engine's database does. -/
theorem execute_computes {engine : Engine} (h : Serves env db ctx pool engine)
    (select : Sql.Select Value) :
    Computes (OnRoutes env db ctx pool) (execute env engine select)
      ((env.world engine).run select) := by
  intro s hs
  refine ⟨⟨hs.grown, fun sent hsent => ?_⟩, rfl⟩
  rcases List.mem_append.1 hsent with hold | hnew
  · exact hs.statements sent hold
  · rw [List.mem_singleton.1 hnew]; exact h

end

end Extraction

end HermesRpt
