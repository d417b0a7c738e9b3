import HermesRpt.Connections.Outline
import HermesRpt.Connections.Replies
import HermesRpt.System

/-!
# HermesRpt.Connections.Isolation

The pool of engines and the tenants. Backend of any tenants run interleaved; the pool is empty when
the process starts.

* `Backend`      : the process with its requests, and `interleave` its step.
* `OfOwnRows`     : an engine is built from rows of one tenant and the secret they refer to, each as
  it was at some moment of the run.
* `pool_of_own_rows`    : what is cached for a tenant and a connection is built from their rows.
* `returned_of_own_rows` : and so is the engine a caller gets.
-/

namespace HermesRpt

namespace Connections

open Connectors Keyed Machine
open Async Code

/-- The process: what the requests share, and the requests with what they have done. -/
abbrev Backend := World Reply PyError Response Request Shared

def interleave : Backend → Action Request → Backend := Async.step program handle

/-- What is shared after the actions, in a process that starts with `start`. -/
def sharedAfter (start : Shared) (as : List (Action Request)) : Shared :=
  (run interleave (World.quiet start) as).shared

/-- The engine is built from the connection `c` of tenant `t`, its credential and their secret. -/
structure OfOwnRows (start : Shared) (as : List (Action Request)) (t c : Uuid) (engine : PooledEngine) :
    Prop where
  connection_tenant : engine.connection.tenantId = t
  connection_row : ∃ pre, pre <+: as ∧
    (sharedAfter start pre).db.connections.find? c = some engine.connection
  credential_tenant : engine.credential.tenantId = t
  credential_row : ∃ pre, pre <+: as ∧ (sharedAfter start pre).db.credentials.find?
    engine.connection.credentialReferenceId = some engine.credential
  secret : ∃ pre, pre <+: as ∧
    (sharedAfter start pre).secrets.get? engine.credential.referenceKey = some engine.password

theorem OfOwnRows.later {start : Shared} {as bs : List (Action Request)} {t c : Uuid}
    {engine : PooledEngine} (h : OfOwnRows start as t c engine) (hp : as <+: bs) :
    OfOwnRows start bs t c engine where
  connection_tenant := h.connection_tenant
  connection_row := h.connection_row.imp fun _ hr => ⟨hr.1.trans hp, hr.2⟩
  credential_tenant := h.credential_tenant
  credential_row := h.credential_row.imp fun _ hr => ⟨hr.1.trans hp, hr.2⟩
  secret := h.secret.imp fun _ hr => ⟨hr.1.trans hp, hr.2⟩

section

variable {start : Shared} {as : List (Action Request)}

theorem run_outlined_requests (start : Shared) (as : List (Action Request)) :
    Outlined Asserts Ends (run interleave (World.quiet start) as) :=
  run_outlined program_safe (quiet_outlined start) as

/-- A request that awaits the pool has read the rows and the secret of what it would build. -/
theorem builtFrom_of_own_rows {tid : Nat} {task : Task Reply PyError Response Request}
    {engine : PooledEngine}
    (ht : (run interleave (World.quiet start) as).tasks tid = some task)
    (hb : BuiltFrom task.call task.trace engine) :
    OfOwnRows start as (callerContext task.call).tenantId engine.connection.id engine := by
  obtain ⟨pre₁, a₁, hpre₁, tr₁, hc⟩ := replied ht hb.1
  obtain ⟨pre₂, a₂, hpre₂, tr₂, hk⟩ := replied ht hb.2.1
  obtain ⟨pre₃, a₃, hpre₃, tr₃, hp⟩ := replied ht hb.2.2
  obtain ⟨hcf, hct, -⟩ := requireConnection_replied hc
  obtain ⟨hkf, hkt, -⟩ := requireCredential_replied hk
  have hid : engine.connection.id = connectionOf task.call := (Table.find?_eq_some.1 hcf).2
  exact {
    connection_tenant := hct
    connection_row := ⟨pre₁, (List.prefix_append _ _).trans hpre₁, hid ▸ hcf⟩
    credential_tenant := hkt
    credential_row := ⟨pre₂, (List.prefix_append _ _).trans hpre₂, hkf⟩
    secret := ⟨pre₃, (List.prefix_append _ _).trans hpre₃, (resolve_replied hp).1⟩ }

/-- What is cached for a tenant and a connection is built from the tenant's own rows. -/
theorem pool_of_own_rows (hpool : start.pool = Table.empty) (as : List (Action Request)) :
    ∀ key engine, (sharedAfter start as).pool.get? key = some engine →
      OfOwnRows start as key.1 key.2 engine := by
  induction as using List.reverseRecOn with
  | nil =>
    intro key engine h
    have h : start.pool.get? key = some engine := h
    rw [hpool] at h
    cases h
  | append_singleton as a ih =>
    intro key engine h
    have hlast : run interleave (World.quiet start) (as ++ [a]) =
        Async.step program handle (run interleave (World.quiet start) as) a := by
      rw [run_append]
      rfl
    rw [sharedAfter, hlast] at h
    have hbefore : ∀ {key engine}, (sharedAfter start as).pool.get? key = some engine →
        OfOwnRows start (as ++ [a]) key.1 key.2 engine := fun h =>
      (ih _ _ h).later (List.prefix_append as [a])
    rcases Async.step_cases program handle (run interleave (World.quiet start) as) a with he |
      ⟨tid, request, -, -, he⟩ | ⟨tid, request, tr, e, next, r, s', -, ht, hr, he⟩ |
      ⟨tid, request, tr, e, next, err, -, ht, -, he⟩
    all_goals rw [he] at h
    · exact hbefore h
    · exact hbefore h
    · rcases pool_of_replied hr h with hp | ⟨-, rfl⟩
      · exact hbefore hp
      · obtain ⟨htenant, hid, hb, -⟩ := ((run_outlined_requests start as).awaits ht).1.2.2
        rw [htenant, hid]
        exact (builtFrom_of_own_rows ht hb).later (List.prefix_append as [a])
    · exact hbefore h

/-- The engine a caller gets is built from the connection it named, a row of its own tenant, and a
credential of its own tenant. -/
theorem returned_of_own_rows (hpool : start.pool = Table.empty) (as : List (Action Request)) {tid : Nat}
    {c : Uuid} {ctx : TenantContext} {tr : Trace Reply} {connection : CustomerDatabaseConnection}
    {engine : PooledEngine}
    (ht : (run interleave (World.quiet start) as).tasks tid =
      some ⟨.getOrCreateEngine c ctx, tr, done (.ok (.engine connection engine))⟩) :
    connection.id = c ∧ connection.tenantId = ctx.tenantId ∧
      OfOwnRows start as ctx.tenantId c engine := by
  obtain ⟨-, -, hend⟩ := (run_outlined_requests start as).returned ht
  obtain ⟨hread, built, hengine⟩ := hend connection engine rfl
  obtain ⟨pre₀, a₀, -, tr₀, hc⟩ := replied ht hread
  obtain ⟨hcf, hct, -⟩ := requireConnection_replied hc
  have hid : connection.id = c := (Table.find?_eq_some.1 hcf).2
  obtain ⟨pre, a, hpre, tr', hg⟩ := replied ht hengine
  have hcached : (sharedAfter start (pre ++ [a])).pool.get? (ctx.tenantId, c) = some engine := by
    rw [hid] at hg
    rcases getOrCreate_replied hg with ⟨hp, hs⟩ | ⟨-, rfl, hs⟩
    · exact (congrArg (·.pool.get? (ctx.tenantId, c)) hs).trans hp
    · refine (congrArg (·.pool.get? (ctx.tenantId, c)) hs).trans ?_
      exact (Dict.get?_set _ _ _ _).trans (if_pos rfl)
  exact ⟨hid, hct, (pool_of_own_rows hpool _ _ _ hcached).later hpre⟩

end

end Connections

namespace Sample

open Connectors Connections Async

/-- The fleet with its secret, in a process that has just started. -/
def shared : Shared :=
  { db, secrets := Keyed.Dict.ofList [("local-dev:1", "s3cret")] }

def foreign : TenantContext := { ctx with tenantId := 2 }

/-- Two tenants ask for the engine of one connection, a step each in turn. -/
def askTogether : List (Action Request) :=
  [.start 0 (.getOrCreateEngine 10 foreign), .start 1 (.getOrCreateEngine 10 ctx),
    .advance 0, .advance 1, .advance 1, .advance 0, .advance 1, .advance 1]

end Sample

namespace Connections

open Connectors Machine
open Async Code

theorem returned_of_own_rows_sample :
    ∃ tr connection engine, (run interleave (World.quiet Sample.shared) Sample.askTogether).tasks 1 =
        some ⟨.getOrCreateEngine 10 Sample.ctx, tr, done (.ok (.engine connection engine))⟩ ∧
      connection.id = 10 ∧ connection.tenantId = 1 ∧
        OfOwnRows Sample.shared Sample.askTogether 1 10 engine := by
  have ht : (run interleave (World.quiet Sample.shared) Sample.askTogether).tasks 1 =
      some ⟨.getOrCreateEngine 10 Sample.ctx, _, done (.ok (.engine _ _))⟩ := rfl
  exact ⟨_, _, _, ht, returned_of_own_rows rfl Sample.askTogether ht⟩

end Connections

end HermesRpt
