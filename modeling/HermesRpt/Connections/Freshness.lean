import HermesRpt.Connections.Isolation
import HermesRpt.Connections.Rows

/-!
# HermesRpt.Connections.Freshness

Whether the engine cached for a connection is still the right one when no request is running: built
from the connection's current credential, and not kept for a connection that is disabled or gone.

`rotate_secret`, `disable_connection` and `delete_connection` take the engine out before they commit,
and `get_or_create_engine` reads the row long before it puts an engine in. An engine that is put in
between is never taken out again (`overtaken_rotation`).

* `InTime` : an engine is put in only for the row as it is committed, and not between the eviction
  and the end of another request.
* `Fresh`  : the invariant of the interleaving.
* `settled_pool_fresh` : in a run that is in time, the cached engine is right once all have ended.
-/

namespace HermesRpt

namespace Connections

open Connectors Keyed Machine
open Async Code

/-- The engine cached for the connection is of its current credential, and the connection is neither
disabled nor deleted. -/
def PoolFresh (s : Shared) (t c : Uuid) : Prop :=
  ∀ engine, s.pool.get? (t, c) = some engine → ∃ row, s.db.connections.find? c = some row ∧
    row.status ≠ .DISABLED ∧ row.credentialReferenceId = engine.credential.id

/-- Every request has ended. -/
def Settled (w : Backend) : Prop :=
  ∀ tid task, w.tasks tid = some task → ∃ result, task.code = done result

/-- A request that has taken the engine out of the pool has not ended yet. -/
def OpenEviction (w : Backend) (t c : Uuid) : Prop :=
  ∃ tid request tr e next, w.tasks tid = some ⟨request, tr, await e next⟩ ∧ HasEvicted tr t c

/-- The request is at the pool with this engine, and no engine is there. -/
def Inserts (w : Backend) (tid : Nat) (t c : Uuid) (request : Request) (engine : PooledEngine) :
    Prop :=
  (∃ tr next, w.tasks tid = some ⟨request, tr, await (.getOrCreate t c engine) next⟩) ∧
    w.shared.pool.get? (t, c) = none

/-- An engine that is put in finds the connection with the credential it is built from, and enabled
unless the request is a validation of the very row that is committed; and no eviction is open. -/
def InTime (t c : Uuid) (w : Backend) : Action Request → Prop
  | .start _ _ => True
  | .advance tid => ∀ request engine, Inserts w tid t c request engine →
      (∃ row, w.shared.db.connections.find? c = some row ∧
        row.credentialReferenceId = engine.connection.credentialReferenceId ∧
        (row.status = .DISABLED → Validates request ∧ row = engine.connection)) ∧
      ¬OpenEviction w t c

/-- A validation that will take the connection out of `DISABLED`: it has its engine, and the row it
has read is `row`. -/
def Validating (w : Backend) (row : CustomerDatabaseConnection) : Prop :=
  ∃ tid request tr e next engine, w.tasks tid = some ⟨request, tr, await e next⟩ ∧
    Validates request ∧ HasRead request tr row ∧ HasEngine tr engine

structure Fresh (t c : Uuid) (w : Backend) : Prop where
  tenant : ∀ row, w.shared.db.connections.find? c = some row → row.tenantId = t
  reads : ∀ tid task, w.tasks tid = some task → ∀ row, HasRead task.call task.trace row →
    row.id = c → (callerContext task.call).tenantId = t
  requests : ∀ tid task, w.tasks tid = some task → Registers task.call → connectionOf task.call ≠ c
  credential : ∀ engine, w.shared.pool.get? (t, c) = some engine →
    ∃ row, w.shared.db.connections.find? c = some row ∧
      row.credentialReferenceId = engine.connection.credentialReferenceId
  /-- An engine of a disabled connection is there for a validation only. -/
  disabled : ∀ engine row, w.shared.pool.get? (t, c) = some engine →
    w.shared.db.connections.find? c = some row → row.status = .DISABLED → Validating w row
  evicted : OpenEviction w t c → w.shared.pool.get? (t, c) = none

section

variable {t c : Uuid} {w : Backend} {tid : Nat} {request : Request} {tr : Trace Reply} {e : Await}
  {next : Reply e → Method Response} {r : Reply e} {s' : Shared}

theorem HasRead.append {row : CustomerDatabaseConnection} (h : HasRead request tr row)
    (tr' : Trace Reply) : HasRead request (tr ++ tr') row := List.mem_append_left tr' h

theorem HasEngine.append {engine : PooledEngine} (h : HasEngine tr engine) (tr' : Trace Reply) :
    HasEngine (tr ++ tr') engine := by
  obtain ⟨t, c, built, hm⟩ := h
  exact ⟨t, c, built, List.mem_append_left tr' hm⟩

theorem fresh_start {start : Shared} (hpool : start.pool = Table.empty)
    (htenant : ∀ row, start.db.connections.find? c = some row → row.tenantId = t) :
    Fresh t c (World.quiet start) where
  tenant := htenant
  reads tid task h := by cases h
  requests tid task h := by cases h
  credential engine h := by
    have h : start.pool.get? (t, c) = some engine := h
    rw [hpool] at h
    cases h
  disabled engine row h := by
    have h : start.pool.get? (t, c) = some engine := h
    rw [hpool] at h
    cases h
  evicted := by
    rintro ⟨tid, request, tr, e, next, h, -⟩
    cases h

/-! ## A request starts -/

theorem Fresh.start (h : Fresh t c w) (hfree : w.tasks tid = none)
    (hrequest : Registers request → connectionOf request ≠ c) :
    Fresh t c (w.setTask tid ⟨request, [], program request⟩) where
  tenant := h.tenant
  reads i task htask := by
    rcases tasks_setTask_eq.1 htask with ⟨-, rfl⟩ | ⟨-, hi⟩
    · intro row hr
      cases hr
    · exact h.reads i task hi
  requests i task htask := by
    rcases tasks_setTask_eq.1 htask with ⟨-, rfl⟩ | ⟨-, hi⟩
    · exact hrequest
    · exact h.requests i task hi
  credential := h.credential
  disabled engine row hp hrow hd := by
    obtain ⟨i, request', tr, e, next, engine', hi, hrest⟩ := h.disabled engine row hp hrow hd
    refine ⟨i, request', tr, e, next, engine', tasks_setTask_eq.2 (.inr ⟨?_, hi⟩), hrest⟩
    rintro rfl
    rw [hfree] at hi
    cases hi
  evicted := by
    rintro ⟨i, request', tr, e, next, hi, he⟩
    rcases tasks_setTask_eq.1 hi with ⟨-, htask⟩ | ⟨-, hi⟩
    · have htr : [] = tr := congrArg Task.trace htask
      subst htr
      cases he
    · exact h.evicted ⟨i, request', tr, e, next, hi, he⟩

/-! ## A request performs an effect -/

/-- The request `tid` has performed `e`. -/
def advanced (w : Backend) (tid : Nat) (request : Request) (tr : Trace Reply) (e : Await) (r : Reply e)
    (next : Reply e → Method Response) (s' : Shared) : Backend :=
  { w.setTask tid ⟨request, tr ++ [⟨e, r⟩], next r⟩ with shared := s' }

/-- A validation that has its engine does not end before it commits. -/
theorem still_open (ho : Outlined Asserts Ends w)
    (ht : w.tasks tid = some ⟨request, tr, await e next⟩) (he : e ≠ .commit)
    (hv : Validates request) {engine : PooledEngine} (hengine : HasEngine (tr ++ [⟨e, r⟩]) engine) :
    ∃ e' next', next r = await e' next' := by
  obtain ⟨hasserts, hsafe⟩ := ho.awaits ht
  have hsafe := hsafe r
  cases hcode : next r with
  | await e' next' => exact ⟨e', next', rfl⟩
  | done result =>
    rw [hcode] at hsafe
    have hc : HasCommitted (tr ++ [⟨e, r⟩]) := hsafe.1 hv engine hengine
    rcases List.mem_append.1 hc with hc | hc
    · exact absurd hc hasserts.1
    · cases List.mem_singleton.1 hc
      exact absurd rfl he

theorem Validating.advance {row : CustomerDatabaseConnection} (h : Validating w row)
    (ho : Outlined Asserts Ends w) (ht : w.tasks tid = some ⟨request, tr, await e next⟩)
    (he : e ≠ .commit) : Validating (advanced w tid request tr e r next s') row := by
  obtain ⟨i, request', tr', e', next', engine, hi, hv, hread, hengine⟩ := h
  by_cases hit : i = tid
  · subst hit
    rw [ht] at hi
    cases hi
    obtain ⟨e'', next'', hcode⟩ := still_open ho ht he hv (hengine.append [⟨e, r⟩])
    refine ⟨i, request, tr ++ [⟨e, r⟩], e'', next'', engine, tasks_setTask_eq.2 (.inl ⟨rfl, ?_⟩),
      hv, hread.append _, hengine.append _⟩
    rw [hcode]
  · exact ⟨i, request', tr', e', next', engine, tasks_setTask_eq.2 (.inr ⟨hit, hi⟩), hv, hread,
      hengine⟩

/-- An eviction is open after an effect when it was before, or the effect is the eviction. -/
theorem OpenEviction.before
    (ht : w.tasks tid = some ⟨request, tr, await e next⟩)
    (h : OpenEviction (advanced w tid request tr e r next s') t c) :
    OpenEviction w t c ∨ e = .evict t c := by
  obtain ⟨i, request', tr', e', next', hi, he⟩ := h
  rcases tasks_setTask_eq.1 hi with ⟨-, htask⟩ | ⟨-, hi⟩
  · have htr : tr ++ [⟨e, r⟩] = tr' := congrArg Task.trace htask
    subst htr
    rcases List.mem_append.1 he with he | he
    · exact .inl ⟨tid, request, tr, e, next, ht, he⟩
    · cases List.mem_singleton.1 he
      exact .inr rfl
  · exact .inl ⟨i, request', tr', e', next', hi, he⟩

theorem Fresh.reads_advanced (h : Fresh t c w) (ht : w.tasks tid = some ⟨request, tr, await e next⟩)
    (hr : handle tr e w.shared = .ok (r, s')) (i : Nat) (task : Task Reply PyError Response Request)
    (hi : (advanced w tid request tr e r next s').tasks i = some task)
    (row : CustomerDatabaseConnection) (hread : HasRead task.call task.trace row) (hid : row.id = c) :
    (callerContext task.call).tenantId = t := by
  rcases tasks_setTask_eq.1 hi with ⟨-, rfl⟩ | ⟨-, hi⟩
  · rcases List.mem_append.1 hread with hm | hm
    · exact h.reads tid ⟨request, tr, await e next⟩ ht row hm hid
    · have hm : (⟨.requireConnection (connectionOf request) (callerContext request), row⟩ :
          Σ e, Reply e) = ⟨e, r⟩ := List.mem_singleton.1 hm
      cases hm
      obtain ⟨hrow, htenant, -⟩ := requireConnection_replied hr
      have hc : connectionOf request = c := (Table.find?_eq_some.1 hrow).2.symm.trans hid
      exact htenant.symm.trans (h.tenant row (hc ▸ hrow))
  · exact h.reads i task hi row hread hid

theorem Fresh.requests_advanced (h : Fresh t c w)
    (ht : w.tasks tid = some ⟨request, tr, await e next⟩) (i : Nat)
    (task : Task Reply PyError Response Request)
    (hi : (advanced w tid request tr e r next s').tasks i = some task) (hreg : Registers task.call) :
    connectionOf task.call ≠ c := by
  rcases tasks_setTask_eq.1 hi with ⟨-, rfl⟩ | ⟨-, hi⟩
  · exact h.requests tid ⟨request, tr, await e next⟩ ht hreg
  · exact h.requests i task hi hreg

/-- An effect that leaves the database and the connection's engine as they are. -/
theorem Fresh.unchanged (h : Fresh t c w) (ho : Outlined Asserts Ends w)
    (ht : w.tasks tid = some ⟨request, tr, await e next⟩) (hr : handle tr e w.shared = .ok (r, s'))
    (hdb : s'.db = w.shared.db) (hpool : s'.pool.get? (t, c) = w.shared.pool.get? (t, c))
    (hcommit : e ≠ .commit) (hevict : e ≠ .evict t c) :
    Fresh t c (advanced w tid request tr e r next s') where
  tenant row hrow := h.tenant row (hdb ▸ hrow)
  reads := h.reads_advanced ht hr
  requests := h.requests_advanced ht
  credential engine hp := by
    obtain ⟨row, hrow, hk⟩ := h.credential engine (hpool ▸ hp)
    exact ⟨row, hdb.symm ▸ hrow, hk⟩
  disabled engine row hp hrow hd :=
    (h.disabled engine row (hpool ▸ hp) (hdb ▸ hrow) hd).advance ho ht hcommit
  evicted hopen := by
    rcases hopen.before ht with hopen | he
    · exact hpool.trans (h.evicted hopen)
    · exact absurd he hevict

/-- While no engine is cached there is nothing to say about it. -/
theorem Fresh.uncached (h : Fresh t c w) (ht : w.tasks tid = some ⟨request, tr, await e next⟩)
    (hr : handle tr e w.shared = .ok (r, s'))
    (htenant : ∀ row, s'.db.connections.find? c = some row → row.tenantId = t)
    (hpool : s'.pool.get? (t, c) = none) : Fresh t c (advanced w tid request tr e r next s') where
  tenant := htenant
  reads := h.reads_advanced ht hr
  requests := h.requests_advanced ht
  credential engine hp := by
    rw [show s'.pool.get? (t, c) = some engine from hp] at hpool
    cases hpool
  disabled engine row hp := by
    rw [show s'.pool.get? (t, c) = some engine from hp] at hpool
    cases hpool
  evicted _ := hpool

theorem Fresh.evict {t' c' : Uuid} {next : Reply (.evict t' c') → Method Response}
    {r : Reply (.evict t' c')} (h : Fresh t c w) (ho : Outlined Asserts Ends w)
    (ht : w.tasks tid = some ⟨request, tr, await (.evict t' c') next⟩)
    (hr : handle tr (.evict t' c') w.shared = .ok (r, s')) :
    Fresh t c (advanced w tid request tr (.evict t' c') r next s') := by
  have hs : s' = { w.shared with pool := w.shared.pool.erase (t', c') } := by
    cases hr
    rfl
  have hget : s'.pool.get? (t, c) =
      if (t, c) = (t', c') then none else w.shared.pool.get? (t, c) := by
    rw [hs, Dict.get?_erase]
  by_cases hkey : (t, c) = (t', c')
  · rw [if_pos hkey] at hget
    exact h.uncached ht hr (fun row hrow => h.tenant row (by rw [hs] at hrow; exact hrow)) hget
  · rw [if_neg hkey] at hget
    refine h.unchanged ho ht hr (by rw [hs]) hget (by simp) ?_
    intro he
    cases he
    exact hkey rfl

/-- An engine is put in, in time, or one that is there is kept. -/
theorem Fresh.getOrCreate {t' c' : Uuid} {built : PooledEngine}
    {next : Reply (.getOrCreate t' c' built) → Method Response}
    {r : Reply (.getOrCreate t' c' built)} (h : Fresh t c w) (ho : Outlined Asserts Ends w)
    (ht : w.tasks tid = some ⟨request, tr, await (.getOrCreate t' c' built) next⟩)
    (hr : handle tr (.getOrCreate t' c' built) w.shared = .ok (r, s'))
    (hin : InTime t c w (.advance tid)) :
    Fresh t c (advanced w tid request tr (.getOrCreate t' c' built) r next s') := by
  rcases getOrCreate_replied hr with ⟨-, hs⟩ | ⟨hnone, hbuilt, hs⟩
  · exact h.unchanged ho ht hr (by rw [hs]) (by rw [hs]) (by simp) (by simp)
  by_cases hkey : (t, c) = (t', c')
  · cases hkey
    obtain ⟨⟨row₀, hrow₀, hk₀, hd₀⟩, hnoOpen⟩ := hin request built ⟨⟨tr, next, ht⟩, hnone⟩
    have hdb : s'.db = w.shared.db := by rw [hs]
    have hget : ∀ {engine}, s'.pool.get? (t, c) = some engine → engine = built := by
      intro engine hp
      rw [hs, Dict.get?_set, if_pos rfl] at hp
      cases hp
      rfl
    exact {
      tenant := fun row hrow => h.tenant row (hdb ▸ hrow)
      reads := h.reads_advanced ht hr
      requests := h.requests_advanced ht
      credential := fun engine hp => ⟨row₀, hdb.symm ▸ hrow₀, by rw [hget hp]; exact hk₀⟩
      disabled := by
        intro engine row hp hrow hd
        have hrow : w.shared.db.connections.find? c = some row := hdb ▸ hrow
        rw [hrow₀] at hrow
        cases hrow
        obtain ⟨hv, rfl⟩ := hd₀ hd
        -- The validation that puts the engine in is the one that will enable the connection.
        have hread : HasRead request tr built.connection := (ho.awaits ht).1.2.2.2.2.1.1
        have hengine : HasEngine (tr ++ [⟨.getOrCreate t c built, r⟩]) r := ⟨t, c, built, by simp⟩
        obtain ⟨e', next', hcode⟩ := still_open ho ht (by simp) hv hengine
        refine ⟨tid, request, tr ++ [⟨.getOrCreate t c built, r⟩], e', next', r,
          tasks_setTask_eq.2 (.inl ⟨rfl, ?_⟩), hv, hread.append _, hengine⟩
        rw [hcode]
      evicted := by
        intro hopen
        rcases hopen.before ht with hopen | he
        · exact absurd hopen hnoOpen
        · cases he }
  · exact h.unchanged ho ht hr (by rw [hs]) (by rw [hs, Dict.get?_set, if_neg hkey]) (by simp)
      (by simp)

/-- A commit of a request that has not evicted the engine spares it; where one has, none is cached.
-/
theorem Fresh.commit {next : Reply .commit → Method Response} {r : Reply .commit} (h : Fresh t c w)
    (ho : Outlined Asserts Ends w) (ht : w.tasks tid = some ⟨request, tr, await .commit next⟩)
    (hr : handle tr .commit w.shared = .ok (r, s')) :
    Fresh t c (advanced w tid request tr .commit r next s') := by
  obtain ⟨db, hws, hs⟩ := commit_replied hr
  obtain ⟨-, hfinish, hannounced⟩ := (ho.awaits ht).1
  have hadds : ∀ ctx connection, .addConnection ctx connection ∈ pending tr →
      connection.id ≠ c := by
    intro ctx connection hw
    obtain ⟨hreg, hid⟩ := hannounced _ hw
    exact hid ▸ h.requests tid _ ht hreg
  have htenant : ∀ row, s'.db.connections.find? c = some row → row.tenantId = t := by
    intro row' hrow'
    rw [hs] at hrow'
    obtain ⟨row, hrow, he⟩ := applyWrites_keepsTenant hadds hws row' hrow'
    exact he.symm.trans (h.tenant row hrow)
  by_cases hevicted : HasEvicted tr t c
  · refine h.uncached ht hr htenant ?_
    rw [hs]
    exact h.evicted ⟨tid, request, tr, .commit, next, ht, hevicted⟩
  have hspares := spares_of_announced hannounced (h.reads tid _ ht) hevicted
  have hspared : SparedRow w.shared.db s'.db c := by
    rw [hs]
    exact applyWrites_spared hspares hws
  have hpool : s'.pool = w.shared.pool := by rw [hs]
  exact {
    tenant := htenant
    reads := h.reads_advanced ht hr
    requests := h.requests_advanced ht
    credential := by
      intro engine hp
      obtain ⟨row, hrow, hk⟩ := h.credential engine (hpool ▸ hp)
      obtain ⟨row', hrow', hsp⟩ := hspared row hrow
      exact ⟨row', hrow', hsp.credential.trans hk⟩
    disabled := by
      intro engine row' hp hrow' hd
      obtain ⟨row, hrow, -⟩ := h.credential engine (hpool ▸ hp)
      have hid : row.id = c := (Table.find?_eq_some.1 hrow).2
      obtain ⟨row'', hrow'', hsp⟩ := hspared row hrow
      have hrow' : s'.db.connections.find? c = some row' := hrow'
      rw [hrow''] at hrow'
      cases hrow'
      rcases hsp.enabled with rfl | hn
      · obtain ⟨i, request', tr', e', next', engine', hi, hv, hread, hengine⟩ :=
          h.disabled engine row' (hpool ▸ hp) hrow hd
        by_cases hit : i = tid
        · subst hit
          rw [ht] at hi
          cases hi
          have hrecords : RecordsCheck row' (pending tr) := hfinish hv row' engine' hread hengine
          refine absurd hd (recordsCheck_enables hrecords (hid ▸ hrow) hws ?_)
          rw [hs] at hrow''
          exact hid.symm ▸ hrow''
        · exact ⟨i, request', tr', e', next', engine', tasks_setTask_eq.2 (.inr ⟨hit, hi⟩), hv,
            hread, hengine⟩
      · exact absurd hd hn
    evicted := by
      intro hopen
      rcases hopen.before ht with hopen | he
      · exact (congrArg (·.get? (t, c)) hpool).trans (h.evicted hopen)
      · cases he }

/-! ## A request raises -/

/-- A validation that has its engine does not raise while the row it has read is committed. -/
theorem validating_not_raises {row : CustomerDatabaseConnection} {err : PyError}
    (ho : Outlined Asserts Ends w) (ht : w.tasks tid = some ⟨request, tr, await e next⟩)
    (hv : Validates request) (hread : HasRead request tr row) {engine : PooledEngine}
    (hengine : HasEngine tr engine) (hrow : w.shared.db.connections.find? row.id = some row) :
    handle tr e w.shared ≠ .error err := by
  intro hr
  have hfinish := (ho.awaits ht).1.2.1 hv row engine hread hengine
  cases e with
  | checkConnectivity engine failure => cases hr
  | flush writes =>
    obtain ⟨db, hdb⟩ := recordsCheck_applies hfinish hrow
    simp only [handle, hdb] at hr
    cases hr
  | commit =>
    obtain ⟨db, hdb⟩ := recordsCheck_applies hfinish hrow
    simp only [handle, hdb] at hr
    cases hr
  | _ => exact hfinish

theorem Fresh.raise (h : Fresh t c w) (ho : Outlined Asserts Ends w) {err : PyError}
    (ht : w.tasks tid = some ⟨request, tr, await e next⟩)
    (hr : handle tr e w.shared = .error err) :
    Fresh t c (w.setTask tid ⟨request, tr, done (.error err)⟩) where
  tenant := h.tenant
  reads i task htask := by
    rcases tasks_setTask_eq.1 htask with ⟨-, rfl⟩ | ⟨-, hi⟩
    · exact h.reads tid ⟨request, tr, await e next⟩ ht
    · exact h.reads i task hi
  requests i task htask := by
    rcases tasks_setTask_eq.1 htask with ⟨-, rfl⟩ | ⟨-, hi⟩
    · exact h.requests tid ⟨request, tr, await e next⟩ ht
    · exact h.requests i task hi
  credential := h.credential
  disabled engine row hp hrow hd := by
    obtain ⟨i, request', tr', e', next', engine', hi, hv, hread, hengine⟩ :=
      h.disabled engine row hp hrow hd
    refine ⟨i, request', tr', e', next', engine', tasks_setTask_eq.2 (.inr ⟨?_, hi⟩), hv, hread,
      hengine⟩
    rintro rfl
    rw [ht] at hi
    cases hi
    have hid : row.id = c := (Table.find?_eq_some.1 hrow).2
    exact validating_not_raises ho ht hv hread hengine (hid.symm ▸ hrow) hr
  evicted := by
    rintro ⟨i, request', tr', e', next', hi, he⟩
    rcases tasks_setTask_eq.1 hi with ⟨-, htask⟩ | ⟨-, hi⟩
    · cases congrArg Task.code htask
    · exact h.evicted ⟨i, request', tr', e', next', hi, he⟩

theorem Fresh.step (h : Fresh t c w) (ho : Outlined Asserts Ends w) {a : Action Request}
    (hin : InTime t c w a)
    (hstart : ∀ tid request, a = .start tid request → Registers request →
      connectionOf request ≠ c) : Fresh t c (interleave w a) := by
  rcases Async.step_cases program handle w a with he | ⟨tid, request, ha, hfree, he⟩ |
    ⟨tid, request, tr, e, next, r, s', rfl, ht, hr, he⟩ |
    ⟨tid, request, tr, e, next, err, -, ht, hr, he⟩
  all_goals rw [show interleave w _ = _ from he]
  · exact h
  · exact h.start hfree (hstart tid request ha)
  · rcases shared_of_replied hr with ⟨hdb, hpool⟩ | rfl | ⟨t', c', rfl⟩ | ⟨t', c', built, rfl⟩
    · by_cases hcommit : e = .commit
      · subst hcommit
        exact h.commit ho ht hr
      · by_cases hevict : e = .evict t c
        · subst hevict
          exact h.evict ho ht hr
        · exact h.unchanged ho ht hr hdb (by rw [hpool]) hcommit hevict
    · exact h.commit ho ht hr
    · exact h.evict ho ht hr
    · exact h.getOrCreate ho ht hr hin
  · exact h.raise ho ht hr

theorem run_fresh {as : List (Action Request)} (h : Fresh t c w) (ho : Outlined Asserts Ends w)
    (hstart : ∀ tid request, .start tid request ∈ as → Registers request →
      connectionOf request ≠ c) (hin : Meets interleave (InTime t c) w as) :
    Fresh t c (run interleave w as) := by
  induction as generalizing w with
  | nil => exact h
  | cons a as ih =>
    refine ih (h.step ho hin.1 ?_) (step_outlined program_safe ho a) ?_ hin.2
    · intro tid request ha
      exact hstart tid request (by simp [ha])
    · intro tid request ha
      exact hstart tid request (by simp [ha])

/-- In a run in which every engine is put in in time, the engine that is cached for a connection
when all requests have ended is of its current credential, and none is cached for a connection that
is disabled or deleted. -/
theorem settled_pool_fresh {start : Shared} (hpool : start.pool = Table.empty)
    (htenant : ∀ row, start.db.connections.find? c = some row → row.tenantId = t)
    {as : List (Action Request)}
    (hstart : ∀ tid request, .start tid request ∈ as → Registers request →
      connectionOf request ≠ c)
    (hin : Meets interleave (InTime t c) (World.quiet start) as)
    (hsettled : Settled (run interleave (World.quiet start) as)) :
    PoolFresh (sharedAfter start as) t c := by
  have h := run_fresh (fresh_start hpool htenant) (quiet_outlined start) hstart hin
  intro engine hcached
  obtain ⟨row, hrow, hk⟩ := h.credential engine hcached
  refine ⟨row, hrow, ?_, ?_⟩
  · intro hd
    obtain ⟨tid, request, tr, e, next, -, ht, -⟩ := h.disabled engine row hcached hrow hd
    obtain ⟨result, hdone⟩ := hsettled tid _ ht
    cases hdone
  · obtain ⟨pre, -, hcredential⟩ := (pool_of_own_rows hpool as _ engine hcached).credential_row
    exact hk.trans (Table.find?_eq_some.1 hcredential).2.symm

end

end Connections

namespace Sample

open Connections Async

/-- All of a rotation, after a request for the engine has read the old credential and its secret, and
before that request is at the pool. -/
def lateInsertion : List (Action Request) :=
  [.start 0 (.getOrCreateEngine 10 ctx), .advance 0, .advance 0, .advance 0,
    .start 1 (.rotateSecret 10 ctx "new" 2 12 ⟨0, 0⟩)] ++ List.replicate 8 (.advance 1) ++
    [.advance 0]

/-- The rotation first, and then the request. -/
def inOrder : List (Action Request) :=
  .start 1 (.rotateSecret 10 ctx "new" 2 12 ⟨0, 0⟩) :: List.replicate 8 (.advance 1) ++
    [.start 0 (.getOrCreateEngine 10 ctx)] ++ List.replicate 4 (.advance 0)

end Sample

namespace Connections

open Connectors Machine
open Async Code

/-- Both requests succeed, and the engine that stays in the pool is of the credential that the
rotation has retired. -/
theorem overtaken_rotation :
    (∀ tid task, (run interleave (World.quiet Sample.shared) Sample.lateInsertion).tasks tid =
        some task → ∃ response, task.code = done (.ok response)) ∧
      ¬PoolFresh (sharedAfter Sample.shared Sample.lateInsertion) 1 10 := by
  constructor
  · intro tid task htask
    match tid with
    | 0 | 1 =>
      cases htask
      exact ⟨_, rfl⟩
    | n + 2 => cases htask
  · intro h
    have hcached : (sharedAfter Sample.shared Sample.lateInsertion).pool.get? (1, 10) =
        some ⟨Sample.connection, Sample.credential, "s3cret"⟩ := rfl
    obtain ⟨row, hrow, -, hk⟩ := h _ hcached
    cases hrow
    revert hk
    decide

/-- A request that is not at the pool is in time. -/
theorem inTime_of_elsewhere {w : Backend} {tid : Nat} {t c : Uuid}
    (h : (match w.tasks tid with
      | some ⟨_, _, await (.getOrCreate ..) _⟩ => false
      | _ => true) = true) : InTime t c w (.advance tid) := by
  rintro request engine ⟨⟨tr, next, ht⟩, -⟩
  rw [ht] at h
  cases h

theorem settled_pool_fresh_sample :
    PoolFresh (sharedAfter Sample.shared Sample.inOrder) 1 10 := by
  refine settled_pool_fresh rfl ?_ ?_ ?_ ?_
  · intro row hrow
    cases hrow
    rfl
  · intro tid request hm
    simp [Sample.inOrder] at hm
    obtain ⟨rfl, rfl⟩ | ⟨rfl, rfl⟩ := hm <;> intro hr <;> cases hr
  · -- Only the last action is at the pool: the rotation has ended, and the row is the one it left.
    refine ⟨trivial, inTime_of_elsewhere rfl, inTime_of_elsewhere rfl, inTime_of_elsewhere rfl,
      inTime_of_elsewhere rfl, inTime_of_elsewhere rfl, inTime_of_elsewhere rfl,
      inTime_of_elsewhere rfl, inTime_of_elsewhere rfl, trivial, inTime_of_elsewhere rfl,
      inTime_of_elsewhere rfl, inTime_of_elsewhere rfl, ?_, trivial⟩
    rintro request engine ⟨⟨tr, next, ht⟩, -⟩
    cases ht
    refine ⟨⟨_, rfl, rfl, fun hd => by cases hd⟩, ?_⟩
    rintro ⟨tid, request, tr, e, next, ht, he⟩
    match tid with
    | 0 =>
      cases ht
      simp [HasEvicted] at he
    | 1 => cases ht
    | n + 2 => cases ht
  · intro tid task htask
    match tid with
    | 0 | 1 =>
      cases htask
      exact ⟨_, rfl⟩
    | n + 2 => cases htask

end Connections

end HermesRpt
