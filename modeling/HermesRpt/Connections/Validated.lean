import HermesRpt.Connections.Disabled

/-!
# HermesRpt.Connections.Validated

What the status `ACTIVE` says about the checks of a connection, over any sequence of requests.

`enable_connection` asks for a check at some time, whatever its outcome and whatever credential it
was of (`enabled_unchecked`).

* `PoolFits`           : a cached engine is built from the credential that its connection refers to.
* `CheckOf`            : a check of an engine of this credential succeeds, while the connection
  refers to it.
* `EnabledAfterCheck`  : every enabling comes after a check of the credential that succeeded.
* `active_was_checked` : then an active connection had such a check of its current credential.
-/

namespace HermesRpt

namespace Connections

open Connectors Keyed Machine
open Async Code

def PoolFits (s : Shared) : Prop :=
  ∀ t c engine, s.pool.get? (t, c) = some engine → ∃ row, s.db.connections.find? c = some row ∧
    row.tenantId = t ∧ engine.connection.id = c ∧ engine.credential.id = row.credentialReferenceId

/-- What holds at every effect of a request that began in `s₀`. -/
structure Underway (s₀ : Shared) (request : Request) (tr : Trace Reply) (s : Shared) : Prop where
  fits : PoolFits s
  db : HasCommitted tr ∨ s.db = s₀.db
  reads : ∀ row, HasRead request tr row →
    s₀.db.connections.find? (connectionOf request) = some row ∧
      row.tenantId = (callerContext request).tenantId
  credentials : ∀ id ctx credential, ⟨.requireCredential id ctx, credential⟩ ∈ tr →
    credential.id = id
  evicted : ∀ t c, HasEvicted tr t c → s.pool.get? (t, c) = none

section

variable {s₀ s s' : Shared} {request : Request} {tr : Trace Reply} {e : Await} {r : Reply e}

theorem mem_snoc {x : Σ e, Reply e} (h : x ∈ tr ++ [⟨e, r⟩]) : x ∈ tr ∨ x = ⟨e, r⟩ := by
  simpa using h

theorem Underway.snoc (h : Underway s₀ request tr s) (hasserts : Asserts request tr e)
    (hr : handle tr e s = .ok (r, s')) (hfits : PoolFits s')
    (hevicted : ∀ t c, HasEvicted (tr ++ [⟨e, r⟩]) t c → s'.pool.get? (t, c) = none) :
    Underway s₀ request (tr ++ [⟨e, r⟩]) s' where
  fits := hfits
  db := by
    by_cases he : e = .commit
    · subst he
      exact .inl (by simp [HasCommitted])
    · exact .inr ((db_of_replied hr he).trans (h.db.resolve_left hasserts.1))
  reads row hread := by
    rcases mem_snoc hread with hm | hm
    · exact h.reads row hm
    · cases hm
      obtain ⟨hrow, htenant, -⟩ := requireConnection_replied hr
      exact ⟨h.db.resolve_left hasserts.1 ▸ hrow, htenant⟩
  credentials id ctx credential hm := by
    rcases mem_snoc hm with hm | hm
    · exact h.credentials id ctx credential hm
    · cases hm
      exact (Table.find?_eq_some.1 (requireCredential_replied hr).1).2
  evicted := hevicted

theorem evicted_snoc {t c : Uuid} (h : HasEvicted (tr ++ [⟨e, r⟩]) t c) (he : e ≠ .evict t c) :
    HasEvicted tr t c := by
  rcases mem_snoc h with hm | hm
  · exact hm
  · cases hm
    exact absurd rfl he

/-- A commit leaves the credential of every connection whose engine is cached. -/
theorem Underway.commit_fits {r : Reply .commit} (h : Underway s₀ request tr s)
    (hasserts : Asserts request tr .commit) (hr : handle tr .commit s = .ok (r, s')) :
    PoolFits s' := by
  obtain ⟨db, hws, hs⟩ := commit_replied hr
  have hdb := h.db.resolve_left hasserts.1
  intro t c engine hp
  have hp : s.pool.get? (t, c) = some engine := by
    rw [hs] at hp
    exact hp
  obtain ⟨row, hrow, htenant, hid, hk⟩ := h.fits t c engine hp
  have hevicted : ¬HasEvicted tr t c := by
    intro he
    rw [h.evicted t c he] at hp
    cases hp
  have howner : ∀ connection, HasRead request tr connection → connection.id = c →
      (callerContext request).tenantId = t := by
    intro connection hread hc
    obtain ⟨hfind, ht⟩ := h.reads connection hread
    have hconnection : connectionOf request = c := (Table.find?_eq_some.1 hfind).2.symm.trans hc
    rw [hconnection, ← hdb, hrow] at hfind
    cases hfind
    exact ht.symm.trans htenant
  obtain ⟨row', hrow', hspared⟩ :=
    applyWrites_spared (spares_of_announced hasserts.2.2 howner hevicted) hws row hrow
  refine ⟨row', ?_, hspared.tenant.trans htenant, hid, hk.trans hspared.credential.symm⟩
  rw [hs]
  exact hrow'

theorem Underway.step (h : Underway s₀ request tr s) (hasserts : Asserts request tr e)
    (hr : handle tr e s = .ok (r, s')) : Underway s₀ request (tr ++ [⟨e, r⟩]) s' := by
  have hdb := h.db.resolve_left hasserts.1
  by_cases hcommit : e = .commit
  · subst hcommit
    refine h.snoc hasserts hr (h.commit_fits hasserts hr) fun t c he => ?_
    obtain ⟨db, -, hs⟩ := commit_replied hr
    rw [hs]
    exact h.evicted t c (evicted_snoc he (by simp))
  have hdb' := db_of_replied hr hcommit
  have hsame : ∀ t c engine, s.pool.get? (t, c) = some engine →
      ∃ row, s'.db.connections.find? c = some row ∧ row.tenantId = t ∧ engine.connection.id = c ∧
        engine.credential.id = row.credentialReferenceId := by
    rw [hdb']
    exact h.fits
  rcases shared_of_replied hr with ⟨-, hpool⟩ | rfl | ⟨t', c', rfl⟩ | ⟨t', c', built, rfl⟩
  · refine h.snoc hasserts hr (fun t c engine hp => hsame t c engine (hpool ▸ hp)) fun t c he => ?_
    by_cases hevict : e = .evict t c
    · subst hevict
      cases hr
      rw [Dict.get?_erase, if_pos rfl]
    · rw [hpool]
      exact h.evicted t c (evicted_snoc he hevict)
  · exact absurd rfl hcommit
  · have hget : ∀ t c, s'.pool.get? (t, c) =
        if (t, c) = (t', c') then none else s.pool.get? (t, c) := by
      cases hr
      intro t c
      rw [Dict.get?_erase]
    refine h.snoc hasserts hr (fun t c engine hp => ?_) fun t c he => ?_
    · rw [hget] at hp
      split at hp
      · cases hp
      · exact hsame t c engine hp
    · rw [hget]
      split
      · rfl
      · rename_i hne
        refine h.evicted t c (evicted_snoc he fun hevict => hne ?_)
        cases hevict
        rfl
  · obtain ⟨rfl, rfl, hb, hnot⟩ := hasserts.2.2
    have hnone : ∀ t c, ¬HasEvicted (tr ++ [⟨.getOrCreate (callerContext request).tenantId
        built.connection.id built, r⟩]) t c :=
      fun t c he => hnot t c (evicted_snoc he (by simp))
    refine h.snoc hasserts hr (fun t c engine hp => ?_) fun t c he => absurd he (hnone t c)
    rcases getOrCreate_replied hr with ⟨-, hs⟩ | ⟨-, -, hs⟩
    · exact hsame t c engine (hs ▸ hp)
    · rw [hs, Dict.get?_set] at hp
      split at hp
      · rename_i hkey
        cases hp
        cases hkey
        obtain ⟨hfind, htenant⟩ := h.reads _ hb.1
        have hid : built.connection.id = connectionOf request := (Table.find?_eq_some.1 hfind).2
        refine ⟨built.connection, ?_, htenant, rfl, h.credentials _ _ _ hb.2.1⟩
        rw [hdb', hdb, hid]
        exact hfind
      · exact hsame t c engine hp

end

/-- Requests that follow one another never leave a stale engine behind. -/
theorem poolFits_after {s : Shared} (h : PoolFits s) (a : Attempt) : PoolFits (after s a) := by
  have hstart : Underway s a.request [] s := {
    fits := h
    db := .inr rfl
    reads := fun row hread => by cases hread
    credentials := fun id ctx credential hm => by cases hm
    evicted := fun t c he => by cases he }
  exact (serve_invariant (fun tr e s₁ r s₂ hu hasserts _ hr => hu.step hasserts hr)
    (program_safe a.request) hstart).fits

theorem poolFits_of_run {start : Shared} (h : PoolFits start) (as : List Attempt) :
    PoolFits (stateAfter start as) :=
  run_invariant (I := PoolFits) (fun _ a h => poolFits_after h a) h as

/-! ## The events of a run -/

/-- A check of an engine with the credential `k` succeeds, while the connection `c` refers to `k`. -/
def CheckOf (c k : Uuid) (s : Shared) (a : Attempt) : Prop :=
  ∃ engine failure row, ⟨.checkConnectivity engine failure, none⟩ ∈ (respond s a).2.1 ∧
    engine.connection.id = c ∧ engine.credential.id = k ∧
    s.db.connections.find? c = some row ∧ row.credentialReferenceId = k

/-- `validate_connection` of `c`, whose check finds no failure. -/
def HealthyCheck (c : Uuid) : Request → Prop
  | .validateConnection connectionId _ _ failure => connectionId = c ∧ failure = none
  | _ => False

/-- `c` gets its credential when it is registered, and another when its secret is rotated. -/
def InstallsCredential (c : Uuid) : Request → Prop
  | .registerConnection _ _ _ _ connectionId => connectionId = c
  | .rotateSecret connectionId .. => connectionId = c
  | _ => False

def PassesCheck (c : Uuid) (s : Shared) (a : Attempt) : Prop :=
  HealthyCheck c a.request ∧ Succeeds s a

def Installs (c : Uuid) (s : Shared) (a : Attempt) : Prop :=
  InstallsCredential c a.request ∧ Succeeds s a

def Enables (c : Uuid) (s : Shared) (a : Attempt) : Prop :=
  EnableRequest c a.request ∧ Succeeds s a

/-- A connection is only enabled with a credential that a check has passed with. -/
def EnabledAfterCheck (start : Shared) (as : List Attempt) : Prop :=
  ∀ pre a post, as = pre ++ a :: post → ∀ c, Enables c (stateAfter start pre) a →
    Since after (PassesCheck c) (Installs c) start pre

theorem EnabledAfterCheck.init {start : Shared} {as : List Attempt} {a : Attempt}
    (h : EnabledAfterCheck start (as ++ [a])) : EnabledAfterCheck start as :=
  fun pre b post he => h pre b (post ++ [a]) (by simp [he])

section

variable {s : Shared} {a : Attempt} {c : Uuid} {row : CustomerDatabaseConnection}

theorem InstallsCredential.connection {request : Request} (h : InstallsCredential c request) :
    c = connectionOf request := by
  cases request with
  | registerConnection => exact h.symm
  | rotateSecret => exact h.symm
  | _ => exact h.elim

theorem InstallsCredential.not_reads {request : Request} (h : InstallsCredential c request) :
    ¬Reads request := by
  intro hreads
  cases request with
  | getOrCreateEngine => exact h
  | _ => exact hreads

/-- Only an installation gives the connection another credential. -/
theorem credential_of_step (hrow : (after s a).db.connections.find? c = some row)
    (hinst : ¬Installs c s a) : ∃ row₀, s.db.connections.find? c = some row₀ ∧
      row₀.credentialReferenceId = row.credentialReferenceId := by
  by_cases hs : Succeeds s a
  · obtain ⟨response, tr, hr⟩ := hs.respond_eq
    cases row_of_ok hr c with
    | same _ hsame => exact ⟨row, hsame ▸ hrow, rfl⟩
    | registered hc hreg =>
      obtain ⟨request, fault⟩ := a
      cases request with
      | registerConnection => exact absurd ⟨hc.symm, hs⟩ hinst
      | _ => exact hreg.elim
    | deleted hc hgone =>
      rw [hgone] at hrow
      cases hrow
    | changed hc row₀ changes hch hrow₀ hnew =>
      rw [hnew] at hrow
      cases hrow
      refine ⟨row₀, hrow₀, ?_⟩
      rw [written_credential]
      obtain ⟨request, fault⟩ := a
      cases request with
      | rotateSecret => exact absurd ⟨hc.symm, hs⟩ hinst
      | validateConnection connectionId ctx checkedAt failure =>
        cases hch
        cases failure <;> rfl
      | enableConnection =>
        cases hch
        rfl
      | disableConnection =>
        cases hch
        rfl
      | _ => cases hch
  · rw [after_db_of_fails hs] at hrow
    exact ⟨row, hrow, rfl⟩

theorem credential_of_run {as : List Attempt}
    (hrow : (stateAfter s as).db.connections.find? c = some row)
    (hm : Meets after (fun s b => ¬Installs c s b) s as) :
    ∃ row₀, s.db.connections.find? c = some row₀ ∧
      row₀.credentialReferenceId = row.credentialReferenceId := by
  induction as generalizing s with
  | nil => exact ⟨row, hrow, rfl⟩
  | cons b as ih =>
    obtain ⟨row₁, hrow₁, hk⟩ := ih hrow hm.2
    obtain ⟨row₀, hrow₀, hk₀⟩ := credential_of_step hrow₁ hm.1
    exact ⟨row₀, hrow₀, hk₀.trans hk⟩

/-- The engine that is checked has the credential of the connection, also when it was cached. -/
theorem checkOf_of_passes (hfits : PoolFits s) (h : PassesCheck c s a)
    (hrow : s.db.connections.find? c = some row) : CheckOf c row.credentialReferenceId s a := by
  obtain ⟨hcheck, hs⟩ := h
  obtain ⟨response, tr, hr⟩ := hs.respond_eq
  obtain ⟨request, fault⟩ := a
  cases request with
  | validateConnection connectionId ctx checkedAt failure =>
    obtain ⟨rfl, rfl⟩ := hcheck
    obtain ⟨connection, engine, db, hfind, htenant, hengine, hmem, -⟩ := validate_ok hr
    rw [hrow] at hfind
    cases hfind
    have hboth : engine.connection.id = connectionId ∧
        engine.credential.id = row.credentialReferenceId := by
      rcases hengine with hp | ⟨hconnection, hk⟩
      · obtain ⟨row', hrow', -, hid, hk⟩ := hfits _ _ _ hp
        rw [hrow] at hrow'
        cases hrow'
        exact ⟨hid, hk⟩
      · rw [hconnection]
        exact ⟨(Table.find?_eq_some.1 hrow).2, hk⟩
    exact ⟨engine, none, row, by rw [hr]; exact hmem, hboth.1, hboth.2, hrow, rfl⟩
  | _ => exact hcheck.elim

end

/-! ## Active connections -/

section

variable {start : Shared} {as : List Attempt} {c : Uuid} {row : CustomerDatabaseConnection}

theorem PassesCheck.not_installs {s : Shared} {a : Attempt} (h : PassesCheck c s a) :
    ¬Installs c s a := by
  obtain ⟨request, fault⟩ := a
  intro hinst
  cases request with
  | validateConnection => exact hinst.1.elim
  | _ => exact h.1.elim

/-- The check that a connection has passed was of the credential it has now. -/
theorem since_check (hfits : PoolFits start)
    (h : Since after (PassesCheck c) (Installs c) start as)
    (hrow : (stateAfter start as).db.connections.find? c = some row) :
    Since after (CheckOf c row.credentialReferenceId) (Installs c) start as := by
  obtain ⟨pre, a, post, rfl, hp, hpost⟩ := h
  have hsplit : stateAfter start (pre ++ a :: post) =
      stateAfter (run after start (pre ++ [a])) post := by simp [stateAfter]
  rw [hsplit] at hrow
  obtain ⟨row₁, hrow₁, hk₁⟩ := credential_of_run hrow hpost
  rw [run_append] at hrow₁
  obtain ⟨row₀, hrow₀, hk₀⟩ := credential_of_step hrow₁ hp.not_installs
  refine ⟨pre, a, post, rfl, ?_, hpost⟩
  rw [← hk₁, ← hk₀]
  exact checkOf_of_passes (poolFits_of_run hfits pre) hp hrow₀

/-- When nobody enables a connection before a check with its credential has passed, every active
connection has passed such a check, and has had no other credential since. -/
theorem active_was_checked (hpool : start.pool = Table.empty)
    (hstart : ∀ c row, start.db.connections.find? c = some row → row.status ≠ .ACTIVE)
    (henabled : EnabledAfterCheck start as)
    (hrow : (stateAfter start as).db.connections.find? c = some row) (hactive : row.status = .ACTIVE) :
    Since after (CheckOf c row.credentialReferenceId) (Installs c) start as := by
  have hfits : PoolFits start := by
    intro t c engine hp
    rw [hpool] at hp
    cases hp
  induction as using List.reverseRecOn generalizing row with
  | nil => exact absurd hactive (hstart c row hrow)
  | append_singleton as a ih =>
    have hsnoc : stateAfter start (as ++ [a]) = after (stateAfter start as) a := by
      simp [stateAfter]
    rw [hsnoc] at hrow
    by_cases hs : Succeeds (stateAfter start as) a
    · obtain ⟨response, tr, hr⟩ := hs.respond_eq
      cases row_of_ok hr c with
      | same hother hsame =>
        rw [hsame] at hrow
        exact (ih henabled.init hrow hactive).snoc fun hinst =>
          hinst.1.not_reads (hother hinst.1.connection)
      | registered hc hreg row' h hpending =>
        rw [h] at hrow
        cases hrow
        rw [hpending] at hactive
        cases hactive
      | deleted hc hgone =>
        rw [hgone] at hrow
        cases hrow
      | changed hc row₀ changes hch hrow₀ hnew =>
        rw [hnew] at hrow
        cases hrow
        rw [written_status] at hactive
        rw [written_credential]
        obtain ⟨request, fault⟩ := a
        cases request with
        | validateConnection connectionId ctx checkedAt failure =>
          cases hch
          cases failure with
          | none =>
            exact since_last (checkOf_of_passes (poolFits_of_run hfits as) ⟨⟨hc.symm, rfl⟩, hs⟩ hrow₀)
          | some summary => cases hactive
        | enableConnection =>
          cases hch
          have hpassed := henabled as _ [] rfl c ⟨hc.symm, hs⟩
          exact (since_check hfits hpassed hrow₀).snoc fun hinst => hinst.1
        | disableConnection =>
          cases hch
          cases hactive
        | rotateSecret =>
          cases hch
          cases hactive
        | _ => cases hch
    · rw [after_db_of_fails hs] at hrow
      exact (ih henabled.init hrow hactive).snoc fun hinst => hs hinst.2

end

/-- Enabled after a check that failed, and with a credential that was never checked. -/
theorem enabled_unchecked :
    (∃ row, (stateAfter {} [Sample.register, Sample.validate (some "timeout"), Sample.enable]).db.connections.find? 10 =
        some row ∧ row.status = .ACTIVE ∧
      Meets after (fun s a => ¬CheckOf 10 row.credentialReferenceId s a) {}
        [Sample.register, Sample.validate (some "timeout"), Sample.enable]) ∧
    ∃ row, (stateAfter {} [Sample.register, Sample.validate none, Sample.rotate, Sample.enable]).db.connections.find? 10 =
        some row ∧ row.status = .ACTIVE ∧
      Meets after (fun s a => ¬CheckOf 10 row.credentialReferenceId s a) {}
        [Sample.register, Sample.validate none, Sample.rotate, Sample.enable] := by
  refine ⟨⟨_, rfl, rfl, ?_, ?_, ?_, trivial⟩, ⟨_, rfl, rfl, ?_, ?_, ?_, ?_, trivial⟩⟩
  · rintro ⟨engine, failure, row, -, -, -, hrow, -⟩
    cases hrow
  · rintro ⟨engine, failure, row, hm, -⟩
    change _ ∈ [_, _, _, _, _, _, _] at hm
    simp at hm
  · rintro ⟨engine, failure, row, hm, -⟩
    change _ ∈ [_, _, _] at hm
    simp at hm
  · rintro ⟨engine, failure, row, -, -, -, hrow, -⟩
    cases hrow
  · rintro ⟨engine, failure, row, -, -, -, hrow, hk⟩
    cases hrow
    cases hk
  · rintro ⟨engine, failure, row, -, -, -, hrow, hk⟩
    cases hrow
    cases hk
  · rintro ⟨engine, failure, row, hm, -⟩
    change _ ∈ [_, _, _] at hm
    simp at hm

theorem active_was_checked_sample :
    ∃ row, (stateAfter {} [Sample.register, Sample.validate none, Sample.disable,
        Sample.enable]).db.connections.find? 10 = some row ∧
      Since after (CheckOf 10 row.credentialReferenceId) (Installs 10) {}
        [Sample.register, Sample.validate none, Sample.disable, Sample.enable] := by
  refine ⟨_, rfl, active_was_checked rfl ?_ ?_ rfl rfl⟩
  · intro c row hrow
    cases hrow
  · intro pre a post he c hen
    rcases pre with _ | ⟨a₀, _ | ⟨a₁, _ | ⟨a₂, _ | ⟨a₃, pre⟩⟩⟩⟩ <;> simp at he
    · obtain ⟨rfl, -⟩ := he
      exact hen.1.elim
    · obtain ⟨-, rfl, -⟩ := he
      exact hen.1.elim
    · obtain ⟨-, -, rfl, -⟩ := he
      exact hen.1.elim
    · obtain ⟨rfl, rfl, rfl, rfl, -⟩ := he
      obtain rfl : 10 = c := hen.1
      exact ⟨[Sample.register], Sample.validate none, [Sample.disable], rfl,
        ⟨⟨rfl, rfl⟩, _, rfl⟩, fun hinst => hinst.1, trivial⟩

end Connections

end HermesRpt
