import HermesRpt.Connections.Service

/-!
# HermesRpt.Connections.Replies

What the reply to an effect says about the shared state it was performed in, and what the effect
leaves there.
-/

namespace HermesRpt

namespace Connections

open Connectors Keyed
open Async Code

variable {tr : Trace Reply} {s s' : Shared} {ctx : TenantContext} {id : Uuid}

theorem requireConnection_replied {connection : CustomerDatabaseConnection}
    (h : handle tr (.requireConnection id ctx) s = .ok (connection, s')) :
    s.db.connections.find? id = some connection ∧ connection.tenantId = ctx.tenantId ∧ s' = s := by
  cases hr : require CustomerDatabaseConnection s.db id ctx with
  | error e =>
    simp only [handle, hr] at h
    cases h
  | ok row =>
    simp only [handle, hr] at h
    cases h
    exact ⟨(require_ok.1 hr).1, (require_ok.1 hr).2, rfl⟩

theorem requireCredential_replied {credential : DatabaseCredentialReference}
    (h : handle tr (.requireCredential id ctx) s = .ok (credential, s')) :
    s.db.credentials.find? id = some credential ∧ credential.tenantId = ctx.tenantId ∧ s' = s := by
  cases hr : require DatabaseCredentialReference s.db id ctx with
  | error e =>
    simp only [handle, hr] at h
    cases h
  | ok row =>
    simp only [handle, hr] at h
    cases h
    exact ⟨(require_ok.1 hr).1, (require_ok.1 hr).2, rfl⟩

theorem resolve_replied {referenceKey password : String}
    (h : handle tr (.resolve referenceKey) s = .ok (password, s')) :
    s.secrets.get? referenceKey = some password ∧ s' = s := by
  simp only [handle] at h
  split at h
  · rename_i hg
    cases h
    exact ⟨hg, rfl⟩
  · cases h

/-- An engine that is there is kept; otherwise the new one is there now. -/
theorem getOrCreate_replied {t c : Uuid} {built engine : PooledEngine}
    (h : handle tr (.getOrCreate t c built) s = .ok (engine, s')) :
    s.pool.get? (t, c) = some engine ∧ s' = s ∨
      s.pool.get? (t, c) = none ∧ engine = built ∧ s' = { s with pool := s.pool.set (t, c) built } := by
  simp only [handle] at h
  split at h
  · rename_i hg
    cases h
    exact .inl ⟨hg, rfl⟩
  · rename_i hg
    cases h
    exact .inr ⟨hg, rfl, rfl⟩

theorem flush_replied {writes : List Write} {r : Reply (.flush writes)}
    (h : handle tr (.flush writes) s = .ok (r, s')) : s' = s := by
  simp only [handle] at h
  cases hw : applyWrites s.db (pending tr ++ writes) with
  | error err =>
    rw [hw] at h
    cases h
  | ok db =>
    rw [hw] at h
    cases h
    rfl

theorem commit_replied {r : Reply .commit} (h : handle tr .commit s = .ok (r, s')) :
    ∃ db, applyWrites s.db (pending tr) = .ok db ∧ s' = { s with db } := by
  simp only [handle] at h
  cases hw : applyWrites s.db (pending tr) with
  | error err =>
    rw [hw] at h
    cases h
  | ok db =>
    rw [hw] at h
    cases h
    exact ⟨db, rfl, rfl⟩

/-- The database changes at a commit only, and the pool when an engine is put in or taken out. -/
theorem shared_of_replied {e : Await} {r : Reply e} (h : handle tr e s = .ok (r, s')) :
    s'.db = s.db ∧ s'.pool = s.pool ∨ e = .commit ∨ (∃ t c, e = .evict t c) ∨
      ∃ t c built, e = .getOrCreate t c built := by
  cases e with
  | getOrCreate t c built => exact .inr (.inr (.inr ⟨t, c, built, rfl⟩))
  | evict t c => exact .inr (.inr (.inl ⟨t, c, rfl⟩))
  | commit => exact .inr (.inl rfl)
  | requireConnection id ctx =>
    obtain ⟨-, -, rfl⟩ := requireConnection_replied h
    exact .inl ⟨rfl, rfl⟩
  | requireCredential id ctx =>
    obtain ⟨-, -, rfl⟩ := requireCredential_replied h
    exact .inl ⟨rfl, rfl⟩
  | resolve referenceKey =>
    obtain ⟨-, rfl⟩ := resolve_replied h
    exact .inl ⟨rfl, rfl⟩
  | flush writes =>
    rw [flush_replied h]
    exact .inl ⟨rfl, rfl⟩
  | getCredential id ctx | store drawn secretValue | deleteSecret referenceKey
  | checkConnectivity built failure =>
    cases h
    exact .inl ⟨rfl, rfl⟩

theorem db_of_replied {e : Await} {r : Reply e} (h : handle tr e s = .ok (r, s'))
    (he : e ≠ .commit) : s'.db = s.db := by
  rcases shared_of_replied h with ⟨hdb, -⟩ | rfl | ⟨t, c, rfl⟩ | ⟨t, c, built, rfl⟩
  · exact hdb
  · exact absurd rfl he
  · cases h
    rfl
  · rcases getOrCreate_replied h with ⟨-, rfl⟩ | ⟨-, -, rfl⟩ <;> rfl

/-- A secret is stored until it is deleted. -/
theorem secrets_of_replied {e : Await} {r : Reply e} {key : String}
    (h : handle tr e s = .ok (r, s')) (he : e ≠ .deleteSecret key)
    (hkey : ∃ secret, s.secrets.get? key = some secret) :
    ∃ secret, s'.secrets.get? key = some secret := by
  cases e with
  | store drawn secretValue =>
    cases h
    rw [Dict.get?_set]
    split
    · exact ⟨_, rfl⟩
    · exact hkey
  | deleteSecret referenceKey =>
    cases h
    rw [Dict.get?_erase, if_neg]
    · exact hkey
    · intro hk
      exact he (congrArg _ hk.symm)
  | getOrCreate t c built =>
    rcases getOrCreate_replied h with ⟨-, rfl⟩ | ⟨-, -, rfl⟩ <;> exact hkey
  | requireConnection id ctx =>
    obtain ⟨-, -, rfl⟩ := requireConnection_replied h
    exact hkey
  | requireCredential id ctx =>
    obtain ⟨-, -, rfl⟩ := requireCredential_replied h
    exact hkey
  | resolve referenceKey =>
    obtain ⟨-, rfl⟩ := resolve_replied h
    exact hkey
  | flush writes =>
    rw [flush_replied h]
    exact hkey
  | commit =>
    obtain ⟨db, -, rfl⟩ := commit_replied h
    exact hkey
  | getCredential | evict | checkConnectivity =>
    cases h
    exact hkey

/-- What is in the pool was there, or was just put in. -/
theorem pool_of_replied {e : Await} {r : Reply e} {key : Uuid × Uuid} {engine : PooledEngine}
    (h : handle tr e s = .ok (r, s')) (hp : s'.pool.get? key = some engine) :
    s.pool.get? key = some engine ∨
      s.pool.get? key = none ∧ e = .getOrCreate key.1 key.2 engine := by
  rcases shared_of_replied h with ⟨-, hpool⟩ | rfl | ⟨t, c, rfl⟩ | ⟨t, c, built, rfl⟩
  · exact .inl (hpool ▸ hp)
  · obtain ⟨db, -, rfl⟩ := commit_replied h
    exact .inl hp
  · cases h
    rw [Dict.get?_erase] at hp
    split at hp
    · cases hp
    · exact .inl hp
  · rcases getOrCreate_replied h with ⟨-, rfl⟩ | ⟨hn, -, rfl⟩
    · exact .inl hp
    · rw [Dict.get?_set] at hp
      split at hp
      · rename_i hk
        cases hp
        subst hk
        exact .inr ⟨hn, rfl⟩
      · exact .inl hp

end Connections

end HermesRpt
