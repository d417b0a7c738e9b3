import HermesRpt.Connections.Credentials
import HermesRpt.Connections.Disabled
import HermesRpt.Lib.Custody

/-!
# HermesRpt.Connections.Secrets

The secret store takes no part in the transaction of a request. A request stores a secret before it
writes the row that refers to it, but `rotate_secret` and `delete_connection` delete the old one
before they commit, and a failure in between leaves a connection without a secret
(`secret_lost`).

* `SecretsHeld`      : every connection has a key of its own, and its secret is stored.
* `LosesSecret`      : a request fails after it has deleted a secret.
* `secrets_resolve`  : when none does, every connection has its secret after every run.
-/

namespace HermesRpt

namespace Connections

open Connectors Keyed Machine
open Async Code
open Custody (Held Assigned)

def storedKeys (s : Shared) : Set String := { key | Stores s.secrets key }

structure SecretsHeld (s : Shared) : Prop where
  named : Referenced s.db
  held : Held (keyOf s.db) (storedKeys s)

/-- A reference key is drawn once. -/
def DrawsFreshKey (s : Shared) (a : Attempt) : Prop :=
  ∀ key, drawnKey a.request = some key → s.secrets.get? key = none

def LosesSecret (s : Shared) (a : Attempt) : Prop :=
  (∃ key, ⟨.deleteSecret key, ()⟩ ∈ (respond s a).2.1) ∧ ¬Succeeds s a

/-- The connection's credential refers to a secret that is not stored. -/
def WithoutSecret (s : Shared) (c : Uuid) : Prop :=
  ∃ row credential, s.db.connections.find? c = some row ∧
    s.db.credentials.find? row.credentialReferenceId = some credential ∧
    s.secrets.get? credential.referenceKey = none

/-! ## Requests that fail -/

section

variable {s : Shared} {a : Attempt}

theorem deleted_or_kept {key : String} (hkey : key ∈ storedKeys s) :
    ⟨.deleteSecret key, ()⟩ ∈ (respond s a).2.1 ∨ key ∈ storedKeys (after s a) := by
  refine serve_invariant (h := handle)
    (I := fun tr s' => ⟨.deleteSecret key, ()⟩ ∈ tr ∨ key ∈ storedKeys s')
    (fun tr e s₁ r s₂ hs _ _ hr => ?_) (program_safe a.request) (.inr hkey)
  rcases hs with hs | hs
  · exact .inl (List.mem_append_left _ hs)
  · by_cases he : e = .deleteSecret key
    · subst he
      exact .inl (by simp)
    · exact .inr (secrets_of_replied hr he hs)

/-- A request that fails before it deletes a secret leaves every connection its secret. -/
theorem held_of_fails (h : SecretsHeld s) (hfails : ¬Succeeds s a) (hloses : ¬LosesSecret s a) :
    SecretsHeld (after s a) := by
  have hdb := after_db_of_fails hfails
  have hkept : ∀ key ∈ storedKeys s, key ∈ storedKeys (after s a) := fun key hkey =>
    (deleted_or_kept hkey).resolve_left fun hdelete => hloses ⟨⟨key, hdelete⟩, hfails⟩
  constructor
  · rw [hdb]
    exact h.named
  · rw [hdb]
    exact h.held.kept hkept

end

/-! ## Requests that succeed -/

section

variable {s s' : Shared} {row : CustomerDatabaseConnection}

/-- A connection that is there after a request that did not register it was there before. -/
theorem row_before {a : Attempt} {response : Response} {tr : Trace Reply} {c : Uuid}
    (hr : respond s a = (.ok response, tr, s')) (hrow : s'.db.connections.find? c = some row)
    (hregister : c = connectionOf a.request → ¬Registers a.request) :
    ∃ row₀, s.db.connections.find? c = some row₀ := by
  cases row_of_ok hr c with
  | same _ hsame => exact ⟨row, hsame ▸ hrow⟩
  | registered hc hreg => exact absurd hreg (hregister hc)
  | changed hc row₀ changes hch hrow₀ hnew => exact ⟨row₀, hrow₀⟩
  | deleted hc hgone =>
    rw [hgone] at hrow
    cases hrow

/-- The step of `Held`: the key that is drawn is fresh, and what is removed is the connection's. -/
theorem assigned_of_step {request : Request} {new : Option DatabaseCredentialReference}
    {removed : Option String} (hheld : Held (keyOf s.db) (storedKeys s))
    (hfresh : ∀ key, drawnKey request = some key → s.secrets.get? key = none)
    (hself : keyOf s'.db (connectionOf request) = new.map (·.referenceKey))
    (hother : ∀ c, c ≠ connectionOf request → keyOf s'.db c = keyOf s.db c)
    (hdrawn : new.map (·.referenceKey) = drawnKey request)
    (hstored : ∀ key, Stores s'.secrets key ↔
      (Stores s.secrets key ∨ drawnKey request = some key) ∧ removed ≠ some key)
    (hremoved : ∀ key, removed = some key → keyOf s.db (connectionOf request) = some key) :
    Assigned (connectionOf request) (drawnKey request) (keyOf s.db) (keyOf s'.db) (storedKeys s)
      (storedKeys s') := by
  have hunstored : ∀ key, drawnKey request = some key → ¬Stores s.secrets key := by
    rintro key hkey ⟨secret, hsecret⟩
    rw [hfresh key hkey] at hsecret
    cases hsecret
  refine ⟨hunstored, hself.trans hdrawn, hother, fun key hkey => (hstored key).2 ⟨.inr hkey, ?_⟩,
    fun key hkey hne => (hstored key).2 ⟨.inl hkey, ?_⟩⟩
  · intro hr
    exact hunstored key hkey (hheld.stored (hremoved key hr))
  · intro hr
    exact hne (hremoved key hr)

theorem held_of_succeeds {a : Attempt} (h : SecretsHeld s) (hfresh : DrawsFreshKey s a)
    (hs : Succeeds s a) : SecretsHeld (after s a) := by
  obtain ⟨response, tr, hr⟩ := hs.respond_eq
  cases credentialStep_of_ok h.named hr with
  | same hregister hkept hsecrets =>
    have hkeys : keyOf (after s a).db = keyOf s.db := funext fun c => hkept _ c
    constructor
    · intro c row hrow
      obtain ⟨row₀, hrow₀⟩ := row_before hr hrow fun _ => hregister
      rw [hkeys]
      exact h.named c row₀ hrow₀
    · rw [hkeys, storedKeys, hsecrets]
      exact h.held
  | assigned new removed hgone hself hother howner hdrawn hstored hremoved hexact =>
    have hkey : keyOf (after s a).db (connectionOf a.request) = new.map (·.referenceKey) :=
      hself _ fun _ _ => rfl
    have hkeys : ∀ c, c ≠ connectionOf a.request → keyOf (after s a).db c = keyOf s.db c :=
      hother _ fun _ _ => rfl
    refine ⟨fun c row hrow => ?_,
      h.held.assigned (assigned_of_step h.held hfresh hkey hkeys hdrawn hstored hremoved)⟩
    by_cases hc : c = connectionOf a.request
    · rw [hc] at hrow ⊢
      cases hn : new with
      | none =>
        rw [hgone hn] at hrow
        cases hrow
      | some credential => exact ⟨credential.referenceKey, by rw [hkey, hn]; rfl⟩
    · obtain ⟨row₀, hrow₀⟩ := row_before hr hrow fun he => absurd he hc
      rw [hkeys c hc]
      exact h.named c row₀ hrow₀

end

/-! ## Runs -/

section

variable {start : Shared} {as : List Attempt}

theorem held_of_no_connections (h : start.db.connections = Table.empty) : SecretsHeld start := by
  have hnone : ∀ c, start.db.connections.find? c = none := by
    intro c
    rw [h]
    rfl
  refine ⟨fun c row hrow => ?_, .of_none fun c => credentialOf_of_none (hnone c)⟩
  rw [hnone] at hrow
  cases hrow

theorem held_after {s : Shared} {a : Attempt} (h : SecretsHeld s)
    (ha : DrawsFreshKey s a ∧ ¬LosesSecret s a) : SecretsHeld (after s a) := by
  by_cases hs : Succeeds s a
  · exact held_of_succeeds h ha.1 hs
  · exact held_of_fails h hs ha.2

/-- Whatever requests fail, and wherever, every connection that is committed has its secret, as long
as none of them fails after it has deleted one. -/
theorem secrets_resolve (hstart : start.db.connections = Table.empty)
    (hrun : Meets after (fun s a => DrawsFreshKey s a ∧ ¬LosesSecret s a) start as) {c : Uuid}
    {row : CustomerDatabaseConnection}
    (hrow : (stateAfter start as).db.connections.find? c = some row) :
    ∃ credential secret,
      (stateAfter start as).db.credentials.find? row.credentialReferenceId = some credential ∧
      (stateAfter start as).secrets.get? credential.referenceKey = some secret := by
  have hheld : SecretsHeld (stateAfter start as) :=
    run_invariant_of_meets (I := SecretsHeld) (fun _ _ h ha => held_after h ha)
      (held_of_no_connections hstart) hrun
  obtain ⟨key, hkey⟩ := hheld.named c row hrow
  obtain ⟨secret, hsecret⟩ := hheld.held.stored hkey
  rw [keyOf, credentialOf_of_row hrow] at hkey
  obtain ⟨credential, hcredential, rfl⟩ := Option.map_eq_some_iff.1 hkey
  exact ⟨credential, secret, hcredential, hsecret⟩

end

end Connections

namespace Sample

open Connections

/-- The commit of the rotation fails. -/
def failedRotation : Attempt := { rotate with fault := some 7 }

def delete (fault : Option Nat) : Attempt := { request := .deleteConnection 10 ctx, fault }

end Sample

namespace Connections

open Connectors Keyed Machine

/-- A commit that fails after the secret is deleted leaves the connection without one: at a rotation,
and at a deletion. -/
theorem secret_lost :
    WithoutSecret (stateAfter {} [Sample.register, Sample.failedRotation]) 10 ∧
      WithoutSecret (stateAfter {} [Sample.register, Sample.delete (some 7)]) 10 :=
  ⟨⟨_, _, rfl, rfl, rfl⟩, _, _, rfl, rfl, rfl⟩

theorem secrets_resolve_sample : ∃ row credential secret,
    (stateAfter {} [Sample.register, Sample.rotate, Sample.delete (some 3)]).db.connections.find? 10 =
      some row ∧
    (stateAfter {} [Sample.register, Sample.rotate, Sample.delete (some 3)]).db.credentials.find?
      row.credentialReferenceId = some credential ∧
    (stateAfter {} [Sample.register, Sample.rotate, Sample.delete (some 3)]).secrets.get?
      credential.referenceKey = some secret := by
  have hrun : Meets after (fun s a => DrawsFreshKey s a ∧ ¬LosesSecret s a) {}
      [Sample.register, Sample.rotate, Sample.delete (some 3)] := by
    refine ⟨⟨?_, fun hl => hl.2 ⟨_, rfl⟩⟩, ⟨?_, fun hl => hl.2 ⟨_, rfl⟩⟩, ⟨?_, ?_⟩, trivial⟩
    · intro key hkey
      cases hkey
      rfl
    · intro key hkey
      cases hkey
      rfl
    · intro key hkey
      cases hkey
    · rintro ⟨⟨key, hm⟩, -⟩
      change _ ∈ [_, _, _] at hm
      simp at hm
  have hrow : (stateAfter {} [Sample.register, Sample.rotate,
      Sample.delete (some 3)]).db.connections.find? 10 = some _ := rfl
  obtain ⟨credential, secret, hcredential, hsecret⟩ := secrets_resolve rfl hrun hrow
  exact ⟨_, credential, secret, hrow, hcredential, hsecret⟩

end Connections

end HermesRpt
