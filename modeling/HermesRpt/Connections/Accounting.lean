import HermesRpt.Connections.Secrets

/-!
# HermesRpt.Connections.Accounting

The secret store against the connections, in runs whose requests all succeed.

* `Accounted`         : every connection has a key of its own, which is stored; every key that is
  stored is a connection's; and a connection's credential is of its tenant.
* `secrets_accounted` : the keys in the store are exactly those of the current credentials.
-/

namespace HermesRpt

namespace Connections

open Connectors Keyed Machine
open Async Code
open Custody (Exact)

structure Accounted (s : Shared) : Prop where
  secrets : SecretsHeld s
  exact : Exact (keyOf s.db) (storedKeys s)
  owned : ∀ c, OwnsCredential s.db c

section

variable {s : Shared} {a : Attempt}

theorem drawnKey_of_reads {request : Request} (h : Reads request) : drawnKey request = none := by
  cases request with
  | getOrCreateEngine => rfl
  | _ => exact h.elim

/-- The row that a request writes is of the caller's tenant. -/
theorem caller_of_row {s' : Shared} {response : Response} {tr : Trace Reply}
    {row : CustomerDatabaseConnection} (hr : respond s a = (.ok response, tr, s'))
    (hrow : s'.db.connections.find? (connectionOf a.request) = some row)
    (hwrites : ¬Reads a.request) : row.tenantId = (callerContext a.request).tenantId := by
  cases row_of_ok hr (connectionOf a.request) with
  | same hreads => exact absurd (hreads rfl) hwrites
  | registered hc hreg row' h hs ht =>
    rw [h] at hrow
    cases hrow
    exact ht
  | changed hc row₀ changes hch hrow₀ hnew ht =>
    rw [hnew] at hrow
    cases hrow
    rw [written_tenantId]
    exact ht
  | deleted hc hgone =>
    rw [hgone] at hrow
    cases hrow

theorem owned_after (h : Accounted s) (hs : Succeeds s a) (c : Uuid) :
    OwnsCredential (after s a).db c := by
  obtain ⟨response, tr, hr⟩ := hs.respond_eq
  intro row hrow
  have hstep := credentialStep_of_ok h.secrets.named hr
  have hrowStep := row_of_ok hr c
  cases hstep with
  | same hregister hkept hsecrets =>
    rw [ownerOf, hkept]
    cases hrowStep with
    | same hother hsame => exact h.owned c row (hsame ▸ hrow)
    | registered hc hreg => exact absurd hreg hregister
    | changed hc row₀ changes hch hrow₀ hnew ht =>
      rw [hnew] at hrow
      cases hrow
      rw [written_tenantId]
      exact h.owned c row₀ hrow₀
    | deleted hc hgone =>
      rw [hgone] at hrow
      cases hrow
  | assigned new removed hgone hself hother howner hdrawn hstored hremoved hexact =>
    by_cases hc : c = connectionOf a.request
    · subst hc
      rw [ownerOf, hself _ fun _ _ => rfl]
      cases hn : new with
      | none =>
        rw [hgone hn] at hrow
        cases hrow
      | some credential =>
        rw [hn] at hdrawn
        have hwrites : ¬Reads a.request := by
          intro hreads
          rw [drawnKey_of_reads hreads] at hdrawn
          cases hdrawn
        rw [caller_of_row hr hrow hwrites, ← howner credential hn]
        rfl
    · obtain ⟨row₀, hrow₀⟩ := row_before hr hrow fun he => absurd he hc
      rw [ownerOf, hother _ (fun _ _ => rfl) c hc]
      cases hrowStep with
      | same _ hsame => exact h.owned c row (hsame ▸ hrow)
      | registered hc' => exact absurd hc' hc
      | changed hc' => exact absurd hc' hc
      | deleted hc' => exact absurd hc' hc

theorem exact_after (h : Accounted s) (hs : Succeeds s a) (hfresh : DrawsFreshKey s a) :
    Exact (keyOf (after s a).db) (storedKeys (after s a)) := by
  obtain ⟨response, tr, hr⟩ := hs.respond_eq
  cases credentialStep_of_ok h.secrets.named hr with
  | same hregister hkept hsecrets =>
    have hkeys : keyOf (after s a).db = keyOf s.db := funext fun c => hkept _ c
    rw [hkeys, storedKeys, hsecrets]
    exact h.exact
  | assigned new removed hgone hself hother howner hdrawn hstored hremoved hexact =>
    have ha := assigned_of_step h.secrets.held hfresh (hself _ fun _ _ => rfl)
      (hother _ fun _ _ => rfl) hdrawn hstored hremoved
    refine h.exact.assigned ha fun key hkey => ?_
    obtain ⟨hkey, hne⟩ := (hstored key).1 hkey
    rw [hexact (h.owned _)] at hne
    exact hkey.imp (fun hkey => ⟨hkey, hne⟩) id

theorem accounted_after (h : Accounted s) (ha : Succeeds s a ∧ DrawsFreshKey s a) :
    Accounted (after s a) where
  secrets := held_of_succeeds h.secrets ha.2 ha.1
  exact := exact_after h ha.1 ha.2
  owned := owned_after h ha.1

end

/-- After requests that all succeeded, the keys in the store are those of the current credentials,
each of one connection. -/
theorem secrets_accounted {start : Shared} (hconnections : start.db.connections = Table.empty)
    (hsecrets : start.secrets = Table.empty) {as : List Attempt}
    (hrun : Meets after (fun s a => Succeeds s a ∧ DrawsFreshKey s a) start as) :
    (∀ key, (∃ secret, (stateAfter start as).secrets.get? key = some secret) ↔
        ∃ c, keyOf (stateAfter start as).db c = some key) ∧
      (∀ c row, (stateAfter start as).db.connections.find? c = some row →
        ∃ key, keyOf (stateAfter start as).db c = some key) ∧
      ∀ c c' key, keyOf (stateAfter start as).db c = some key →
        keyOf (stateAfter start as).db c' = some key → c = c' := by
  have hstart : Accounted start := by
    refine ⟨held_of_no_connections hconnections, ?_, ?_⟩
    · rintro key ⟨secret, hsecret⟩
      rw [hsecrets] at hsecret
      cases hsecret
    · intro c row hrow
      rw [hconnections] at hrow
      cases hrow
  have h : Accounted (stateAfter start as) :=
    run_invariant_of_meets (I := Accounted) (fun _ _ h ha => accounted_after h ha) hstart hrun
  exact ⟨fun key => ⟨h.exact key, fun ⟨c, hc⟩ => h.secrets.held.stored hc⟩, h.secrets.named,
    fun c c' key hc hc' => h.secrets.held.own hc hc'⟩

theorem secrets_accounted_sample :
    (∃ secret, (stateAfter {} [Sample.register, Sample.rotate]).secrets.get? (referenceKeyOf 2) =
        some secret) ↔
      ∃ c, keyOf (stateAfter {} [Sample.register, Sample.rotate]).db c =
        some (referenceKeyOf 2) := by
  have hrun : Meets after (fun s a => Succeeds s a ∧ DrawsFreshKey s a) {}
      [Sample.register, Sample.rotate] := by
    refine ⟨⟨⟨_, rfl⟩, ?_⟩, ⟨⟨_, rfl⟩, ?_⟩, trivial⟩
    · intro key hkey
      cases hkey
      rfl
    · intro key hkey
      cases hkey
      rfl
  exact (secrets_accounted rfl rfl hrun).1 (referenceKeyOf 2)

end Connections

end HermesRpt
