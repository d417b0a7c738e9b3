import HermesRpt.Connections.Outline
import HermesRpt.Lib.Process

/-!
# HermesRpt.Connections.Rows

What the statements of a request do to the row of one connection.

* `SparesRow` : the statement leaves the row in place, with its tenant and its credential.
* `Spared`    : the row before and after such statements. Where it changed it is not disabled.
* `applyWrites_spared` : a commit of such statements.
-/

namespace HermesRpt

namespace Connections

open Connectors Keyed
open Effect (except_foldlM_ok)

/-- An engine for the row before is as good for the row after. -/
structure Spared (row row' : CustomerDatabaseConnection) : Prop where
  credential : row'.credentialReferenceId = row.credentialReferenceId
  tenant : row'.tenantId = row.tenantId
  enabled : row' = row ∨ row'.status ≠ .DISABLED

theorem Spared.refl (row : CustomerDatabaseConnection) : Spared row row := ⟨rfl, rfl, .inl rfl⟩

theorem Spared.trans {row row' row'' : CustomerDatabaseConnection} (h : Spared row row')
    (h' : Spared row' row'') : Spared row row'' where
  credential := h'.credential.trans h.credential
  tenant := h'.tenant.trans h.tenant
  enabled := by
    rcases h'.enabled with rfl | hs
    · exact h.enabled
    · exact .inr hs

/-- A row before is there after, and it was spared. -/
def SparedRow (db db' : ControlPlane) (c : Uuid) : Prop :=
  ∀ row, db.connections.find? c = some row →
    ∃ row', db'.connections.find? c = some row' ∧ Spared row row'

/-- A row after was there before, of the same tenant. -/
def KeepsTenant (db db' : ControlPlane) (c : Uuid) : Prop :=
  ∀ row', db'.connections.find? c = some row' →
    ∃ row, db.connections.find? c = some row ∧ row.tenantId = row'.tenantId

theorem SparedRow.of_eq {db db' : ControlPlane} {c : Uuid}
    (h : db'.connections.find? c = db.connections.find? c) : SparedRow db db' c := by
  intro row hrow
  exact ⟨row, h.trans hrow, .refl row⟩

theorem KeepsTenant.of_eq {db db' : ControlPlane} {c : Uuid}
    (h : db'.connections.find? c = db.connections.find? c) : KeepsTenant db db' c := by
  intro row hrow
  exact ⟨row, h.symm.trans hrow, rfl⟩

theorem SparedRow.trans {db db' db'' : ControlPlane} {c : Uuid} (h : SparedRow db db' c)
    (h' : SparedRow db' db'' c) : SparedRow db db'' c := by
  intro row hrow
  obtain ⟨row', hrow', hs⟩ := h row hrow
  obtain ⟨row'', hrow'', hs'⟩ := h' row' hrow'
  exact ⟨row'', hrow'', hs.trans hs'⟩

theorem KeepsTenant.trans {db db' db'' : ControlPlane} {c : Uuid} (h : KeepsTenant db db' c)
    (h' : KeepsTenant db' db'' c) : KeepsTenant db db'' c := by
  intro row'' hrow''
  obtain ⟨row', hrow', ht'⟩ := h' row'' hrow''
  obtain ⟨row, hrow, ht⟩ := h row' hrow'
  exact ⟨row, hrow, ht.trans ht'⟩

def SparesRow (c : Uuid) : Write → Prop
  | .updateConnection connection changes => connection.id = c → SparesEngine changes
  | .deleteConnection connection => connection.id ≠ c
  | _ => True

def WritesConnections : Write → Prop
  | .addConnection .. | .updateConnection .. | .deleteConnection .. => True
  | _ => False

variable {db db' : ControlPlane} {c : Uuid}

theorem updateConnection_ok {connection : CustomerDatabaseConnection} {changes : ConnectionChanges}
    (h : updateConnection db connection changes = .ok db') :
    changes.set connection = connection ∧ db' = db ∨
      changes.set connection ≠ connection ∧ db' = setConnection db connection changes := by
  unfold updateConnection at h
  split at h
  · rename_i he
    cases h
    exact .inl ⟨he, rfl⟩
  · rename_i hne
    split at h
    · split at h
      · cases h
      · split at h
        · cases h
          exact .inr ⟨hne, rfl⟩
        · cases h
    · cases h

theorem find?_setConnection (connection : CustomerDatabaseConnection) (changes : ConnectionChanges) :
    (setConnection db connection changes).connections.find? c =
      if c = connection.id then (db.connections.find? c).map (changes.flushed connection.version)
      else db.connections.find? c := by
  rw [setConnection, Table.find?_update]

theorem retireCredential_ok {id : Uuid} {rotatedAt : DateTime}
    (h : retireCredential db id rotatedAt = .ok db') :
    db' = { db with
      credentials := db.credentials.update id
        (fun r => { r with isActive := false, rotatedAt := some rotatedAt }) (fun _ => rfl) } := by
  unfold retireCredential at h
  split at h
  · cases h
    rfl
  · cases h

theorem deleteConnection_ok {connection : CustomerDatabaseConnection}
    (h : deleteConnection db connection = .ok db') :
    db' = { db with
      connections := db.connections.erase connection.id
      snapshots := db.snapshots.filter fun s => s.connectionId ≠ connection.id } := by
  unfold deleteConnection at h
  split at h
  · split at h
    · cases h
    · split at h
      · cases h
      · cases h
        rfl
  · cases h

/-- A credential is deleted when no connection refers to it. -/
theorem deleteCredential_ok {id : Uuid} (h : deleteCredential db id = .ok db') :
    (∀ row ∈ db.connections, row.credentialReferenceId ≠ id) ∧
      db' = { db with credentials := db.credentials.erase id } := by
  unfold deleteCredential at h
  split at h
  · cases h
  · rename_i hn
    cases h
    exact ⟨fun row hrow he => hn (List.any_eq_true.2 ⟨row, hrow, by simpa using he⟩), rfl⟩

theorem map_snd_ok {α : Type} {x : Except PyError (α × ControlPlane)}
    (h : x.map (·.2) = .ok db') : ∃ a, x = .ok (a, db') := by
  cases x with
  | error e => cases h
  | ok p =>
    cases h
    exact ⟨p.1, rfl⟩

theorem connections_of_applyWrite {w : Write} (h : applyWrite db w = .ok db')
    (hw : ¬WritesConnections w) : db'.connections = db.connections := by
  cases w with
  | addCredential ctx credential =>
    obtain ⟨u, ha⟩ := map_snd_ok h
    obtain ⟨-, -, t, -, rfl⟩ := add_ok.1 ha
    rfl
  | retireCredential id rotatedAt =>
    rw [retireCredential_ok h]
  | deleteCredential id =>
    rw [(deleteCredential_ok h).2]
  | audit ctx action outcome resourceId details =>
    cases h
    rfl
  | addConnection | updateConnection | deleteConnection => exact absurd trivial hw

/-- A new row has an id that no row has. -/
theorem addConnection_ok {ctx : TenantContext} {connection : CustomerDatabaseConnection}
    (h : applyWrite db (.addConnection ctx connection) = .ok db') :
    db.connections.find? connection.id = none ∧
      ∀ c, db'.connections.find? c =
        if connection.id = c then some connection else db.connections.find? c := by
  obtain ⟨u, ha⟩ := map_snd_ok h
  obtain ⟨-, -, t, ht, rfl⟩ := add_ok.1 ha
  exact ⟨(Table.insert?_eq_some.1 ht).1, fun c => Table.find?_insert? ht c⟩

theorem addCredential_ok {ctx : TenantContext} {credential : DatabaseCredentialReference}
    (h : applyWrite db (.addCredential ctx credential) = .ok db') :
    db.credentials.find? credential.id = none ∧
      ∀ k, db'.credentials.find? k =
        if credential.id = k then some credential else db.credentials.find? k := by
  obtain ⟨u, ha⟩ := map_snd_ok h
  obtain ⟨-, -, t, ht, rfl⟩ := add_ok.1 ha
  exact ⟨(Table.insert?_eq_some.1 ht).1, fun k => Table.find?_insert? ht k⟩

theorem applyWrite_spared {w : Write} (hw : SparesRow c w) (h : applyWrite db w = .ok db') :
    SparedRow db db' c := by
  cases w with
  | addConnection ctx connection =>
    obtain ⟨hfree, hfind⟩ := addConnection_ok h
    intro row hrow
    refine ⟨row, ?_, .refl row⟩
    rw [hfind, if_neg, hrow]
    rintro rfl
    rw [hfree] at hrow
    cases hrow
  | updateConnection connection changes =>
    rcases updateConnection_ok h with ⟨-, rfl⟩ | ⟨-, rfl⟩
    · exact .of_eq rfl
    · by_cases hc : c = connection.id
      · obtain ⟨hk, status, hs, hd⟩ := hw hc.symm
        intro row' hrow'
        refine ⟨changes.flushed connection.version row', ?_, ?_, rfl, ?_⟩
        · rw [find?_setConnection, if_pos hc, hrow']
          rfl
        · simp [ConnectionChanges.flushed, ConnectionChanges.set, hk]
        · exact .inr (by simpa [ConnectionChanges.flushed, ConnectionChanges.set, hs] using hd)
      · exact .of_eq (by rw [find?_setConnection, if_neg hc])
  | deleteConnection connection =>
    rw [deleteConnection_ok h]
    exact .of_eq (by rw [Table.find?_erase, if_neg (Ne.symm hw)])
  | addCredential | retireCredential | deleteCredential | audit =>
    exact .of_eq (by rw [connections_of_applyWrite h fun hn => hn])

theorem applyWrites_spared {ws : List Write} (hw : ∀ w ∈ ws, SparesRow c w)
    (h : applyWrites db ws = .ok db') : SparedRow db db' c :=
  except_foldlM_ok (P := fun d => SparedRow db d c)
    (fun _ w _ hm hd happly => hd.trans (applyWrite_spared (hw w hm) happly)) (.of_eq rfl) h

/-- No statement gives a connection to another tenant. -/
theorem applyWrite_keepsTenant {w : Write}
    (hw : ∀ ctx connection, w = .addConnection ctx connection → connection.id ≠ c)
    (h : applyWrite db w = .ok db') : KeepsTenant db db' c := by
  cases w with
  | addConnection ctx connection =>
    exact .of_eq (((addConnection_ok h).2 c).trans (if_neg (hw ctx connection rfl)))
  | updateConnection connection changes =>
    rcases updateConnection_ok h with ⟨-, rfl⟩ | ⟨-, rfl⟩
    · exact .of_eq rfl
    · intro row' hrow'
      rw [find?_setConnection] at hrow'
      split at hrow'
      · obtain ⟨row, hrow, rfl⟩ := Option.map_eq_some_iff.1 hrow'
        exact ⟨row, hrow, rfl⟩
      · exact ⟨row', hrow', rfl⟩
  | deleteConnection connection =>
    intro row' hrow'
    rw [deleteConnection_ok h, Table.find?_erase] at hrow'
    split at hrow'
    · cases hrow'
    · exact ⟨row', hrow', rfl⟩
  | addCredential | retireCredential | deleteCredential | audit =>
    exact .of_eq (by rw [connections_of_applyWrite h fun hn => hn])

theorem applyWrites_keepsTenant {ws : List Write}
    (hw : ∀ ctx connection, .addConnection ctx connection ∈ ws → connection.id ≠ c)
    (h : applyWrites db ws = .ok db') : KeepsTenant db db' c :=
  except_foldlM_ok (P := fun d => KeepsTenant db d c)
    (fun _ _ _ hm hd happly => hd.trans
      (applyWrite_keepsTenant (fun ctx connection he => hw ctx connection (he ▸ hm)) happly))
    (.of_eq rfl) h

/-- A request that has not evicted the engine of `c` writes nothing that makes it stale. -/
theorem spares_of_announced {request : Request} {tr : Async.Trace Reply} {t : Uuid}
    (hw : ∀ w ∈ pending tr, Announced request tr w)
    (howner : ∀ connection, HasRead request tr connection → connection.id = c →
      (callerContext request).tenantId = t)
    (hevicted : ¬HasEvicted tr t c) : ∀ w ∈ pending tr, SparesRow c w := by
  have hnot : ∀ connection, HasRead request tr connection → connection.id = c →
      ¬HasEvicted tr (callerContext request).tenantId connection.id := by
    intro connection hread hid
    rw [howner connection hread hid, hid]
    exact hevicted
  intro w hm
  have hannounced := hw w hm
  cases w with
  | updateConnection connection changes =>
    intro hid
    exact hannounced.2.resolve_right (hnot connection hannounced.1 hid)
  | deleteConnection connection =>
    intro hid
    exact hnot connection hannounced.1 hid hannounced.2
  | _ => trivial

/-! ## Updating the row that is committed -/

/-- The row an update leaves; nothing is sent when no column changes. -/
def written (changes : ConnectionChanges) (row : CustomerDatabaseConnection) :
    CustomerDatabaseConnection :=
  if changes.set row = row then row else changes.flushed row.version row

section

variable (changes : ConnectionChanges) (row : CustomerDatabaseConnection)

theorem written_status : (written changes row).status = changes.status.getD row.status := by
  unfold written
  split
  · rename_i h
    exact (congrArg CustomerDatabaseConnection.status h).symm
  · rfl

theorem written_credential : (written changes row).credentialReferenceId =
    changes.credentialReferenceId.getD row.credentialReferenceId := by
  unfold written
  split
  · rename_i h
    exact (congrArg CustomerDatabaseConnection.credentialReferenceId h).symm
  · rfl

theorem written_tenantId : (written changes row).tenantId = row.tenantId := by
  unfold written
  split <;> rfl

end

theorem find?_updateConnection {row : CustomerDatabaseConnection} {changes : ConnectionChanges}
    (hrow : db.connections.find? row.id = some row)
    (h : updateConnection db row changes = .ok db') :
    db'.connections.find? c = if c = row.id then some (written changes row)
      else db.connections.find? c := by
  unfold written
  rcases updateConnection_ok h with ⟨he, rfl⟩ | ⟨hne, rfl⟩
  · rw [if_pos he]
    split
    · rename_i hc
      rw [hc, hrow]
    · rfl
  · rw [find?_setConnection, if_neg hne]
    split
    · rename_i hc
      rw [hc, hrow]
      rfl
    · rfl

/-! ## Recording a check -/

/-- The record of a check is refused only when the row has changed since it was read. -/
theorem recordsCheck_applies {connection : CustomerDatabaseConnection} {ws : List Write}
    (hw : RecordsCheck connection ws) (h : db.connections.find? connection.id = some connection) :
    ∃ db', applyWrites db ws = .ok db' := by
  obtain ⟨changes, ctx, action, outcome, id, details, ⟨hk, -⟩, rfl⟩ := hw
  have hu : ∃ d, updateConnection db connection changes = .ok d := by
    unfold updateConnection
    split
    · exact ⟨_, rfl⟩
    · exact ⟨setConnection db connection changes, by simp [h, hk]⟩
  obtain ⟨d, hd⟩ := hu
  simp only [applyWrites, List.foldlM_cons, List.foldlM_nil, applyWrite, hd]
  exact ⟨_, rfl⟩

/-- After it the connection is not disabled. -/
theorem recordsCheck_enables {connection row' : CustomerDatabaseConnection} {ws : List Write}
    (hw : RecordsCheck connection ws) (h : db.connections.find? connection.id = some connection)
    (hws : applyWrites db ws = .ok db') (hrow' : db'.connections.find? connection.id = some row') :
    row'.status ≠ .DISABLED := by
  obtain ⟨changes, ctx, action, outcome, id, details, ⟨hk, status, hs, hd⟩, rfl⟩ := hw
  simp only [applyWrites, List.foldlM_cons, List.foldlM_nil] at hws
  obtain ⟨d, hd', hws⟩ := Effect.except_bind_ok.1 hws
  obtain ⟨d', ha, hws⟩ := Effect.except_bind_ok.1 hws
  cases hws
  cases ha
  have hstatus : ∀ row : CustomerDatabaseConnection, (changes.set row).status = status := by
    intro row
    simp [ConnectionChanges.set, hs]
  rcases updateConnection_ok hd' with ⟨he, rfl⟩ | ⟨-, rfl⟩
  · have hrow' := h.symm.trans hrow'
    cases hrow'
    rw [← he, hstatus]
    exact hd
  · have hrow' : (setConnection db connection changes).connections.find? connection.id =
      some row' := hrow'
    rw [find?_setConnection, if_pos rfl, h] at hrow'
    cases hrow'
    show (changes.set connection).status ≠ .DISABLED
    rw [hstatus]
    exact hd

end Connections

end HermesRpt
