import HermesRpt.Connections.Requests

/-!
# HermesRpt.Connections.Credentials

The current credential of a connection, and what a request that succeeds does to it and to the
secrets.

* `credentialOf`   : a column of the credential that the connection refers to.
* `keyOf`          : its reference key, and `ownerOf` its tenant.
* `CredentialStep` : a request keeps every connection's credential, or gives its own connection
  another one or none; the secrets change with it.
-/

namespace HermesRpt

namespace Connections

open Connectors Keyed Machine
open Async Code

variable {α : Type}

def credentialOf (f : DatabaseCredentialReference → α) (db : ControlPlane) (c : Uuid) : Option α :=
  (db.connections.find? c).bind fun row => (db.credentials.find? row.credentialReferenceId).map f

def keyOf (db : ControlPlane) (c : Uuid) : Option String := credentialOf (·.referenceKey) db c

def ownerOf (db : ControlPlane) (c : Uuid) : Option Uuid := credentialOf (·.tenantId) db c

/-- A column that stays when a credential is retired. -/
def Stable (f : DatabaseCredentialReference → α) : Prop :=
  ∀ r rotatedAt, f { r with isActive := false, rotatedAt } = f r

/-- Every connection refers to a credential that exists. -/
def Referenced (db : ControlPlane) : Prop :=
  ∀ c row, db.connections.find? c = some row → ∃ key, keyOf db c = some key

section

variable {db db' : ControlPlane} {c : Uuid} {f : DatabaseCredentialReference → α}

theorem credentialOf_of_row {row : CustomerDatabaseConnection}
    (h : db.connections.find? c = some row) : credentialOf f db c =
      (db.credentials.find? row.credentialReferenceId).map f := by
  rw [credentialOf, h, Option.bind_some]

theorem credentialOf_of_none (h : db.connections.find? c = none) : credentialOf f db c = none := by
  rw [credentialOf, h, Option.bind_none]

theorem credentialOf_congr (hrow : db'.connections.find? c = db.connections.find? c)
    (hcredential : ∀ row, db.connections.find? c = some row →
      (db'.credentials.find? row.credentialReferenceId).map f =
        (db.credentials.find? row.credentialReferenceId).map f) :
    credentialOf f db' c = credentialOf f db c := by
  rw [credentialOf, hrow]
  cases h : db.connections.find? c with
  | none => rw [credentialOf, h]; rfl
  | some row => rw [credentialOf_of_row h, ← hcredential row h]; rfl

/-- The trail of audit events is no part of it. -/
theorem credentialOf_audit (audit : List AuditEvent) :
    credentialOf f { db with audit } c = credentialOf f db c := rfl

theorem Referenced.credential (h : Referenced db) {row : CustomerDatabaseConnection}
    (hrow : db.connections.find? c = some row) :
    ∃ credential, db.credentials.find? row.credentialReferenceId = some credential := by
  obtain ⟨key, hkey⟩ := h c row hrow
  rw [keyOf, credentialOf_of_row hrow] at hkey
  obtain ⟨credential, hcredential, -⟩ := Option.map_eq_some_iff.1 hkey
  exact ⟨credential, hcredential⟩

/-- After an update the connection has the credential that it refers to now. -/
theorem credentialOf_updateConnection {row : CustomerDatabaseConnection}
    {changes : ConnectionChanges} (hrow : db.connections.find? row.id = some row)
    (h : applyWrite db (.updateConnection row changes) = .ok db') :
    credentialOf f db' c = if c = row.id then
        (db.credentials.find? (changes.credentialReferenceId.getD row.credentialReferenceId)).map f
      else credentialOf f db c := by
  have hcredentials : db'.credentials = db.credentials := by
    rcases updateConnection_ok h with ⟨-, rfl⟩ | ⟨-, rfl⟩ <;> rfl
  have hfind := find?_updateConnection (c := c) hrow h
  split
  · rename_i hc
    rw [if_pos hc] at hfind
    rw [credentialOf_of_row hfind, hcredentials, written_credential]
  · rename_i hc
    rw [if_neg hc] at hfind
    exact credentialOf_congr hfind fun row _ => by rw [hcredentials]

/-- A credential that is added has an id that no connection refers to. -/
theorem credentialOf_addCredential {ctx : TenantContext} {credential : DatabaseCredentialReference}
    (hreferenced : Referenced db) (h : applyWrite db (.addCredential ctx credential) = .ok db') :
    credentialOf f db' c = credentialOf f db c := by
  obtain ⟨hnone, hfind⟩ := addCredential_ok h
  refine credentialOf_congr ?_ fun row hrow => ?_
  · rw [connections_of_applyWrite h fun hn => hn]
  · obtain ⟨old, hold⟩ := hreferenced.credential hrow
    rw [hfind, if_neg]
    intro he
    rw [← he, hnone] at hold
    cases hold

theorem credentialOf_deleteConnection {row : CustomerDatabaseConnection}
    (h : applyWrite db (.deleteConnection row) = .ok db') :
    credentialOf f db' c = if c = row.id then none else credentialOf f db c := by
  have hdb := deleteConnection_ok h
  have hfind : db'.connections.find? c = if c = row.id then none else db.connections.find? c := by
    rw [hdb, Table.find?_erase]
  split
  · rename_i hc
    exact credentialOf_of_none (hfind.trans (if_pos hc))
  · rename_i hc
    exact credentialOf_congr (hfind.trans (if_neg hc)) fun row _ => by rw [hdb]

/-- A credential is deleted when no connection refers to it. -/
theorem credentialOf_deleteCredential {id : Uuid}
    (h : applyWrite db (.deleteCredential id) = .ok db') :
    credentialOf f db' c = credentialOf f db c := by
  obtain ⟨hnone, rfl⟩ := deleteCredential_ok h
  refine credentialOf_congr rfl fun row hrow => ?_
  show (Table.find? (Table.erase db.credentials id) _).map _ = _
  rw [Table.find?_erase, if_neg (hnone row (Table.find?_eq_some.1 hrow).1)]

theorem map_retireCredential {id k : Uuid} {rotatedAt : DateTime} (hf : Stable f)
    (h : applyWrite db (.retireCredential id rotatedAt) = .ok db') :
    (db'.credentials.find? k).map f = (db.credentials.find? k).map f := by
  rw [retireCredential_ok h, Table.find?_update]
  split
  · rw [Option.map_map]
    exact congrArg (fun g => Option.map g _) (funext fun r => hf r _)
  · rfl

end

/-! ## Secrets -/

def Stores (secrets : Dict String String) (key : String) : Prop :=
  ∃ secret, secrets.get? key = some secret

theorem stores_set {secrets : Dict String String} {key key' secret : String} :
    Stores (secrets.set key secret) key' ↔ key' = key ∨ Stores secrets key' := by
  rw [Stores, Dict.get?_set]
  split <;> simp_all [Stores]

theorem stores_erase {secrets : Dict String String} {key key' : String} :
    Stores (Table.erase secrets key) key' ↔ key' ≠ key ∧ Stores secrets key' := by
  rw [Stores, Dict.get?_erase]
  split <;> simp_all [Stores]

/-- The key that a request draws. -/
def drawnKey : Request → Option String
  | .registerConnection _ _ secretId _ _ => some (referenceKeyOf secretId)
  | .rotateSecret _ _ _ secretId _ _ => some (referenceKeyOf secretId)
  | _ => none

/-! ## Requests that succeed -/

/-- The connection's credential is of the connection's tenant. -/
def OwnsCredential (db : ControlPlane) (c : Uuid) : Prop :=
  ∀ row, db.connections.find? c = some row → ownerOf db c = some row.tenantId

/-- A request keeps every connection's credential, or gives its own connection a new one or none.
What it removes from the store is the key that the connection had, unless the credential is another
tenant's. -/
inductive CredentialStep (s : Shared) (request : Request) (s' : Shared) : Prop where
  | same (hregister : ¬Registers request)
      (hkept : ∀ {α : Type} (f : DatabaseCredentialReference → α) c,
        credentialOf f s'.db c = credentialOf f s.db c)
      (hsecrets : s'.secrets = s.secrets)
  | assigned (new : Option DatabaseCredentialReference) (removed : Option String)
      (hgone : new = none → s'.db.connections.find? (connectionOf request) = none)
      (hself : ∀ {α : Type} (f : DatabaseCredentialReference → α), Stable f →
        credentialOf f s'.db (connectionOf request) = new.map f)
      (hother : ∀ {α : Type} (f : DatabaseCredentialReference → α), Stable f →
        ∀ c, c ≠ connectionOf request → credentialOf f s'.db c = credentialOf f s.db c)
      (howner : ∀ credential, new = some credential →
        credential.tenantId = (callerContext request).tenantId)
      (hdrawn : new.map (·.referenceKey) = drawnKey request)
      (hstored : ∀ key, Stores s'.secrets key ↔
        (Stores s.secrets key ∨ drawnKey request = some key) ∧ removed ≠ some key)
      (hremoved : ∀ key, removed = some key → keyOf s.db (connectionOf request) = some key)
      (hexact : OwnsCredential s.db (connectionOf request) →
        removed = keyOf s.db (connectionOf request))

section

variable {s s' : Shared} {request : Request} {row : CustomerDatabaseConnection}
  {changes : ConnectionChanges} {db : ControlPlane} {ctx : TenantContext} {connectionId : Uuid}

theorem credentialStep_of_update (hregister : ¬Registers request)
    (hfound : s.db.connections.find? connectionId = some row) (hk : changes.credentialReferenceId = none)
    (hws : applyWrites s.db [.updateConnection row changes] = .ok db)
    (hdb : s'.db = { db with audit := s'.db.audit }) (hsecrets : s'.secrets = s.secrets) :
    CredentialStep s request s' := by
  have hid : row.id = connectionId := (Table.find?_eq_some.1 hfound).2
  have hrow : s.db.connections.find? row.id = some row := hid ▸ hfound
  obtain ⟨db₁, h, hws⟩ := applyWrites_cons_ok.1 hws
  cases applyWrites_nil_ok.1 hws
  refine .same hregister (fun f c => ?_) hsecrets
  rw [hdb, credentialOf_audit, credentialOf_updateConnection hrow h]
  split
  · rename_i hc
    rw [hc, credentialOf_of_row hrow, hk]
    rfl
  · rfl

/-- The connection that is registered has the credential that is added with it. -/
theorem credentialStep_register {body : ConnectionRegisterRequest} {secretId credentialId : Uuid}
    (hreferenced : Referenced s.db)
    (hws : applyWrites s.db [
        .addCredential ctx (newCredential ctx credentialId "local_dev" (referenceKeyOf secretId)),
        .addConnection ctx (body.connection ctx connectionId credentialId)] = .ok db)
    (hdb : s'.db = { db with audit := s'.db.audit })
    (hsecrets : s'.secrets = s.secrets.set (referenceKeyOf secretId) body.secretValue) :
    CredentialStep s (.registerConnection ctx body secretId credentialId connectionId) s' := by
  obtain ⟨db₁, h₁, hws⟩ := applyWrites_cons_ok.1 hws
  obtain ⟨db₂, h₂, hws⟩ := applyWrites_cons_ok.1 hws
  cases applyWrites_nil_ok.1 hws
  obtain ⟨hnone, hfind⟩ := addConnection_ok h₂
  obtain ⟨-, hcredential⟩ := addCredential_ok h₁
  have hcredentials : db.credentials = db₁.credentials := by
    obtain ⟨u, ha⟩ := map_snd_ok h₂
    obtain ⟨-, -, t, -, rfl⟩ := add_ok.1 ha
    rfl
  have hbefore : keyOf s.db connectionId = none := by
    refine credentialOf_of_none ?_
    rw [← connections_of_applyWrite h₁ fun hn => hn]
    exact hnone
  refine .assigned (some (newCredential ctx credentialId "local_dev" (referenceKeyOf secretId))) none
    (fun hn => by cases hn) (fun f _ => ?_) (fun f _ c hc => ?_) (fun credential hc => ?_) rfl
    (fun key => ?_) (fun key hkey => by cases hkey) fun _ => hbefore.symm
  · have hrow := (hfind connectionId).trans (if_pos rfl)
    show credentialOf f s'.db connectionId = _
    rw [hdb, credentialOf_audit, credentialOf_of_row hrow, hcredentials]
    show (db₁.credentials.find? credentialId).map f = _
    rw [hcredential]
    exact congrArg (Option.map f) (if_pos rfl)
  · rw [hdb, credentialOf_audit, credentialOf_congr ((hfind c).trans (if_neg (Ne.symm hc)))
      fun row _ => by rw [hcredentials]]
    exact credentialOf_addCredential hreferenced h₁
  · cases hc
    rfl
  · rw [hsecrets, stores_set]
    simp [drawnKey, or_comm, eq_comm]

/-- The connection's credential is the new one, and the secret of the old one is gone. -/
theorem credentialStep_rotate {secretId credentialId : Uuid} {newSecretValue : String}
    {now : DateTime} {old : DatabaseCredentialReference} (hreferenced : Referenced s.db)
    (hrow : s.db.connections.find? connectionId = some row)
    (hold : s.db.credentials.find? row.credentialReferenceId = some old)
    (hws : applyWrites s.db [
        .addCredential ctx (newCredential ctx credentialId old.provider (referenceKeyOf secretId)),
        .retireCredential old.id now, .updateConnection row (rotated credentialId)] = .ok db)
    (hdb : s'.db = { db with audit := s'.db.audit })
    (hsecrets : s'.secrets =
      (s.secrets.set (referenceKeyOf secretId) newSecretValue).erase old.referenceKey) :
    CredentialStep s (.rotateSecret connectionId ctx newSecretValue secretId credentialId now) s' := by
  obtain ⟨db₁, h₁, hws⟩ := applyWrites_cons_ok.1 hws
  obtain ⟨db₂, h₂, hws⟩ := applyWrites_cons_ok.1 hws
  obtain ⟨db₃, h₃, hws⟩ := applyWrites_cons_ok.1 hws
  cases applyWrites_nil_ok.1 hws
  have hid : row.id = connectionId := (Table.find?_eq_some.1 hrow).2
  have hkey : keyOf s.db connectionId = some old.referenceKey :=
    (credentialOf_of_row hrow).trans (congrArg (Option.map _) hold)
  have hconnections : db₂.connections = s.db.connections :=
    (connections_of_applyWrite h₂ fun hn => hn).trans (connections_of_applyWrite h₁ fun hn => hn)
  have hupdated : ∀ {α : Type} (f : DatabaseCredentialReference → α), Stable f → ∀ c,
      credentialOf f db c = if c = connectionId then
        some (f (newCredential ctx credentialId old.provider (referenceKeyOf secretId)))
      else credentialOf f s.db c := by
    intro α f hf c
    rw [credentialOf_updateConnection (by rw [hconnections, hid, hrow]) h₃, hid]
    split
    · rw [map_retireCredential hf h₂, (addCredential_ok h₁).2]
      exact congrArg (Option.map f) (if_pos rfl)
    · rw [← credentialOf_addCredential hreferenced h₁]
      exact credentialOf_congr (by rw [connections_of_applyWrite h₂ fun hn => hn])
        fun row _ => map_retireCredential hf h₂
  refine .assigned (some (newCredential ctx credentialId old.provider (referenceKeyOf secretId)))
    (some old.referenceKey) (fun hn => by cases hn) (fun f hf => ?_) (fun f hf c hc => ?_)
    (fun credential hc => ?_) rfl (fun key => ?_) (fun key hk => hkey.trans hk) fun _ => hkey.symm
  · rw [hdb, credentialOf_audit]
    exact (hupdated f hf connectionId).trans (if_pos rfl)
  · rw [hdb, credentialOf_audit]
    exact (hupdated f hf c).trans (if_neg hc)
  · cases hc
    rfl
  · rw [hsecrets, stores_erase, stores_set]
    simp only [drawnKey, Option.some.injEq, ne_eq]
    grind

theorem credentialStep_delete (removed : Option String)
    (hgone : s'.db.connections.find? connectionId = none)
    (hother : ∀ {α : Type} (f : DatabaseCredentialReference → α) c, c ≠ connectionId →
      credentialOf f s'.db c = credentialOf f s.db c)
    (hstored : ∀ key, Stores s'.secrets key ↔ Stores s.secrets key ∧ removed ≠ some key)
    (hremoved : ∀ key, removed = some key → keyOf s.db connectionId = some key)
    (hexact : OwnsCredential s.db connectionId → removed = keyOf s.db connectionId) :
    CredentialStep s (.deleteConnection connectionId ctx) s' := by
  refine .assigned none removed (fun _ => hgone) (fun f _ => credentialOf_of_none hgone)
    (fun f _ => hother f) (fun credential hc => by cases hc) rfl (fun key => ?_) hremoved hexact
  rw [hstored]
  simp [drawnKey]

/-- The credential that the caller sees is deleted with its secret. -/
theorem credentialStep_delete_seen {credential : DatabaseCredentialReference}
    (hrow : s.db.connections.find? connectionId = some row)
    (hseen : get s.db row.credentialReferenceId ctx = some credential)
    (hws : applyWrites s.db [.deleteConnection row, .deleteCredential credential.id] = .ok db)
    (hdb : s'.db = { db with audit := s'.db.audit })
    (hsecrets : s'.secrets = s.secrets.erase credential.referenceKey) :
    CredentialStep s (.deleteConnection connectionId ctx) s' := by
  have hid : row.id = connectionId := (Table.find?_eq_some.1 hrow).2
  obtain ⟨db₁, h₁, hws⟩ := applyWrites_cons_ok.1 hws
  obtain ⟨db₂, h₂, hws⟩ := applyWrites_cons_ok.1 hws
  cases applyWrites_nil_ok.1 hws
  have hkey : keyOf s.db connectionId = some credential.referenceKey :=
    (credentialOf_of_row hrow).trans (congrArg (Option.map _) (get_eq_some.1 hseen).1)
  refine credentialStep_delete (some credential.referenceKey) ?_ (fun f c hne => ?_)
    (fun key => ?_) (fun key hk => hkey.trans hk) fun _ => hkey.symm
  · rw [hdb]
    show db.connections.find? connectionId = none
    rw [connections_of_applyWrite h₂ fun hn => hn, deleteConnection_ok h₁, Table.find?_erase,
      if_pos hid.symm]
  · rw [hdb, credentialOf_audit, credentialOf_deleteCredential h₂,
      credentialOf_deleteConnection h₁, hid, if_neg hne]
  · rw [hsecrets, stores_erase]
    simp only [ne_eq, Option.some.injEq]
    grind

/-- A credential that the caller does not see stays; it is another tenant's. -/
theorem credentialStep_delete_unseen (hrow : s.db.connections.find? connectionId = some row)
    (htenant : row.tenantId = ctx.tenantId)
    (hunseen : (get s.db row.credentialReferenceId ctx : Option DatabaseCredentialReference) = none)
    (hws : applyWrites s.db [.deleteConnection row] = .ok db)
    (hdb : s'.db = { db with audit := s'.db.audit }) (hsecrets : s'.secrets = s.secrets) :
    CredentialStep s (.deleteConnection connectionId ctx) s' := by
  have hid : row.id = connectionId := (Table.find?_eq_some.1 hrow).2
  obtain ⟨db₁, h₁, hws⟩ := applyWrites_cons_ok.1 hws
  cases applyWrites_nil_ok.1 hws
  refine credentialStep_delete none ?_ (fun f c hne => ?_) (fun key => ?_)
    (fun key hk => by cases hk) fun howns => ?_
  · rw [hdb]
    show db.connections.find? connectionId = none
    rw [deleteConnection_ok h₁, Table.find?_erase, if_pos hid.symm]
  · rw [hdb, credentialOf_audit, credentialOf_deleteConnection h₁, hid, if_neg hne]
  · rw [hsecrets]
    simp
  · -- The tenant owns the credential, so it would have been found.
    have howner := howns row hrow
    rw [ownerOf, credentialOf_of_row hrow] at howner
    obtain ⟨credential, hcredential, ht⟩ := Option.map_eq_some_iff.1 howner
    have hfound : get s.db row.credentialReferenceId ctx = some credential :=
      get_eq_some.2 ⟨hcredential, ht.trans htenant⟩
    rw [hfound] at hunseen
    cases hunseen

theorem credentialStep_of_ok {a : Attempt} {response : Response} {tr : Trace Reply}
    (hreferenced : Referenced s.db) (hr : respond s a = (.ok response, tr, s')) :
    CredentialStep s a.request s' := by
  obtain ⟨request, fault⟩ := a
  cases request with
  | registerConnection ctx body secretId credentialId connectionId =>
    obtain ⟨db, hws, hs⟩ := register_ok hr
    exact credentialStep_register hreferenced hws (congrArg (·.db) hs) (congrArg (·.secrets) hs)
  | getOrCreateEngine connectionId ctx =>
    obtain ⟨connection, engine, -, -, -, -, hdb, hsecrets⟩ := getOrCreateEngine_ok hr
    exact .same id (fun f c => by rw [hdb]) hsecrets
  | validateConnection connectionId ctx checkedAt failure =>
    obtain ⟨row, engine, db, hrow, -, -, -, hws, hdb, hsecrets⟩ := validate_ok hr
    exact credentialStep_of_update id hrow (spares_healthCheck _).1 hws hdb hsecrets
  | enableConnection connectionId ctx =>
    obtain ⟨row, db, hrow, -, hws, hs⟩ := enable_ok hr
    exact credentialStep_of_update id hrow rfl hws (congrArg (·.db) hs) (congrArg (·.secrets) hs)
  | disableConnection connectionId ctx =>
    obtain ⟨row, db, hrow, -, hws, hs⟩ := disable_ok hr
    exact credentialStep_of_update id hrow rfl hws (congrArg (·.db) hs) (congrArg (·.secrets) hs)
  | rotateSecret connectionId ctx newSecretValue secretId credentialId now =>
    obtain ⟨row, old, db, hrow, -, hold, hws, hs⟩ := rotate_ok hr
    exact credentialStep_rotate hreferenced hrow hold hws (congrArg (·.db) hs)
      (congrArg (·.secrets) hs)
  | deleteConnection connectionId ctx =>
    obtain ⟨row, db, hrow, htenant, hd⟩ := delete_ok hr
    split at hd
    · rename_i credential hc
      obtain ⟨hws, hs⟩ := hd
      exact credentialStep_delete_seen hrow hc hws (congrArg (·.db) hs) (congrArg (·.secrets) hs)
    · rename_i hc
      obtain ⟨hws, hs⟩ := hd
      exact credentialStep_delete_unseen hrow htenant hc hws (congrArg (·.db) hs)
        (congrArg (·.secrets) hs)

end

end Connections

end HermesRpt
