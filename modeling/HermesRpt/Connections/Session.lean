import HermesRpt.Common.Repository

/-!
# HermesRpt.Connections.Session

What the session of a connection request writes to the control plane. A flush sends the statements
of its writes, and the commit makes everything that was flushed take effect at once.

* `ConnectionChanges` : the columns an `UPDATE` of a connection sets.
* `Write`             : one statement of a flush.
* `applyWrites`       : the database after the statements; a constraint or a row that has changed
  since it was read refuses them.
-/

namespace HermesRpt

namespace Connections

open Keyed (Table HasKey)
open Connectors

/-- The attributes that were assigned on a loaded connection. -/
structure ConnectionChanges where
  status : Option ConnectionStatus := none
  credentialReferenceId : Option Uuid := none
  lastValidatedAt : Option DateTime := none
  lastError : Option (Option String) := none

def ConnectionChanges.set (changes : ConnectionChanges) (connection : CustomerDatabaseConnection) :
    CustomerDatabaseConnection :=
  { connection with
    status := changes.status.getD connection.status
    credentialReferenceId := changes.credentialReferenceId.getD connection.credentialReferenceId
    lastValidatedAt := changes.lastValidatedAt.or connection.lastValidatedAt
    lastError := changes.lastError.getD connection.lastError }

/-- The row an `UPDATE` leaves; its version counter moves on from the one that was read. -/
def ConnectionChanges.flushed (changes : ConnectionChanges) (readVersion : Nat)
    (row : CustomerDatabaseConnection) : CustomerDatabaseConnection :=
  { changes.set row with version := readVersion + 1 }

theorem ConnectionChanges.key_flushed (changes : ConnectionChanges) (readVersion : Nat)
    (row : CustomerDatabaseConnection) :
    HasKey.key (changes.flushed readVersion row) = HasKey.key row := rfl

inductive Write where
  | addCredential (ctx : TenantContext) (credential : DatabaseCredentialReference)
  | addConnection (ctx : TenantContext) (connection : CustomerDatabaseConnection)
  | updateConnection (connection : CustomerDatabaseConnection) (changes : ConnectionChanges)
  | retireCredential (id : Uuid) (rotatedAt : DateTime)
  | deleteConnection (connection : CustomerDatabaseConnection)
  | deleteCredential (id : Uuid)
  | audit (ctx : TenantContext) (action : String) (outcome : AuditOutcome) (resourceId : Uuid)
      (details : List (String × Option Value))

/-- `UPDATE` or `DELETE` of a row that is not there, or has another version by now. -/
def staleData (statement verb table : String) : PyError :=
  ⟨.StaleDataError, statement ++ " statement on table '" ++ table ++ "' expected to " ++ verb ++
    " 1 row(s); 0 were matched."⟩

/-- The row of `connection` with the changes. -/
def setConnection (db : ControlPlane) (connection : CustomerDatabaseConnection)
    (changes : ConnectionChanges) : ControlPlane :=
  { db with
    connections :=
      db.connections.update connection.id (changes.flushed connection.version)
        (changes.key_flushed connection.version) }

/-- `UPDATE customer_database_connections … WHERE id = ? AND version = ?`, issued when an attribute
changed. -/
def updateConnection (db : ControlPlane) (connection : CustomerDatabaseConnection)
    (changes : ConnectionChanges) : Except PyError ControlPlane :=
  if changes.set connection = connection then .ok db
  else match db.connections.find? connection.id with
    | some row =>
      if row.version ≠ connection.version then
        .error (staleData "UPDATE" "update" "customer_database_connections")
      else if changes.credentialReferenceId.all fun k => (db.credentials.find? k).isSome then
        .ok (setConnection db connection changes)
      else .error integrityError
    | none => .error (staleData "UPDATE" "update" "customer_database_connections")

def retireCredential (db : ControlPlane) (id : Uuid) (rotatedAt : DateTime) :
    Except PyError ControlPlane :=
  match db.credentials.find? id with
  | some _ => .ok { db with
      credentials := db.credentials.update id
        (fun r => { r with isActive := false, rotatedAt := some rotatedAt }) (fun _ => rfl) }
  | none => .error (staleData "UPDATE" "update" "database_credential_references")

/-- A deleted connection takes its snapshots with it; a mapping of one of them keeps it. -/
def deleteConnection (db : ControlPlane) (connection : CustomerDatabaseConnection) :
    Except PyError ControlPlane :=
  match db.connections.find? connection.id with
  | some row =>
    if row.version ≠ connection.version then
      .error (staleData "DELETE" "delete" "customer_database_connections")
    else if db.mappings.rows.any fun m => db.snapshots.rows.any fun s =>
        s.id = m.schemaSnapshotId ∧ s.connectionId = connection.id then
      .error integrityError
    else .ok { db with
      connections := db.connections.erase connection.id
      snapshots := db.snapshots.filter fun s => s.connectionId ≠ connection.id }
  | none => .error (staleData "DELETE" "delete" "customer_database_connections")

/-- `ondelete="RESTRICT"`: a connection keeps its credential. -/
def deleteCredential (db : ControlPlane) (id : Uuid) : Except PyError ControlPlane :=
  if db.connections.rows.any fun c => c.credentialReferenceId = id then .error integrityError
  else .ok { db with credentials := db.credentials.erase id }

def applyWrite (db : ControlPlane) : Write → Except PyError ControlPlane
  | .addCredential ctx credential => (add ctx credential db).map (·.2)
  | .addConnection ctx connection => (add ctx connection db).map (·.2)
  | .updateConnection connection changes => updateConnection db connection changes
  | .retireCredential id rotatedAt => retireCredential db id rotatedAt
  | .deleteConnection connection => deleteConnection db connection
  | .deleteCredential id => deleteCredential db id
  | .audit ctx action outcome resourceId details =>
    (record ctx action outcome "CustomerDatabaseConnection" resourceId details (some ctx.principalId)
      db).map (·.2)

def applyWrites (db : ControlPlane) (writes : List Write) : Except PyError ControlPlane :=
  writes.foldlM applyWrite db

end Connections

end HermesRpt
