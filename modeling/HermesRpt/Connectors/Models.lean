import HermesRpt.Common.Python
import HermesRpt.Lib.Table

/-!
# HermesRpt.Connectors.Models

Metadata of customer database connections, and the guard on what a query may name.

* `DatabaseCredentialReference` : an opaque reference to a secret, never the secret.
* `CustomerDatabaseConnection`  : host, database, user, credential reference and allowlists.
* `ConnectionTarget`            : what an engine is built from, the resolved secret included.
-/

namespace HermesRpt

namespace Connectors

inductive DatabaseEngine where
  | POSTGRESQL | MYSQL | MSSQL | ORACLE
  deriving DecidableEq, Repr

def DatabaseEngine.value : DatabaseEngine → String
  | POSTGRESQL => "postgresql"
  | MYSQL => "mysql"
  | MSSQL => "mssql"
  | ORACLE => "oracle"

inductive ConnectionStatus where
  | PENDING_VALIDATION | ACTIVE | DISABLED | ERROR
  deriving DecidableEq, Repr

structure DatabaseCredentialReference where
  id : Uuid
  tenantId : Uuid
  provider : String
  referenceKey : String
  isActive : Bool := true
  rotatedAt : Option DateTime := none
  deriving DecidableEq

structure CustomerDatabaseConnection where
  id : Uuid
  tenantId : Uuid
  name : String
  engine : DatabaseEngine
  host : String
  port : Nat
  databaseName : String
  username : String
  tlsMode : String := "require"
  credentialReferenceId : Uuid
  status : ConnectionStatus := .PENDING_VALIDATION
  schemaAllowlist : List String := []
  tableAllowlist : List String := []
  lastValidatedAt : Option DateTime := none
  lastError : Option String := none
  version : Nat := 1
  deriving DecidableEq

instance : Keyed.HasKey DatabaseCredentialReference Uuid := ⟨DatabaseCredentialReference.id⟩
instance : Keyed.HasKey CustomerDatabaseConnection Uuid := ⟨CustomerDatabaseConnection.id⟩

structure ConnectionTarget where
  host : String
  port : Nat
  database : String
  username : String
  password : String
  tlsMode : String
  deriving DecidableEq

/-- An engine is its target: two engines of one target reach the same database. -/
abbrev Engine := ConnectionTarget

/-- `DisallowedObjectError(schema, table)` -/
def disallowedObject (schema : String) (table : Option String) : PyError :=
  let target := match table with
    | some t => if t = "" then schema else schema ++ "." ++ t
    | none => schema
  ⟨.DisallowedObjectError,
    reprStr target ++ " is not on the approved allowlist for this connection"⟩

/-- `assert_object_allowed`: an empty allowlist allows nothing. -/
def assertObjectAllowed (schema : String) (table : Option String)
    (schemaAllowlist tableAllowlist : List String) : Except PyError Unit :=
  if schema ∉ schemaAllowlist then .error (disallowedObject schema table)
  else if table.any (· ∉ tableAllowlist) then .error (disallowedObject schema table)
  else .ok ()

end Connectors

end HermesRpt
