import HermesRpt.Connectors.Service
import HermesRpt.Features.Resolver
import HermesRpt.Lib.Process
import HermesRpt.Lib.Sql

/-!
# HermesRpt.Features.Runtime

What extraction runs on: the customer databases behind the engines, the collaborators of a call,
and the effects of a call, which a raise does not undo. The control plane is only read.

* `CustomerDatabase` : the relations of one server, and how it compares values.
* `Environment`      : the library, the secrets, the customer databases and the clock.
* `ExtractionState`  : the pool registry, and what the call did so far.
-/

namespace HermesRpt

namespace Features

open Effect Connectors Schemas

/-- A table or a view. The server may refuse a statement on it: a column it does not have, types
that do not fit, a missing privilege. -/
structure Relation where
  rows : List (Sql.Row Value)
  refuses : Sql.Select Value → Option PyError := fun _ => none

structure CustomerDatabase where
  compare : Sql.Comparison Value
  relation : (schemaName table : String) → Option Relation

/-- The text of an error of the server is the server's. -/
def undefinedTable : PyError := ⟨.DatabaseError, ""⟩

/-- The rows a statement selects, or the server's error. -/
def CustomerDatabase.run (database : CustomerDatabase) (select : Sql.Select Value) :
    Except PyError (List (Sql.Row Value)) :=
  match database.relation select.schemaName select.table with
  | none => .error undefinedTable
  | some relation =>
    match relation.refuses select with
    | some e => .error e
    | none => .ok (select.rows database.compare relation.rows)

theorem CustomerDatabase.run_ok {database : CustomerDatabase} {select : Sql.Select Value}
    {rows : List (Sql.Row Value)} : database.run select = .ok rows ↔
      ∃ relation, database.relation select.schemaName select.table = some relation ∧
        relation.refuses select = none ∧ rows = select.rows database.compare relation.rows := by
  unfold CustomerDatabase.run
  cases database.relation select.schemaName select.table with
  | none => simp
  | some relation =>
    cases h : relation.refuses select with
    | none => simp [h, eq_comm]
    | some e => simp [h]

/-- A statement gives the same on two databases whose tables refuse the same and give it the same
rows. -/
theorem CustomerDatabase.run_congr {database₁ database₂ : CustomerDatabase}
    {select : Sql.Select Value}
    (h : Option.Rel (fun r₁ r₂ => r₁.refuses = r₂.refuses ∧
        select.rows database₁.compare r₁.rows = select.rows database₂.compare r₂.rows)
      (database₁.relation select.schemaName select.table)
      (database₂.relation select.schemaName select.table)) :
    database₁.run select = database₂.run select := by
  unfold CustomerDatabase.run
  generalize database₁.relation select.schemaName select.table = relation₁ at h
  generalize database₂.relation select.schemaName select.table = relation₂ at h
  cases h with
  | none => rfl
  | some h => simp only [h.1, h.2]

structure Environment where
  std : Stdlib
  secrets : SecretProvider
  world : Engine → CustomerDatabase
  /-- `datetime.now(UTC)` during the call. -/
  now : DateTime
  /-- `uuid.uuid4()` -/
  newId : Uuid

inductive Metric where
  | disallowedQueryAttempts (tenantId : Uuid) (reason : ErrorClass)
  | invalidDataRate (tenantId : Uuid) (check : String) (severity : String) (count : Nat)
  | missingFeatureRate (tenantId : Uuid) (featureName : String) (rate : ℚ)

structure ExtractionState where
  pool : PoolRegistry
  /-- The statements sent, each with the engine it was sent to. -/
  statements : List (Engine × Sql.Select Value) := []
  metrics : List Metric := []
  audit : List AuditEvent := []

abbrev Extraction (α : Type) := Process ExtractionState PyError α

/-- `conn.execute(stmt, params)` on a connection of the engine. -/
def execute (env : Environment) (engine : Engine) (select : Sql.Select Value) :
    Extraction (List (Sql.Row Value)) := do
  Process.modify fun s => { s with statements := s.statements ++ [(engine, select)] }
  Process.lift ((env.world engine).run select)

def emit (metric : Metric) : Extraction Unit :=
  Process.modify fun s => { s with metrics := s.metrics ++ [metric] }

/-- `connection_manager.get_or_create_engine(connection_id)`; the callers use only the engine. -/
def engineFor (env : Environment) (db : ControlPlane) (connectionId : Uuid) (ctx : TenantContext) :
    Extraction Engine :=
  Process.update fun s => do
    let (_, engine, pool) ← getOrCreateEngine env.secrets db s.pool connectionId ctx
    return (engine, { s with pool })

/-- `_connection_and_snapshot_for` -/
def connectionAndSnapshotFor (db : ControlPlane) (resolved : ResolvedMapping) (ctx : TenantContext) :
    Except PyError (CustomerDatabaseConnection × SchemaSnapshot) := do
  let snapshot ← require SchemaSnapshot db resolved.schemaMapping.schemaSnapshotId ctx
  let connection ← require CustomerDatabaseConnection db snapshot.connectionId ctx
  return (connection, snapshot)

end Features

end HermesRpt
