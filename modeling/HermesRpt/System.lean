import HermesRpt.Features.Resolver
import HermesRpt.Lib.Run
import HermesRpt.Mappings.Effects
import HermesRpt.Schemas.Service

/-!
# HermesRpt.System

The control plane as a machine: its calls, each run to completion and committed or rolled back
before the next one.

* `Call`      : a call of a mapping or discovery method with its arguments and the ids it draws.
* `perform`   : the transaction of a call.
* `step`      : the state after a call; a call that raises changes nothing.
* `Reachable` : the states of runs that start without mappings.
-/

namespace HermesRpt

open Transaction Machine
open Connectors Schemas Mappings

inductive Call where
  | createDraft (ctx : TenantContext) (schemaSnapshotId : Uuid) (document : MappingDocument)
      (ontologyVersion : String) (isAiSuggested : Bool) (confidence : Option ℚ)
      (explanation : Option String) (mappingId versionId : Uuid)
  | createNewVersion (ctx : TenantContext) (mappingId : Uuid) (document : MappingDocument)
      (isAiSuggested : Bool) (confidence : Option ℚ) (explanation : Option String)
      (versionId : Uuid)
  | submitForValidation (ctx : TenantContext) (mappingId : Uuid)
  | approve (ctx : TenantContext) (mappingId : Uuid)
  | activate (ctx : TenantContext) (mappingId : Uuid)
  | deprecateMapping (ctx : TenantContext) (mappingId : Uuid)
  | reject (ctx : TenantContext) (mappingId : Uuid)
  | suspendAffectedByDrift (ctx : TenantContext) (snapshot : SchemaSnapshot)
  | startDiscovery (ctx : TenantContext) (connectionId snapshotId : Uuid)
  | runDiscoveryJob (ctx : TenantContext) (env : DiscoveryEnv) (snapshotId : Uuid)
      (profiling : Option ProfilingConfig)
  /-- What other services store: users, and connections with their credentials. -/
  | otherServices (users : List Uuid) (credentials : Keyed.Table DatabaseCredentialReference)
      (connections : Keyed.Table CustomerDatabaseConnection)

/-- A call's transaction; its result goes to the caller. -/
def perform (std : Stdlib) : Call → Session Unit
  | .createDraft ctx schemaSnapshotId document ontologyVersion isAiSuggested confidence explanation
      mappingId versionId =>
    createDraft ctx schemaSnapshotId document ontologyVersion isAiSuggested confidence explanation
      mappingId versionId >>= fun _ => pure ()
  | .createNewVersion ctx mappingId document isAiSuggested confidence explanation versionId =>
    createNewVersion ctx mappingId document isAiSuggested confidence explanation versionId
      >>= fun _ => pure ()
  | .submitForValidation ctx mappingId => submitForValidation std ctx mappingId >>= fun _ => pure ()
  | .approve ctx mappingId => Mappings.approve ctx mappingId >>= fun _ => pure ()
  | .activate ctx mappingId => Mappings.activate ctx mappingId >>= fun _ => pure ()
  | .deprecateMapping ctx mappingId => deprecateMapping ctx mappingId >>= fun _ => pure ()
  | .reject ctx mappingId => Mappings.reject ctx mappingId >>= fun _ => pure ()
  | .suspendAffectedByDrift ctx snapshot => suspendAffectedByDrift ctx snapshot >>= fun _ => pure ()
  | .startDiscovery ctx connectionId snapshotId =>
    startDiscovery ctx connectionId snapshotId >>= fun _ => pure ()
  | .runDiscoveryJob ctx env snapshotId profiling => runDiscoveryJob std env ctx snapshotId profiling
  | .otherServices users credentials connections =>
    write fun db => .ok { db with users, credentials, connections }

def step (std : Stdlib) (db : ControlPlane) (call : Call) : ControlPlane :=
  after (perform std call) db

/-- The call does not raise. -/
def Succeeds (std : Stdlib) (db : ControlPlane) (call : Call) : Prop :=
  perform std call db = .ok ((), step std db call)

/-- A run starts without mappings; snapshots may be there already. -/
def Initial (db : ControlPlane) : Prop := db.mappings.rows = [] ∧ db.versions.rows = []

def Reachable (std : Stdlib) (db : ControlPlane) : Prop :=
  ∃ db₀ calls, Initial db₀ ∧ db = run (step std) db₀ calls

section

variable {std : Stdlib} {db : ControlPlane} {call : Call}

theorem step_cases (std : Stdlib) (db : ControlPlane) (call : Call) :
    Succeeds std db call ∨ ¬Succeeds std db call ∧ step std db call = db := by
  rcases after_cases (perform std call) db with ⟨⟨⟩, h⟩ | ⟨⟨e, he⟩, h⟩
  · exact .inl h
  · refine .inr ⟨fun hs => ?_, h⟩
    rw [Succeeds, he] at hs; cases hs

theorem succeeds_of_toBool (h : (perform std call db).toBool = true) : Succeeds std db call := by
  rcases after_cases (perform std call) db with ⟨⟨⟩, h'⟩ | ⟨⟨e, he⟩, -⟩
  · exact h'
  · rw [he] at h; cases h

theorem discard_ok {α : Type} {x : Session α} {db' : ControlPlane} {u : Unit} :
    (x >>= fun _ => pure ()) db = .ok (u, db') ↔ ∃ a, x db = .ok (a, db') := by
  rw [bind_ok]
  constructor
  · rintro ⟨a, s, hx, h⟩; cases pure_ok.1 h; exact ⟨a, hx⟩
  · rintro ⟨a, hx⟩; exact ⟨a, db', hx, rfl⟩

theorem Initial.reachable (h : Initial db) : Reachable std db := ⟨db, [], h, rfl⟩

theorem Reachable.step (h : Reachable std db) : Reachable std (step std db call) := by
  obtain ⟨db₀, calls, h₀, rfl⟩ := h
  exact ⟨db₀, calls ++ [call], h₀, by simp⟩

theorem Reachable.run (h : Reachable std db) (calls : List Call) :
    Reachable std (run (HermesRpt.step std) db calls) :=
  run_invariant (fun _ _ h => h.step) h calls

/-- What every step from a reachable state keeps. -/
theorem Reachable.keeps {I : ControlPlane → Prop} (h : Reachable std db)
    (hstep : ∀ db call, Reachable std db → I db → I (HermesRpt.step std db call)) (hI : I db)
    (calls : List Call) : I (Machine.run (HermesRpt.step std) db calls) := by
  induction calls generalizing db with
  | nil => exact hI
  | cons call calls ih => exact ih h.step (hstep db call h hI)

/-- What every step keeps holds of every reachable state. -/
theorem Reachable.invariant {I : ControlPlane → Prop} (h₀ : ∀ db, Initial db → I db)
    (hstep : ∀ db call, I db → I (HermesRpt.step std db call)) (h : Reachable std db) : I db := by
  obtain ⟨db₀, calls, hi, rfl⟩ := h
  exact run_invariant hstep (h₀ db₀ hi) calls

end

/-! ## A small fleet

One tenant with a user, a connection, a completed snapshot of one table, and a valid document for
it. Concrete runs below start here. -/

namespace Sample

/-- Library functions that agree with the real ones on what the sample runs ask of them, except
that a hash is the hashed text itself. -/
def std : Stdlib where
  floatStr _ := ""
  fixed4 _ := ""
  upper := id
  lower := id
  strip := id
  datetimeStr _ := ""
  dateStr _ := ""
  fromisoformat _ := none
  intOfStr _ := none
  floatOfStr _ := none
  sqrt := id
  mulFloat := (· * ·)
  float32 := id
  sha256 := id
  sha256Prefix _ := 0
  setOrder := id
  mem_setOrder _ _ := Iff.rfl

def ctx : TenantContext := { tenantId := 1, principalId := 7 }

def column (name : String) : ColumnMetadata :=
  { name, sqlType := "text", isNullable := true, ordinalPosition := 1 }

def vehicles : TableMetadata :=
  { schemaName := "fleet", name := "vehicles", kind := "table",
    columns := [column "vehicle_no", column "plate", column "in_use"] }

/-- A field read from one column. -/
def plain (c : String) (h : isIdentifier c = true := by decide) : FieldMapping :=
  { sources := [{ column := some c, column_identifier := h }] }

theorem isIdentifier_vehicle_no : isIdentifier "vehicle_no" = true := by decide

theorem isIdentifier_plate : isIdentifier "plate" = true := by decide

theorem isIdentifier_in_use : isIdentifier "in_use" = true := by decide

def document : MappingDocument where
  entity := "Vehicle"
  source := { schemaName := "fleet", table := "vehicles" }
  identity := ⟨[("vehicle_id", plain "vehicle_no" isIdentifier_vehicle_no)], by decide⟩
  fields := ⟨[("registration_number", plain "plate" isIdentifier_plate),
    ("is_active", plain "in_use" isIdentifier_in_use)], by decide⟩

def credential : DatabaseCredentialReference :=
  { id := 11, tenantId := 1, provider := "local-dev", referenceKey := "local-dev:1" }

def connection : CustomerDatabaseConnection :=
  { id := 10, tenantId := 1, name := "fleet", engine := .POSTGRESQL, host := "db", port := 5432,
    databaseName := "fleet", username := "reader", credentialReferenceId := 11, status := .ACTIVE,
    schemaAllowlist := ["fleet"], tableAllowlist := ["vehicles"] }

def snapshot : SchemaSnapshot :=
  { id := 20, tenantId := 1, connectionId := 10, sequenceNumber := 1, status := .COMPLETED,
    metadataDocument := some { result := { schemas := ["fleet"], tables := [vehicles] } } }

def db : ControlPlane :=
  { users := [7], credentials := ⟨[credential], by decide⟩,
    connections := ⟨[connection], by decide⟩, snapshots := ⟨[snapshot], by decide⟩ }

/-- From a draft to an active mapping. -/
def activation : List Call :=
  [.createDraft ctx 20 document "1" false none none 30 40, .submitForValidation ctx 30,
    .approve ctx 30, .activate ctx 30]

/-- The schema later, without the column `plate`. -/
def driftedSchema : SchemaIntrospectionResult :=
  { schemas := ["fleet"],
    tables := [{ vehicles with columns := [column "vehicle_no", column "in_use"] }] }

def drifted : SchemaSnapshot :=
  { snapshot with
    id := 21, sequenceNumber := 2, metadataDocument := some { result := driftedSchema },
    driftSummary := some [⟨.COLUMN_REMOVED, "fleet.vehicles", "Column 'plate' removed"⟩] }

/-- Collaborators of a discovery that finds the later schema. -/
def driftedEnv : DiscoveryEnv where
  secrets _ := some "secret"
  pool := Keyed.Table.empty
  introspect _ _ := .ok driftedSchema
  profileTable _ _ _ := .ok .null

/-- A second discovery of the connection, up to its job. -/
def discovery : Call := .startDiscovery ctx 10 21

/-- The same by a user of another tenant. -/
def foreignDiscovery : Call := .startDiscovery { ctx with tenantId := 2 } 10 21

def discoveryJob : Call := .runDiscoveryJob ctx driftedEnv 21 none

def secondDraft : Call := .createNewVersion ctx 30 document false none none 41

/-- A mapping approved before a discovery drops a column it reads. -/
def reviewThenDiscovery : List Call :=
  [.createDraft ctx 20 document "1" false none none 30 40, .submitForValidation ctx 30,
    .approve ctx 30, discovery, discoveryJob]

/-- The snapshot that the discovery stores. -/
def stored : SchemaSnapshot :=
  ((run (step std) db reviewThenDiscovery).snapshots.find? 21).getD drifted

/-- A second version of the mapping, up to its activation. -/
def secondReview : List Call :=
  [secondDraft, .submitForValidation ctx 30, .approve ctx 30, .activate ctx 30]

theorem initial_db : Initial db := ⟨rfl, rfl⟩

theorem reachable_activation (calls : List Call) :
    Reachable std (run (step std) db (activation ++ calls)) := ⟨db, _, initial_db, rfl⟩

example : (getProductionVersion (run (step std) db activation) ctx 30).map (·.id) = .ok 40 := by
  decide

end Sample

end HermesRpt
