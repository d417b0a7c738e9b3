import HermesRpt.Lib.Table
import HermesRpt.Schemas.Drift

/-!
# HermesRpt.Schemas.Models

The rows of `schema_snapshots`: a versioned, fingerprinted record of what discovery found.
-/

namespace HermesRpt

namespace Schemas

inductive DiscoveryStatus where
  | PENDING | RUNNING | COMPLETED | FAILED
  deriving DecidableEq, Repr

/-- A stored introspection result, with the profiles added to it when profiling ran. -/
structure MetadataDocument where
  result : SchemaIntrospectionResult
  profiling : Option (List Canonical.Json) := none

structure SchemaSnapshot where
  id : Uuid
  tenantId : Uuid
  connectionId : Uuid
  sequenceNumber : Nat
  status : DiscoveryStatus := .PENDING
  schemaFingerprint : Option String := none
  /-- `none` is the default, the empty document. -/
  metadataDocument : Option MetadataDocument := none
  tableFingerprints : Keyed.Dict String String := Keyed.Table.empty
  error : Option String := none
  /-- The events relative to the previous completed snapshot; `none` on a first snapshot. -/
  driftSummary : Option (List DriftEvent) := none

instance : Keyed.HasKey SchemaSnapshot Uuid := ⟨SchemaSnapshot.id⟩

/-- `{event["table"] for event in snapshot.drift_summary.get("events", [])}` -/
def SchemaSnapshot.affectedTables (snapshot : SchemaSnapshot) : List String :=
  (snapshot.driftSummary.getD []).map (·.table)

/-- `SchemaIntrospectionResult.model_validate(snapshot.metadata_document)`: the empty document has
no `schemas`. -/
def SchemaSnapshot.introspection (snapshot : SchemaSnapshot) :
    Except PyError SchemaIntrospectionResult :=
  match snapshot.metadataDocument with
  | some document => .ok document.result
  | none => .error ⟨.ValidationError, "1 validation error for SchemaIntrospectionResult\n" ++
      "schemas\n  Field required"⟩

end Schemas

end HermesRpt
