import HermesRpt.Features.Compiler
import HermesRpt.Transformer.Schema

/-!
# HermesRpt.Transformer.Context

`RelationalContextBuilder.build_example`: a target trip with the records of its relations.
-/

namespace HermesRpt

namespace Transformer

open Effect Connectors Features

structure RelationalRecord where
  entity : String
  relationship : String
  fields : FieldRow

structure RelationalExample where
  businessReference : String
  predictionTime : DateTime
  label : Option Int
  target : RelationalRecord
  related : List RelationalRecord
  targetMappingVersionId : Option Uuid := none

/-- `_RelationSpec` -/
structure RelationSpec where
  relationship : String
  entity : String
  joinField : String
  fromTargetField : String
  timestampField : Option String

/-- `_RELATION_SPECS` -/
def relationSpecs : List RelationSpec := [
  ⟨"uses_vehicle", "Vehicle", "vehicle_id", "vehicle_id", none⟩,
  ⟨"assigned_driver_history", "Trip", "driver_id", "driver_id", some "planned_departure_at"⟩,
  ⟨"follows_route_history", "Trip", "route_id", "route_id", some "planned_departure_at"⟩,
  ⟨"has_deliveries", "Delivery", "trip_id", "trip_id", none⟩,
  ⟨"has_maintenance_events", "MaintenanceEvent", "vehicle_id", "vehicle_id", some "started_at"⟩,
  ⟨"has_fuel_events", "FuelEvent", "vehicle_id", "vehicle_id", some "occurred_at"⟩]

/-- `_engine_for` -/
def engineForMapping (env : Environment) (db : ControlPlane) (resolved : ResolvedMapping)
    (ctx : TenantContext) : Extraction (Engine × CustomerDatabaseConnection) := do
  let (connection, _) ← Process.lift (connectionAndSnapshotFor db resolved ctx)
  let engine ← engineFor env db connection.id ctx
  return (engine, connection)

/-- The records of one relation, after those of the relations before it. -/
def addRelation (env : Environment) (db : ControlPlane) (ctx : TenantContext)
    (rawTarget : FieldRow) (predictionTime : DateTime) (maxRecordsPerRelation : Nat)
    (related : List RelationalRecord) (spec : RelationSpec) : Extraction (List RelationalRecord) :=
  match rawTarget.value spec.fromTargetField with
  | none => return related
  | some joinValue => do
    match ← Process.lift (resolve db spec.entity ctx) with
    | none => return related
    | some resolved =>
      let (engine, connection) ← engineForMapping env db resolved ctx
      let rows ← fetchRelatedRecords env engine resolved.document spec.joinField joinValue
        spec.timestampField (some predictionTime) maxRecordsPerRelation connection
      return related ++ rows.map fun row => ⟨spec.entity, spec.relationship, row⟩

/-- The fields the encoder reads of a trip. -/
def neededFields : Except PyError (List String) := do
  let schema ← entityFieldSchema "Trip"
  return schema.numericFields ++ schema.categoricalFields ++ schema.datetimeFields

def targetRecordNotFound (businessReference : String) : PyError :=
  ⟨.TargetRecordNotFoundError,
    "No Trip row found for business_reference=" ++ reprStr businessReference⟩

def buildExample (env : Environment) (db : ControlPlane) (ctx : TenantContext)
    (businessReference : String) (predictionTime : DateTime) (label : Option Int)
    (maxRecordsPerRelation : Nat) : Extraction RelationalExample := do
  let targetMapping ← Process.lift (resolveTarget db "Trip" ctx)
  let (targetEngine, targetConnection) ← engineForMapping env db targetMapping ctx
  let needed ← Process.lift neededFields
  match ← fetchTargetRow env targetEngine targetMapping.document businessReference needed
      targetConnection with
  | none => Process.raise (targetRecordNotFound businessReference)
  | some rawTarget =>
    let related ← relationSpecs.foldlM
      (addRelation env db ctx rawTarget predictionTime maxRecordsPerRelation) []
    return {
      businessReference, predictionTime, label, target := ⟨"Trip", "__target__", rawTarget⟩,
      related, targetMappingVersionId := targetMapping.schemaMapping.activeVersionId }

end Transformer

end HermesRpt
