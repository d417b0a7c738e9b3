import HermesRpt.Common.Python
import Mathlib.Tactic.Common

/-!
# HermesRpt.Transformer.Schema

Which ontology fields are read off each entity, split into numeric, categorical and datetime slots,
and the vocabularies of entity types and relationships.
-/

namespace HermesRpt

namespace Transformer

def numericSlots : Nat := 2
def categoricalSlots : Nat := 4
def datetimeSlots : Nat := 4

structure EntityFieldSchema where
  entity : String
  numericFields : List String
  categoricalFields : List String
  datetimeFields : List String
  numeric_fit : numericFields.length ≤ numericSlots := by decide
  categorical_fit : categoricalFields.length ≤ categoricalSlots := by decide
  datetime_fit : datetimeFields.length ≤ datetimeSlots := by decide

/-- `ENTITY_FIELD_SCHEMAS` -/
def entityFieldSchemas : List EntityFieldSchema := [
  { entity := "Trip"
    numericFields := ["planned_distance_km"]
    categoricalFields := ["status", "driver_id", "route_id", "vehicle_id"]
    datetimeFields := ["planned_departure_at", "planned_arrival_at", "actual_departure_at",
      "actual_arrival_at"] },
  { entity := "Vehicle"
    numericFields := ["manufacture_year"]
    categoricalFields := ["model_name", "registration_number"]
    datetimeFields := ["acquired_at"] },
  { entity := "MaintenanceEvent"
    numericFields := []
    categoricalFields := ["event_type", "vehicle_id"]
    datetimeFields := ["started_at", "completed_at"] },
  { entity := "OdometerReading"
    numericFields := ["reading_km"]
    categoricalFields := ["source", "vehicle_id"]
    datetimeFields := ["recorded_at"] },
  { entity := "FuelEvent"
    numericFields := ["quantity_litres"]
    categoricalFields := ["vehicle_id", "trip_id"]
    datetimeFields := ["occurred_at"] },
  { entity := "RouteStop"
    numericFields := ["sequence_number"]
    categoricalFields := ["route_id", "location_label"]
    datetimeFields := [] },
  { entity := "Delivery"
    numericFields := []
    categoricalFields := ["status", "trip_id"]
    datetimeFields := ["planned_at", "delivered_at"] }]

/-- `ENTITY_FIELD_SCHEMAS[entity]` -/
def entityFieldSchema (entity : String) : Except PyError EntityFieldSchema :=
  match entityFieldSchemas.find? (·.entity = entity) with
  | some schema => .ok schema
  | none => .error ⟨.KeyError, reprStr entity⟩

/-- The index 0 is padding. -/
def entityTypeVocab : List String := "__pad__" :: entityFieldSchemas.map (·.entity)

def relationshipVocab : List String :=
  ["__pad__", "__target__", "uses_vehicle", "assigned_driver_history", "follows_route_history",
    "has_deliveries", "has_maintenance_events", "has_fuel_events"]

end Transformer

end HermesRpt
