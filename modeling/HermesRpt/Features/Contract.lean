import HermesRpt.Lib.Dict
import HermesRpt.Mappings.Document

/-!
# HermesRpt.Features.Contract

Feature contracts as data, with the validators of a feature as fields of its structure; the batch
of extracted features with its lineage; and the caps on what one query may ask for.
-/

namespace HermesRpt

namespace Features

open Mappings (truthy)

inductive FeatureDataType where
  | FLOAT | INTEGER | BOOLEAN
  deriving DecidableEq, Repr

/-- How to fill a value that cannot be extracted. -/
inductive MissingValueBehavior where
  | NULL | ZERO | CONSTANT
  deriving DecidableEq, Repr

/-- The fixed set of extraction recipes. -/
inductive FeatureKind where
  | DIRECT_FIELD | DERIVED_FROM_TARGET | RELATED_COUNT | RELATED_RATIO | RELATED_RECENCY_DAYS
  | RELATED_LATEST_VALUE
  deriving DecidableEq, Repr

open FeatureKind ( RELATED_RATIO)

def FeatureKind.value : FeatureKind → String
  | .DIRECT_FIELD => "direct_field"
  | .DERIVED_FROM_TARGET => "derived_from_target"
  | .RELATED_COUNT => "related_count"
  | RELATED_RATIO => "related_ratio"
  | .RELATED_RECENCY_DAYS => "related_recency_days"
  | .RELATED_LATEST_VALUE => "related_latest_value"

def FeatureKind.onTarget (kind : FeatureKind) : Bool :=
  kind = .DIRECT_FIELD ∨ kind = .DERIVED_FROM_TARGET

structure FeatureSpec where
  name : String
  dataType : FeatureDataType
  missingValueBehavior : MissingValueBehavior := .NULL
  defaultValue : Option ℚ := none
  historicalWindowDays : Option Int := none
  required : Bool := false
  kind : FeatureKind
  targetField : Option String := none
  targetFieldSecondary : Option String := none
  derive : Option String := none
  relatedEntity : Option String := none
  relatedFkFieldOnTarget : Option String := none
  relatedTimestampField : Option String := none
  relatedFilterField : Option String := none
  relatedFilterEquals : Option String := none
  relatedValueField : Option String := none
  /-- `_validate_kind_specific_fields` -/
  target_field : kind.onTarget → truthy targetField := by decide
  derive_named : kind = .DERIVED_FROM_TARGET → truthy derive := by decide
  related_fields : ¬kind.onTarget → truthy relatedEntity ∧ truthy relatedFkFieldOnTarget := by
    decide
  timestamp_field : ¬kind.onTarget →
    (kind = .RELATED_RECENCY_DAYS ∨ kind = RELATED_RATIO ∨ historicalWindowDays.isSome) →
    truthy relatedTimestampField := by decide
  filter_field : kind = RELATED_RATIO → relatedFilterField.isSome ∧ relatedFilterEquals.isSome := by
    decide
  value_field : kind = .RELATED_LATEST_VALUE → relatedValueField.isSome := by decide

structure FeatureContract where
  taskKey : String
  version : String
  targetEntity : String
  features : List FeatureSpec
  features_ne : features ≠ [] := by simp

/-- A field name that is given: Python takes the empty one for none. -/
def given (fieldName : Option String) : Option String := fieldName.filter (· ≠ "")

theorem given_of_truthy {fieldName : Option String} (h : truthy fieldName) :
    ∃ f, fieldName = some f ∧ given fieldName = some f := by
  cases fieldName with
  | none => simp [truthy] at h
  | some f =>
    have hne : f ≠ "" := by simpa [truthy] using h
    exact ⟨f, rfl, by simp [given, hne]⟩

/-! ## The registered task -/

/-- `DELIVERY_DELAY_RISK_CONTRACT` -/
def deliveryDelayRiskContract : FeatureContract where
  taskKey := "delivery-delay-risk"
  version := "1"
  targetEntity := "Trip"
  features := [
    { name := "planned_departure_hour", dataType := .INTEGER, required := true,
      kind := .DERIVED_FROM_TARGET, targetField := some "planned_departure_at",
      derive := some "hour_of_day" },
    { name := "day_of_week", dataType := .INTEGER, required := true, kind := .DERIVED_FROM_TARGET,
      targetField := some "planned_departure_at", derive := some "day_of_week" },
    { name := "planned_trip_distance_km", dataType := .FLOAT, required := true,
      kind := .DIRECT_FIELD, targetField := some "planned_distance_km" },
    { name := "number_of_stops", dataType := .INTEGER, missingValueBehavior := .ZERO,
      kind := .RELATED_COUNT, relatedEntity := some "RouteStop",
      relatedFkFieldOnTarget := some "route_id" },
    { name := "vehicle_age_years", dataType := .FLOAT, kind := .RELATED_LATEST_VALUE,
      relatedEntity := some "Vehicle", relatedFkFieldOnTarget := some "vehicle_id",
      relatedValueField := some "acquired_at", derive := some "age_years_at_prediction" },
    { name := "odometer_km", dataType := .FLOAT, kind := .RELATED_LATEST_VALUE,
      relatedEntity := some "OdometerReading", relatedFkFieldOnTarget := some "vehicle_id",
      relatedTimestampField := some "recorded_at", relatedValueField := some "reading_km" },
    { name := "days_since_last_maintenance", dataType := .FLOAT, kind := .RELATED_RECENCY_DAYS,
      relatedEntity := some "MaintenanceEvent", relatedFkFieldOnTarget := some "vehicle_id",
      relatedTimestampField := some "completed_at" },
    { name := "previous_breakdown_count", dataType := .INTEGER, missingValueBehavior := .ZERO,
      historicalWindowDays := some 180, kind := .RELATED_COUNT,
      relatedEntity := some "MaintenanceEvent", relatedFkFieldOnTarget := some "vehicle_id",
      relatedTimestampField := some "started_at", relatedFilterField := some "event_type",
      relatedFilterEquals := some "unscheduled" },
    { name := "driver_recent_trip_count", dataType := .INTEGER, missingValueBehavior := .ZERO,
      historicalWindowDays := some 30, kind := .RELATED_COUNT, relatedEntity := some "Trip",
      relatedFkFieldOnTarget := some "driver_id",
      relatedTimestampField := some "planned_departure_at" },
    { name := "driver_late_delivery_ratio", dataType := .FLOAT, historicalWindowDays := some 90,
      kind := RELATED_RATIO, relatedEntity := some "Trip",
      relatedFkFieldOnTarget := some "driver_id",
      relatedTimestampField := some "planned_departure_at", relatedFilterField := some "status",
      relatedFilterEquals := some "cancelled" },
    { name := "route_historical_delay_ratio", dataType := .FLOAT, historicalWindowDays := some 90,
      kind := RELATED_RATIO, relatedEntity := some "Trip",
      relatedFkFieldOnTarget := some "route_id",
      relatedTimestampField := some "planned_departure_at", relatedFilterField := some "status",
      relatedFilterEquals := some "cancelled" },
    { name := "planned_delivery_count", dataType := .INTEGER, missingValueBehavior := .ZERO,
      kind := .RELATED_COUNT, relatedEntity := some "Delivery",
      relatedFkFieldOnTarget := some "trip_id" },
    { name := "loading_start_delay_minutes", dataType := .FLOAT, missingValueBehavior := .ZERO,
      kind := .DERIVED_FROM_TARGET, targetField := some "actual_departure_at",
      targetFieldSecondary := some "planned_departure_at",
      derive := some "loading_start_delay_minutes" },
    { name := "recent_fuel_anomaly_count", dataType := .INTEGER, missingValueBehavior := .ZERO,
      historicalWindowDays := some 30, kind := .RELATED_COUNT, relatedEntity := some "FuelEvent",
      relatedFkFieldOnTarget := some "vehicle_id", relatedTimestampField := some "occurred_at" }]

/-! ## Lineage -/

structure MissingFeatureReason where
  featureName : String
  reason : String
  deriving DecidableEq

structure FeatureLineageRecord where
  tenantId : Uuid
  taskKey : String
  featureContractVersion : String
  targetMappingVersionId : Uuid
  schemaSnapshotId : Uuid
  relatedMappingVersionIds : Keyed.Dict String Uuid
  extractionTimestamp : DateTime
  missingFeatures : List MissingFeatureReason := []

/-- Values of features by name; a missing value is `none`. -/
abbrev FeatureRow := Keyed.Dict String (Option Value)

structure FeatureBatch where
  businessReference : String
  predictionTime : DateTime
  features : FeatureRow
  lineage : FeatureLineageRecord

/-! ## Cost guard -/

/-- `_MAX_HISTORICAL_WINDOW_DAYS` -/
def maxHistoricalWindowDays : Int := 365

def enforceWindowLimit (windowDays : Option Int) : Except PyError (Option Int) :=
  match windowDays with
  | some days =>
    if days > maxHistoricalWindowDays then
      .error ⟨.QueryCostExceededError, "Historical window of " ++ toString days ++
        " days exceeds the maximum of " ++ toString maxHistoricalWindowDays ++ " days"⟩
    else .ok (some days)
  | none => .ok none

def relatedRowLimit : Nat := 500

def datasetBuildRowLimit : Nat := 50000

namespace Sample

def odometer : FeatureSpec where
  name := "odometer_km"
  dataType := .FLOAT
  kind := .DIRECT_FIELD
  missingValueBehavior := .ZERO
  targetField := some "current_odometer_km"

def hasPlate : FeatureSpec where
  name := "has_plate"
  dataType := .BOOLEAN
  kind := .DIRECT_FIELD
  targetField := some "registration_number"

/-- The completed maintenance events of a vehicle. -/
def completedCount : FeatureSpec where
  name := "completed_events"
  dataType := .INTEGER
  kind := .RELATED_COUNT
  relatedEntity := some "MaintenanceEvent"
  relatedFkFieldOnTarget := some "vehicle_id"
  relatedTimestampField := some "completed_at"

/-- The days since the last completed event of a vehicle. -/
def sinceCompletion : FeatureSpec where
  name := "days_since_completion"
  dataType := .FLOAT
  kind := .RELATED_RECENCY_DAYS
  relatedEntity := some "MaintenanceEvent"
  relatedFkFieldOnTarget := some "vehicle_id"
  relatedTimestampField := some "completed_at"

/-- The work order of the last event of a vehicle. -/
def lastWorkOrder : FeatureSpec where
  name := "last_work_order"
  dataType := .INTEGER
  kind := .RELATED_LATEST_VALUE
  relatedEntity := some "MaintenanceEvent"
  relatedFkFieldOnTarget := some "vehicle_id"
  relatedValueField := some "work_order_id"

/-- The events of one work order. -/
def workOrderCount : FeatureSpec where
  name := "work_order_events"
  dataType := .INTEGER
  kind := .RELATED_COUNT
  relatedEntity := some "MaintenanceEvent"
  relatedFkFieldOnTarget := some "vehicle_id"
  relatedTimestampField := some "started_at"
  relatedFilterField := some "work_order_id"
  relatedFilterEquals := some "w1"

end Sample

end Features

end HermesRpt
