import HermesRpt.Ontology.Schema

/-!
# HermesRpt.Ontology.V1

The bundled ontology, `configs/ontology/v1.yaml`: one definition per entity, in the order of the
file, and the registry that loads it. Descriptions and classifications are left out, since no
modelled function reads them.
-/

namespace HermesRpt

namespace Ontology

namespace V1

/-! ## Fleet -/

def vehicle : OntologyEntityDefinition where
  name := "Vehicle"
  domain := "fleet"
  fields := [
    { name := "vehicle_id", logicalType := .string, required := true,
      isBusinessIdentifier := true },
    { name := "vehicle_type_id", logicalType := .string, isBusinessIdentifier := true },
    { name := "registration_number", logicalType := .string, required := true },
    { name := "make", logicalType := .string },
    { name := "model_name", logicalType := .string },
    { name := "manufacture_year", logicalType := .integer },
    { name := "current_odometer_km", logicalType := .float, unit := some .kilometres },
    { name := "is_active", logicalType := .boolean, required := true },
    { name := "acquired_at", logicalType := .date }]
  relationships := [
    { name := "has_type", targetEntity := "VehicleType", cardinality := .manyToOne },
    { name := "has_assignments", targetEntity := "VehicleAssignment", cardinality := .oneToMany },
    { name := "has_odometer_readings", targetEntity := "OdometerReading",
      cardinality := .oneToMany }]

def vehicleType : OntologyEntityDefinition where
  name := "VehicleType"
  domain := "fleet"
  fields := [
    { name := "vehicle_type_id", logicalType := .string, required := true,
      isBusinessIdentifier := true },
    { name := "name", logicalType := .string, required := true },
    { name := "category", logicalType := .enum,
      enumValues := ["light_duty", "medium_duty", "heavy_duty", "trailer", "other"],
      required := true },
    { name := "fuel_type", logicalType := .enum,
      enumValues := ["diesel", "petrol", "electric", "hybrid", "cng", "other"] }]

def vehicleAssignment : OntologyEntityDefinition where
  name := "VehicleAssignment"
  domain := "fleet"
  fields := [
    { name := "vehicle_assignment_id", logicalType := .string, required := true,
      isBusinessIdentifier := true },
    { name := "vehicle_id", logicalType := .string, required := true,
      isBusinessIdentifier := true },
    { name := "driver_id", logicalType := .string, isBusinessIdentifier := true },
    { name := "start_at", logicalType := .datetime, required := true },
    { name := "end_at", logicalType := .datetime }]
  relationships := [
    { name := "for_vehicle", targetEntity := "Vehicle",
      cardinality := .manyToOne, required := true },
    { name := "for_driver", targetEntity := "Driver", cardinality := .manyToOne }]

def odometerReading : OntologyEntityDefinition where
  name := "OdometerReading"
  domain := "fleet"
  fields := [
    { name := "odometer_reading_id", logicalType := .string, required := true,
      isBusinessIdentifier := true },
    { name := "vehicle_id", logicalType := .string, required := true,
      isBusinessIdentifier := true },
    { name := "reading_km", logicalType := .float, unit := some .kilometres, required := true },
    { name := "recorded_at", logicalType := .datetime, required := true },
    { name := "source", logicalType := .enum,
      enumValues := ["telematics", "manual", "workshop", "other"] }]
  relationships := [
    { name := "for_vehicle", targetEntity := "Vehicle",
      cardinality := .manyToOne, required := true }]

def vehicleAvailability : OntologyEntityDefinition where
  name := "VehicleAvailability"
  domain := "fleet"
  fields := [
    { name := "vehicle_availability_id", logicalType := .string, required := true,
      isBusinessIdentifier := true },
    { name := "vehicle_id", logicalType := .string, required := true,
      isBusinessIdentifier := true },
    { name := "status", logicalType := .enum,
      enumValues := ["available", "in_use", "in_maintenance", "out_of_service"],
      required := true },
    { name := "status_started_at", logicalType := .datetime, required := true },
    { name := "status_ended_at", logicalType := .datetime }]
  relationships := [
    { name := "for_vehicle", targetEntity := "Vehicle",
      cardinality := .manyToOne, required := true }]

/-! ## Workforce -/

def driver : OntologyEntityDefinition where
  name := "Driver"
  domain := "workforce"
  fields := [
    { name := "driver_id", logicalType := .string, required := true,
      isBusinessIdentifier := true },
    { name := "full_name", logicalType := .string },
    { name := "license_number", logicalType := .string },
    { name := "license_expiry", logicalType := .date },
    { name := "hired_at", logicalType := .date },
    { name := "is_active", logicalType := .boolean, required := true }]

def operator : OntologyEntityDefinition where
  name := "Operator"
  domain := "workforce"
  fields := [
    { name := "operator_id", logicalType := .string, required := true,
      isBusinessIdentifier := true },
    { name := "full_name", logicalType := .string },
    { name := "role_title", logicalType := .string },
    { name := "is_active", logicalType := .boolean, required := true }]

def shift : OntologyEntityDefinition where
  name := "Shift"
  domain := "workforce"
  fields := [
    { name := "shift_id", logicalType := .string, required := true,
      isBusinessIdentifier := true },
    { name := "driver_id", logicalType := .string, isBusinessIdentifier := true },
    { name := "operator_id", logicalType := .string, isBusinessIdentifier := true },
    { name := "start_at", logicalType := .datetime, required := true },
    { name := "end_at", logicalType := .datetime }]
  relationships := [
    { name := "for_driver", targetEntity := "Driver", cardinality := .manyToOne },
    { name := "for_operator", targetEntity := "Operator", cardinality := .manyToOne }]

def driverAssignment : OntologyEntityDefinition where
  name := "DriverAssignment"
  domain := "workforce"
  fields := [
    { name := "driver_assignment_id", logicalType := .string, required := true,
      isBusinessIdentifier := true },
    { name := "driver_id", logicalType := .string, required := true,
      isBusinessIdentifier := true },
    { name := "trip_id", logicalType := .string, isBusinessIdentifier := true },
    { name := "assigned_at", logicalType := .datetime, required := true }]
  relationships := [
    { name := "for_driver", targetEntity := "Driver",
      cardinality := .manyToOne, required := true },
    { name := "for_trip", targetEntity := "Trip", cardinality := .manyToOne }]

def safetyEvent : OntologyEntityDefinition where
  name := "SafetyEvent"
  domain := "workforce"
  fields := [
    { name := "safety_event_id", logicalType := .string, required := true,
      isBusinessIdentifier := true },
    { name := "driver_id", logicalType := .string, isBusinessIdentifier := true },
    { name := "vehicle_id", logicalType := .string, isBusinessIdentifier := true },
    { name := "event_type", logicalType := .enum,
      enumValues := ["harsh_braking", "harsh_acceleration", "speeding", "collision", "other"],
      required := true },
    { name := "occurred_at", logicalType := .datetime, required := true },
    { name := "severity", logicalType := .enum,
      enumValues := ["low", "medium", "high", "critical"] }]
  relationships := [
    { name := "for_driver", targetEntity := "Driver", cardinality := .manyToOne },
    { name := "for_vehicle", targetEntity := "Vehicle", cardinality := .manyToOne }]

/-! ## Operations -/

def trip : OntologyEntityDefinition where
  name := "Trip"
  domain := "operations"
  fields := [
    { name := "trip_id", logicalType := .string, required := true,
      isBusinessIdentifier := true },
    { name := "vehicle_id", logicalType := .string, required := true,
      isBusinessIdentifier := true },
    { name := "driver_id", logicalType := .string, isBusinessIdentifier := true },
    { name := "route_id", logicalType := .string, isBusinessIdentifier := true },
    { name := "planned_departure_at", logicalType := .datetime, required := true },
    { name := "planned_arrival_at", logicalType := .datetime },
    { name := "actual_departure_at", logicalType := .datetime },
    { name := "actual_arrival_at", logicalType := .datetime },
    { name := "planned_distance_km", logicalType := .float, unit := some .kilometres },
    { name := "status", logicalType := .enum,
      enumValues := ["planned", "in_progress", "completed", "cancelled"],
      required := true }]
  relationships := [
    { name := "uses_vehicle", targetEntity := "Vehicle",
      cardinality := .manyToOne, required := true },
    { name := "assigned_driver", targetEntity := "Driver", cardinality := .manyToOne },
    { name := "follows_route", targetEntity := "Route", cardinality := .manyToOne },
    { name := "has_deliveries", targetEntity := "Delivery", cardinality := .oneToMany }]

def route : OntologyEntityDefinition where
  name := "Route"
  domain := "operations"
  fields := [
    { name := "route_id", logicalType := .string, required := true,
      isBusinessIdentifier := true },
    { name := "name", logicalType := .string },
    { name := "origin_label", logicalType := .string },
    { name := "destination_label", logicalType := .string },
    { name := "planned_distance_km", logicalType := .float, unit := some .kilometres }]
  relationships := [
    { name := "has_stops", targetEntity := "RouteStop", cardinality := .oneToMany }]

def routeStop : OntologyEntityDefinition where
  name := "RouteStop"
  domain := "operations"
  fields := [
    { name := "route_stop_id", logicalType := .string, required := true,
      isBusinessIdentifier := true },
    { name := "route_id", logicalType := .string, required := true,
      isBusinessIdentifier := true },
    { name := "sequence_number", logicalType := .integer, required := true },
    { name := "location_label", logicalType := .string },
    { name := "planned_arrival_at", logicalType := .datetime }]
  relationships := [
    { name := "for_route", targetEntity := "Route", cardinality := .manyToOne, required := true }]

def delivery : OntologyEntityDefinition where
  name := "Delivery"
  domain := "operations"
  fields := [
    { name := "delivery_id", logicalType := .string, required := true,
      isBusinessIdentifier := true },
    { name := "trip_id", logicalType := .string, required := true,
      isBusinessIdentifier := true },
    { name := "order_id", logicalType := .string, isBusinessIdentifier := true },
    { name := "planned_at", logicalType := .datetime, required := true },
    { name := "delivered_at", logicalType := .datetime },
    { name := "status", logicalType := .enum,
      enumValues := ["pending", "delivered", "failed", "returned"], required := true }]
  relationships := [
    { name := "for_trip", targetEntity := "Trip", cardinality := .manyToOne, required := true },
    { name := "for_order", targetEntity := "Order", cardinality := .manyToOne }]

def order : OntologyEntityDefinition where
  name := "Order"
  domain := "operations"
  fields := [
    { name := "order_id", logicalType := .string, required := true,
      isBusinessIdentifier := true },
    { name := "customer_id", logicalType := .string, isBusinessIdentifier := true },
    { name := "placed_at", logicalType := .datetime },
    { name := "requested_delivery_at", logicalType := .datetime }]
  relationships := [
    { name := "for_customer", targetEntity := "Customer", cardinality := .manyToOne },
    { name := "has_packages", targetEntity := "Package", cardinality := .oneToMany }]

def package : OntologyEntityDefinition where
  name := "Package"
  domain := "operations"
  fields := [
    { name := "package_id", logicalType := .string, required := true,
      isBusinessIdentifier := true },
    { name := "order_id", logicalType := .string, required := true,
      isBusinessIdentifier := true },
    { name := "weight_kg", logicalType := .float, unit := some .kilograms },
    { name := "description", logicalType := .string }]
  relationships := [
    { name := "for_order", targetEntity := "Order", cardinality := .manyToOne, required := true }]

def customer : OntologyEntityDefinition where
  name := "Customer"
  domain := "operations"
  fields := [
    { name := "customer_id", logicalType := .string, required := true,
      isBusinessIdentifier := true },
    { name := "name", logicalType := .string },
    { name := "contact_email", logicalType := .string }]

/-! ## Maintenance -/

def maintenanceEvent : OntologyEntityDefinition where
  name := "MaintenanceEvent"
  domain := "maintenance"
  fields := [
    { name := "maintenance_event_id", logicalType := .string, required := true,
      isBusinessIdentifier := true },
    { name := "vehicle_id", logicalType := .string, required := true,
      isBusinessIdentifier := true },
    { name := "work_order_id", logicalType := .string, isBusinessIdentifier := true },
    { name := "event_type", logicalType := .enum,
      enumValues := ["scheduled", "unscheduled", "inspection", "recall"],
      required := true },
    { name := "started_at", logicalType := .datetime, required := true },
    { name := "completed_at", logicalType := .datetime }]
  relationships := [
    { name := "for_vehicle", targetEntity := "Vehicle",
      cardinality := .manyToOne, required := true },
    { name := "has_work_order", targetEntity := "WorkOrder", cardinality := .manyToOne }]

def workOrder : OntologyEntityDefinition where
  name := "WorkOrder"
  domain := "maintenance"
  fields := [
    { name := "work_order_id", logicalType := .string, required := true,
      isBusinessIdentifier := true },
    { name := "vehicle_id", logicalType := .string, required := true,
      isBusinessIdentifier := true },
    { name := "status", logicalType := .enum,
      enumValues := ["open", "in_progress", "completed", "cancelled"], required := true },
    { name := "opened_at", logicalType := .datetime, required := true },
    { name := "closed_at", logicalType := .datetime }]
  relationships := [
    { name := "for_vehicle", targetEntity := "Vehicle",
      cardinality := .manyToOne, required := true },
    { name := "has_faults", targetEntity := "Fault", cardinality := .oneToMany }]

def fault : OntologyEntityDefinition where
  name := "Fault"
  domain := "maintenance"
  fields := [
    { name := "fault_id", logicalType := .string, required := true,
      isBusinessIdentifier := true },
    { name := "work_order_id", logicalType := .string, required := true,
      isBusinessIdentifier := true },
    { name := "code", logicalType := .string },
    { name := "description", logicalType := .string },
    { name := "severity", logicalType := .enum,
      enumValues := ["low", "medium", "high", "critical"] }]
  relationships := [
    { name := "for_work_order", targetEntity := "WorkOrder",
      cardinality := .manyToOne, required := true }]

def sparePart : OntologyEntityDefinition where
  name := "SparePart"
  domain := "maintenance"
  fields := [
    { name := "spare_part_id", logicalType := .string, required := true,
      isBusinessIdentifier := true },
    { name := "part_number", logicalType := .string, required := true },
    { name := "name", logicalType := .string },
    { name := "unit_cost", logicalType := .money }]

def inventoryTransaction : OntologyEntityDefinition where
  name := "InventoryTransaction"
  domain := "maintenance"
  fields := [
    { name := "inventory_transaction_id", logicalType := .string, required := true,
      isBusinessIdentifier := true },
    { name := "spare_part_id", logicalType := .string, required := true,
      isBusinessIdentifier := true },
    { name := "work_order_id", logicalType := .string, isBusinessIdentifier := true },
    { name := "quantity", logicalType := .integer, required := true },
    { name := "transaction_type", logicalType := .enum,
      enumValues := ["receipt", "issue", "adjustment", "return"], required := true },
    { name := "occurred_at", logicalType := .datetime, required := true }]
  relationships := [
    { name := "for_spare_part", targetEntity := "SparePart",
      cardinality := .manyToOne, required := true },
    { name := "for_work_order", targetEntity := "WorkOrder", cardinality := .manyToOne }]

def tyre : OntologyEntityDefinition where
  name := "Tyre"
  domain := "maintenance"
  fields := [
    { name := "tyre_id", logicalType := .string, required := true,
      isBusinessIdentifier := true },
    { name := "serial_number", logicalType := .string },
    { name := "manufacturer", logicalType := .string },
    { name := "size", logicalType := .string }]

def tyreInstallation : OntologyEntityDefinition where
  name := "TyreInstallation"
  domain := "maintenance"
  fields := [
    { name := "tyre_installation_id", logicalType := .string, required := true,
      isBusinessIdentifier := true },
    { name := "tyre_id", logicalType := .string, required := true,
      isBusinessIdentifier := true },
    { name := "vehicle_id", logicalType := .string, required := true,
      isBusinessIdentifier := true },
    { name := "position", logicalType := .string },
    { name := "installed_at", logicalType := .datetime, required := true },
    { name := "removed_at", logicalType := .datetime }]
  relationships := [
    { name := "for_tyre", targetEntity := "Tyre", cardinality := .manyToOne, required := true },
    { name := "for_vehicle", targetEntity := "Vehicle",
      cardinality := .manyToOne, required := true }]

/-! ## Cost -/

def fuelEvent : OntologyEntityDefinition where
  name := "FuelEvent"
  domain := "cost"
  fields := [
    { name := "fuel_event_id", logicalType := .string, required := true,
      isBusinessIdentifier := true },
    { name := "vehicle_id", logicalType := .string, required := true,
      isBusinessIdentifier := true },
    { name := "trip_id", logicalType := .string, isBusinessIdentifier := true },
    { name := "quantity_litres", logicalType := .float, unit := some .litres,
      required := true },
    { name := "cost", logicalType := .money },
    { name := "occurred_at", logicalType := .datetime, required := true }]
  relationships := [
    { name := "for_vehicle", targetEntity := "Vehicle",
      cardinality := .manyToOne, required := true },
    { name := "for_trip", targetEntity := "Trip", cardinality := .manyToOne }]

def tripExpense : OntologyEntityDefinition where
  name := "TripExpense"
  domain := "cost"
  fields := [
    { name := "trip_expense_id", logicalType := .string, required := true,
      isBusinessIdentifier := true },
    { name := "trip_id", logicalType := .string, required := true,
      isBusinessIdentifier := true },
    { name := "category", logicalType := .enum,
      enumValues := ["toll", "parking", "fine", "other"] },
    { name := "amount", logicalType := .money, required := true },
    { name := "incurred_at", logicalType := .datetime, required := true }]
  relationships := [
    { name := "for_trip", targetEntity := "Trip", cardinality := .manyToOne, required := true }]

def maintenanceCost : OntologyEntityDefinition where
  name := "MaintenanceCost"
  domain := "cost"
  fields := [
    { name := "maintenance_cost_id", logicalType := .string, required := true,
      isBusinessIdentifier := true },
    { name := "work_order_id", logicalType := .string, required := true,
      isBusinessIdentifier := true },
    { name := "amount", logicalType := .money, required := true },
    { name := "incurred_at", logicalType := .datetime, required := true }]
  relationships := [
    { name := "for_work_order", targetEntity := "WorkOrder",
      cardinality := .manyToOne, required := true }]

def tollEvent : OntologyEntityDefinition where
  name := "TollEvent"
  domain := "cost"
  fields := [
    { name := "toll_event_id", logicalType := .string, required := true,
      isBusinessIdentifier := true },
    { name := "vehicle_id", logicalType := .string, required := true,
      isBusinessIdentifier := true },
    { name := "trip_id", logicalType := .string, isBusinessIdentifier := true },
    { name := "amount", logicalType := .money, required := true },
    { name := "occurred_at", logicalType := .datetime, required := true },
    { name := "gantry_label", logicalType := .string }]
  relationships := [
    { name := "for_vehicle", targetEntity := "Vehicle",
      cardinality := .manyToOne, required := true },
    { name := "for_trip", targetEntity := "Trip", cardinality := .manyToOne }]

def ontology : OntologyDefinition where
  version := "1"
  entities := [vehicle, vehicleType, vehicleAssignment, odometerReading, vehicleAvailability,
    driver, operator, shift, driverAssignment, safetyEvent, trip, route, routeStop, delivery,
    order, package, customer, maintenanceEvent, workOrder, fault, sparePart,
    inventoryTransaction, tyre, tyreInstallation, fuelEvent, tripExpense, maintenanceCost,
    tollEvent]

end V1

/-- `DEFAULT_ONTOLOGY_VERSION` -/
def defaultOntologyVersion : String := "1"

/-- `get_ontology`: the directory holds one file, `v1.yaml`. -/
def getOntology (version : String) : Except PyError OntologyDefinition :=
  if version = "1" then .ok V1.ontology
  else .error ⟨.FileNotFoundError, "[Errno 2] No such file or directory: " ++
    reprStr ("configs/ontology/v" ++ version ++ ".yaml")⟩

end Ontology

end HermesRpt
