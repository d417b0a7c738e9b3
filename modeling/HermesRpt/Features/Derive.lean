import HermesRpt.Features.Contract

/-!
# HermesRpt.Features.Derive

The fixed registry of derive functions, and the normalizer that brings a raw value to a feature's
data type.
-/

namespace HermesRpt

namespace Features

/-- `_coerce_datetime`: a value that is neither a text nor a datetime has no `tzinfo`. -/
def coerceDatetime (std : Stdlib) : Option Value → Except PyError (Option DateTime)
  | none => .ok none
  | some (.str s) => do return some (← parseDatetime std s)
  | some (.datetime t) => .ok (some t)
  | some v => .error ⟨.AttributeError,
      "'" ++ v.typeName ++ "' object has no attribute 'tzinfo'"⟩

def hourOfDay (value : Option DateTime) : Option Value := value.map fun t => .int t.hour

def dayOfWeek (value : Option DateTime) : Option Value := value.map fun t => .int t.weekday

def ageYearsAtPrediction (value : Option DateTime) (predictionTime : DateTime) : Option Value :=
  value.map fun t => .float ((predictionTime.daysSince t : ℚ) / (36525 / 100))

/-- Only a departure strictly before `prediction_time` has a delay. -/
def loadingStartDelayMinutes (value secondary : Option DateTime) (predictionTime : DateTime) :
    Option Value :=
  match value, secondary with
  | some departed, some planned =>
    if predictionTime ≤ departed then some (.float 0)
    else some (.float (departed.secondsSince planned / 60))
  | _, _ => some (.float 0)

def applyDerive (std : Stdlib) (name : String) (value secondary : Option Value)
    (predictionTime : DateTime) : Except PyError (Option Value) := do
  let fn : Option DateTime → Option DateTime → Option Value ←
    match name with
    | "hour_of_day" => .ok fun value _ => hourOfDay value
    | "day_of_week" => .ok fun value _ => dayOfWeek value
    | "age_years_at_prediction" => .ok fun value _ => ageYearsAtPrediction value predictionTime
    | "loading_start_delay_minutes" =>
      .ok fun value secondary => loadingStartDelayMinutes value secondary predictionTime
    | _ => .error ⟨.UnknownDeriveFunctionError, "Unknown derive function: " ++ reprStr name⟩
  let value ← coerceDatetime std value
  let secondary ← coerceDatetime std secondary
  return fn value secondary

def normalize (std : Stdlib) (feature : FeatureSpec) (rawValue : Option Value) :
    Except PyError (Option Value) :=
  match rawValue with
  | none => .ok <| match feature.missingValueBehavior with
    | .ZERO => some (.int 0)
    | .CONSTANT => feature.defaultValue.map .float
    | .NULL => none
  | some v => match feature.dataType with
    | .INTEGER => do return some (.int (← v.toInt std))
    | .FLOAT => do return some (.float (← v.toFloat std))
    | .BOOLEAN => .ok (some (.bool v.truth))

end Features

end HermesRpt
