import HermesRpt.Features.Contract
import HermesRpt.Features.Compiler
import HermesRpt.Lib.Json

/-!
# HermesRpt.Datasets.Definition

What a dataset build is asked to produce, and the pure parts of a build: label functions, the
temporal split, statistics and the checksum.
-/

namespace HermesRpt

namespace Datasets

open Features
open Keyed (Dict)

structure LabelDefinition where
  functionName : String
  sourceFields : List String
  timeField : String
  kwargs : Dict String Value := Keyed.Table.empty
  source_fields_ne : sourceFields ≠ [] := by simp

structure TemporalSplitStrategy where
  trainFraction : ℚ
  validationFraction : ℚ
  /-- `_fractions_are_valid` -/
  in_unit : 0 < trainFraction ∧ trainFraction < 1 ∧ 0 < validationFraction ∧ validationFraction < 1
  room_for_test : trainFraction + validationFraction < 1

structure DatasetDefinition where
  datasetKey : String
  tenantId : Option Uuid
  isSharedResearchDataset : Bool := false
  timeRangeStart : DateTime
  timeRangeEnd : DateTime
  label : LabelDefinition
  splitStrategy : TemporalSplitStrategy
  /-- `_tenant_or_shared` -/
  tenant_or_shared : tenantId.isSome ∨ isSharedResearchDataset = true := by decide
  range_nonempty : timeRangeStart < timeRangeEnd := by decide

/-! ## Labels -/

def defaultDelayThresholdMinutes : ℚ := 30

/-- The keyword argument `delay_threshold_minutes`; no other is known. -/
def delayThreshold (kwargs : Dict String Value) : Except PyError Value :=
  match kwargs.keys.find? (· ≠ "delay_threshold_minutes") with
  | some key => .error ⟨.TypeError,
      "delivery_delay_label() got an unexpected keyword argument " ++ reprStr key⟩
  | none => .ok ((kwargs.get? "delay_threshold_minutes").getD (.float defaultDelayThresholdMinutes))

/-- `delivery_delay_label`: `none` is an outcome that is not known yet. -/
def deliveryDelayLabel (row : FieldRow) (threshold : Value) : Except PyError (Option Int) :=
  match row.value "status" with
  | some (.str "cancelled") => .ok (some 1)
  | some (.str "completed") =>
    match row.value "planned_arrival_at", row.value "actual_arrival_at" with
    | some (.datetime planned), some (.datetime actual) =>
      match threshold.number? with
      | some minutes => .ok (some (if actual.secondsSince planned / 60 > minutes then 1 else 0))
      | none => .error ⟨.TypeError,
          "'>' not supported between instances of 'float' and '" ++ threshold.typeName ++ "'"⟩
    | _, _ => .ok none
  | _ => .ok none

def computeLabel (name : String) (row : FieldRow) (kwargs : Dict String Value) :
    Except PyError (Option Int) :=
  if name = "delivery_delay_label" then do deliveryDelayLabel row (← delayThreshold kwargs)
  else .error ⟨.UnknownLabelFunctionError, "Unknown label function: " ++ reprStr name⟩

/-! ## Splits -/

structure DatasetSplits (ρ : Type) where
  train : List ρ
  validation : List ρ
  test : List ρ

/-- `split_temporally`: cut by fraction, in the order of the rows. -/
def splitTemporally {ρ : Type} (std : Stdlib) (sortedRows : List ρ)
    (strategy : TemporalSplitStrategy) : DatasetSplits ρ :=
  let n : ℚ := sortedRows.length
  let trainEnd := (Value.truncate (std.mulFloat n strategy.trainFraction)).toNat
  let validationEnd :=
    trainEnd + (Value.truncate (std.mulFloat n strategy.validationFraction)).toNat
  { train := sortedRows.take trainEnd
    validation := (sortedRows.take validationEnd).drop trainEnd
    test := sortedRows.drop validationEnd }

/-- The three parts are the rows, in their order. -/
theorem splitTemporally_append {ρ : Type} (std : Stdlib) (sortedRows : List ρ)
    (strategy : TemporalSplitStrategy) :
    (splitTemporally std sortedRows strategy).train ++
        (splitTemporally std sortedRows strategy).validation ++
      (splitTemporally std sortedRows strategy).test = sortedRows := by
  unfold splitTemporally
  dsimp only
  generalize (Value.truncate (std.mulFloat (sortedRows.length : ℚ) strategy.trainFraction)).toNat = a
  generalize
    (Value.truncate (std.mulFloat (sortedRows.length : ℚ) strategy.validationFraction)).toNat = b
  have htrain : sortedRows.take a = (sortedRows.take (a + b)).take a := by
    rw [List.take_take, Nat.min_eq_left (Nat.le_add_right a b)]
  rw [htrain, List.take_append_drop, List.take_append_drop]

/-! ## Statistics -/

structure FeatureStatistic where
  featureName : String
  count : Nat
  missingCount : Nat
  mean : Option ℚ := none
  std : Option ℚ := none
  min : Option ℚ := none
  max : Option ℚ := none

structure LabelStatistics where
  count : Nat
  positiveCount : Int
  negativeCount : Int

def featureStatistic (std : Stdlib) (rows : List FeatureRow) (name : String) :
    Except PyError FeatureStatistic := do
  let values := rows.filterMap fun row => (row.get? name).getD none
  let missing := rows.length - values.length
  match ← values.mapM (Value.toFloat std) with
  | [] => return { featureName := name, count := 0, missingCount := missing }
  | x :: xs =>
    let numeric := x :: xs
    let mean := numeric.sum / numeric.length
    let variance := (numeric.map fun v => (v - mean) * (v - mean)).sum / numeric.length
    return {
      featureName := name, count := numeric.length, missingCount := missing, mean := some mean,
      std := some (std.sqrt variance), min := some (xs.foldl Min.min x),
      max := some (xs.foldl Max.max x) }

def computeFeatureStatistics (std : Stdlib) (rows : List FeatureRow) (featureNames : List String) :
    Except PyError (List FeatureStatistic) := featureNames.mapM (featureStatistic std rows)

def computeLabelStatistics (labels : List Int) : LabelStatistics :=
  { count := labels.length, positiveCount := labels.sum,
    negativeCount := labels.length - labels.sum }

/-! ## Checksum -/

/-- A scalar in `json.dumps(row, sort_keys=True, default=str)`. -/
def dumpScalar (std : Stdlib) : Option Value → String
  | none => "null"
  | some (.bool b) => if b then "true" else "false"
  | some (.int n) => toString n
  | some (.float x) => std.floatStr x
  | some v => Canonical.quote (v.toStr std)

/-- `json.dumps(row, sort_keys=True, default=str)` -/
def dumpRow (std : Stdlib) (row : FeatureRow) : String :=
  let sorted := row.rows.insertionSort fun a b => a.1 ≤ b.1
  "\x7b" ++ ", ".intercalate (sorted.map fun p =>
    Canonical.quote p.1 ++ ": " ++ dumpScalar std p.2) ++ "\x7d"

/-- The updates of the hash one after the other are one update with the joined text. -/
def computeDatasetChecksum (std : Stdlib) (rows : List FeatureRow) (labels : List Int) : String :=
  std.sha256 <| String.join <| (rows.zip labels).map fun p =>
    dumpRow std p.1 ++ "|label=" ++ toString p.2 ++ "\n"

end Datasets

end HermesRpt
