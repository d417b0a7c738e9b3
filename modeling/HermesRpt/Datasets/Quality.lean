import HermesRpt.Features.Compiler

/-!
# HermesRpt.Datasets.Quality

Data-quality checks on fetched rows and labels. The checks of one field are one function of the
rows that fail; each keeps its own severity, condition and text.
-/

namespace HermesRpt

namespace Datasets

open Features

inductive QualitySeverity where
  | INFO | WARNING | ERROR
  deriving DecidableEq, Repr

def QualitySeverity.value : QualitySeverity → String
  | .INFO => "info"
  | .WARNING => "warning"
  | .ERROR => "error"

structure QualityIssue where
  check : String
  severity : QualitySeverity
  count : Nat
  message : String
  exampleIds : List String := []

structure DataQualityReport where
  rowCount : Nat
  issues : List QualityIssue

/-- `_MAX_EXAMPLE_IDS` -/
def maxExampleIds : Nat := 5

/-- `_MIN_MINORITY_CLASS_FRACTION` -/
def minMinorityClassFraction : ℚ := 2 / 100

/-- `str(v)` of a value that may be `None`. -/
def strOf (std : Stdlib) (v : Option Value) : String := (v.map (Value.toStr std)).getD "None"

/-- An issue about the rows that fail, or none. -/
def issueAbout (check : String) (severity : QualitySeverity) (badIds : List String)
    (message : String) : Option QualityIssue :=
  if badIds = [] then none
  else some { check, severity, count := badIds.length, message,
              exampleIds := badIds.take maxExampleIds }

/-- The ids of the rows that fail. -/
def badIds (std : Stdlib) (rows : List FieldRow) (idField : String) (bad : FieldRow → Bool) :
    List String := (rows.filter bad).map fun row => strOf std (row.value idField)

/-- The distinct keys of a `Counter`, in the order in which they come. -/
def distinctKeys (values : List Value) : List Value :=
  values.foldl (fun keys v => if keys.any (·.pyEq v) then keys else keys ++ [v]) []

def checkDuplicateIds (std : Stdlib) (rows : List FieldRow) (idField check : String) :
    Except PyError (Option QualityIssue) := do
  let values ← (rows.filterMap (·.value idField)).mapM Value.hashed
  let duplicates := ((distinctKeys values).filter fun k => values.countP (·.pyEq k) > 1).map
    (Value.toStr std)
  return issueAbout check .ERROR duplicates
    (toString duplicates.length ++ " duplicate value(s) found for " ++ reprStr idField)

def checkInvalidDateOrdering (std : Stdlib) (rows : List FieldRow)
    (idField earlierField laterField check : String) : Option QualityIssue :=
  let bad := badIds std rows idField fun row =>
    match row.value earlierField, row.value laterField with
    | some (.datetime earlier), some (.datetime later) => later < earlier
    | _, _ => false
  issueAbout check .ERROR bad (toString bad.length ++ " row(s) have " ++ reprStr laterField ++
    " before " ++ reprStr earlierField)

def checkNegativeNumeric (std : Stdlib) (rows : List FieldRow) (idField field check : String) :
    Option QualityIssue :=
  let bad := badIds std rows idField fun row =>
    ((row.value field).bind Value.number?).any (· < 0)
  issueAbout check .ERROR bad (toString bad.length ++ " row(s) have a negative " ++ reprStr field)

/-- `value not in allowed_values` hashes the value. -/
def checkUnrecognisedValues (std : Stdlib) (rows : List FieldRow) (idField field : String)
    (allowedValues : List String) (check : String) : Except PyError (Option QualityIssue) := do
  let _ ← (rows.filterMap (·.value field)).mapM Value.hashed
  let bad := badIds std rows idField fun row =>
    (row.value field).any fun v => v ∉ allowedValues.map Value.str
  return issueAbout check .WARNING bad
    (toString bad.length ++ " row(s) have an unrecognised " ++ reprStr field)

def checkFutureTimestamps (std : Stdlib) (rows : List FieldRow) (idField field : String)
    (now : DateTime) (check : String) : Option QualityIssue :=
  let bad := badIds std rows idField fun row =>
    match row.value field with
    | some (.datetime t) => now < t
    | _ => false
  issueAbout check .ERROR bad
    (toString bad.length ++ " row(s) have a " ++ reprStr field ++ " in the future")

def checkMissingLabels (labels : List (Option Int)) (check : String := "missing_labels") :
    Option QualityIssue :=
  let missing := labels.countP Option.isNone
  if missing = 0 then none
  else some {
    check, severity := .INFO, count := missing,
    message := toString missing ++ " of " ++ toString labels.length ++
      " candidate row(s) have no label yet (outcome not known as of the dataset's time range) " ++
      "and were excluded" }

def checkClassImbalance (std : Stdlib) (labels : List Int) (check : String := "class_imbalance") :
    Option QualityIssue :=
  if labels = [] then none
  else
    let positiveFraction : ℚ := labels.sum / labels.length
    let minorityFraction := min positiveFraction (1 - positiveFraction)
    if minMinorityClassFraction ≤ minorityFraction then none
    else some {
      check, severity := .WARNING, count := labels.length,
      message := "Minority class fraction is " ++ std.fixed4 minorityFraction ++ ", below the " ++
        std.fixed4 minMinorityClassFraction ++ " threshold — severe class imbalance" }

end Datasets

end HermesRpt
