import HermesRpt.Common.Python

/-!
# HermesRpt.Mappings.Expressions

The expression language of derived mapping fields: a closed set of nodes, evaluated on one row of
source columns.

* `evaluate`            : the value of an expression on a row.
* `referencedColumns`   : the columns an expression touches.
* `checkExpressionDepth`: refuses a tree deeper than `maxExpressionDepth`.
-/

namespace HermesRpt

namespace Mappings

/-- `ScalarValue`: `None` is `none`. -/
abbrev ScalarValue := Option Value

inductive Expression where
  | columnRef (column : String)
  | literal (value : ScalarValue)
  | concat (parts : List Expression) (separator : String)
  | coalesce (options : List Expression)
  | upperCase (value : Expression)
  | lowerCase (value : Expression)
  | trim (value : Expression)
  | ifNullThenElse (value ifNull : Expression)

/-- `_MAX_EXPRESSION_DEPTH` -/
def maxExpressionDepth : Nat := 20

def expressionTooDeep : PyError :=
  ⟨.ExpressionTooDeepError, "Expression nesting exceeds the maximum depth of 20"⟩

def unknownSourceColumn (column : String) : PyError :=
  ⟨.ExpressionEvaluationError, "Unknown source column reference: " ++ reprStr column⟩

mutual

/-- `check_expression_depth`, at depth `depth`. -/
def checkExpressionDepth (depth : Nat) : Expression → Except PyError Unit
  | .columnRef _ | .literal _ =>
    if depth > maxExpressionDepth then .error expressionTooDeep else .ok ()
  | .concat children _ | .coalesce children =>
    if depth > maxExpressionDepth then .error expressionTooDeep
    else checkExpressionDepths (depth + 1) children
  | .upperCase value | .lowerCase value | .trim value =>
    if depth > maxExpressionDepth then .error expressionTooDeep
    else checkExpressionDepth (depth + 1) value
  | .ifNullThenElse value ifNull =>
    if depth > maxExpressionDepth then .error expressionTooDeep
    else do
      checkExpressionDepth (depth + 1) value
      checkExpressionDepth (depth + 1) ifNull

def checkExpressionDepths (depth : Nat) : List Expression → Except PyError Unit
  | [] => .ok ()
  | e :: es => do
    checkExpressionDepth depth e
    checkExpressionDepths depth es

end

/-- `value.upper() if isinstance(value, str) else value`, and likewise `lower` and `strip`. -/
def onStr (f : String → String) : ScalarValue → ScalarValue
  | some (.str s) => some (.str (f s))
  | v => v

mutual

/-- A row gives the columns it has; the value of a column may be `None`. -/
def evaluate (std : Stdlib) (row : String → Option ScalarValue) :
    Expression → Except PyError ScalarValue
  | .columnRef column =>
    match row column with
    | some value => .ok value
    | none => .error (unknownSourceColumn column)
  | .literal value => .ok value
  | .concat parts separator => do
    let pieces ← evaluateAll std row parts
    return some (.str (separator.intercalate (pieces.map fun
      | none => ""
      | some v => v.toStr std)))
  | .coalesce options => evaluateFirst std row options
  | .upperCase value => do return onStr std.upper (← evaluate std row value)
  | .lowerCase value => do return onStr std.lower (← evaluate std row value)
  | .trim value => do return onStr std.strip (← evaluate std row value)
  | .ifNullThenElse value ifNull => do
    match ← evaluate std row value with
    | some v => return some v
    | none => evaluate std row ifNull

/-- Every part, in order. -/
def evaluateAll (std : Stdlib) (row : String → Option ScalarValue) :
    List Expression → Except PyError (List ScalarValue)
  | [] => .ok []
  | e :: es => do
    let v ← evaluate std row e
    let vs ← evaluateAll std row es
    return v :: vs

/-- The first option that is not null; the options after it are not evaluated. -/
def evaluateFirst (std : Stdlib) (row : String → Option ScalarValue) :
    List Expression → Except PyError ScalarValue
  | [] => .ok none
  | e :: es => do
    match ← evaluate std row e with
    | some v => return some v
    | none => evaluateFirst std row es

end

mutual

/-- `referenced_columns`: a set, listed in the order in which the tree names its columns. -/
def referencedColumns : Expression → List String
  | .columnRef column => [column]
  | .literal _ => []
  | .concat children _ | .coalesce children => referencedColumnsAll children
  | .upperCase value | .lowerCase value | .trim value => referencedColumns value
  | .ifNullThenElse value ifNull => referencedColumns value ++ referencedColumns ifNull

def referencedColumnsAll : List Expression → List String
  | [] => []
  | e :: es => referencedColumns e ++ referencedColumnsAll es

end

end Mappings

end HermesRpt
