import HermesRpt.Datasets.Accounting
import HermesRpt.Extraction.AsOf
import HermesRpt.Inference.Failures
import HermesRpt.Models.Metrics
import Mathlib.Data.List.ReduceOption

/-!
# HermesRpt.Models.Training

The training of a baseline on a dataset, and its scores on the test split. NumPy and scikit-learn
are parameters.

* `buildFeatureMatrix`  : a row for each dataset row, a column for each feature.
* `train`               : what `BaselineTrainingService.train` computes, without its tracking.
* `evaluated_as_served` : the scores of the test split are those of the prediction endpoint.
-/

namespace HermesRpt

namespace Models

open Effect Connectors Mappings Features Datasets Extraction Inference
open Inference.Service (Predictors featureNames featureRow scoreFeatures)
open Keyed (Dict)

/-! ## The source -/

inductive BaselineModelType where
  | LOGISTIC_REGRESSION | GRADIENT_BOOSTED_TREES | MLP
  deriving DecidableEq, Repr

inductive ThresholdStrategy where
  | FIXED | MAX_F1
  deriving DecidableEq, Repr

def ThresholdStrategy.value : ThresholdStrategy → String
  | .FIXED => "fixed"
  | .MAX_F1 => "max_f1"

structure TrainingConfig where
  modelType : BaselineModelType
  randomSeed : Int := 42
  thresholdStrategy : ThresholdStrategy := .MAX_F1
  thresholdValue : ℚ := 1 / 2
  hyperparameters : Dict String Value := Keyed.Table.empty

/-- A cell without a value is a NaN. -/
abbrev Matrix := List (List (Option ℚ))

structure FeatureMatrix where
  x : Matrix
  y : List Int

def featureCell (std : Stdlib) (features : FeatureRow) (name : String) :
    Except PyError (Option ℚ) :=
  match (features.get? name).getD none with
  | none => .ok none
  | some value => do return some (← value.toFloat std)

def buildFeatureMatrix (std : Stdlib) (rows : List DatasetRow) (featureNames : List String) :
    Except PyError FeatureMatrix := do
  let x ← rows.mapM fun row => featureNames.mapM (featureCell std row.features)
  return { x, y := rows.map (·.label) }

/-- scikit-learn, behind the three baselines. -/
structure Baselines (Estimator : Type) where
  /-- `build_baseline(config)`, after `np.random.seed`, and its `fit`. -/
  fit : TrainingConfig → Matrix → List Int → Except PyError Estimator
  /-- `predict_proba`: the probability of the label 1 for each row. -/
  predictProba : Estimator → Matrix → Except PyError (List ℚ)

/-- The fitted estimator, and what its metrics are computed from. -/
structure Trained (Estimator : Type) where
  estimator : Estimator
  threshold : ℚ
  yTest : List Int
  testProba : List ℚ

def train {Estimator : Type} (np : Numerics) (baselines : Baselines Estimator) (std : Stdlib)
    (built : BuiltDataset) (contract : FeatureContract) (config : TrainingConfig) :
    Except PyError (Trained Estimator) := do
  let featureNames := contract.features.map (·.name)
  let trainMatrix ← buildFeatureMatrix std built.splits.train featureNames
  let valMatrix ← buildFeatureMatrix std built.splits.validation featureNames
  let testMatrix ← buildFeatureMatrix std built.splits.test featureNames
  let estimator ← baselines.fit config trainMatrix.x trainMatrix.y
  let valProba ← baselines.predictProba estimator valMatrix.x
  let threshold ← selectThreshold np (valMatrix.y.map (· = 1)) valProba
    config.thresholdStrategy.value config.thresholdValue
  let testProba ← baselines.predictProba estimator testMatrix.x
  return { estimator, threshold, yTest := testMatrix.y, testProba }

/-! ## The matrix of a dataset -/

/-- The element at the same place. -/
theorem forall₂_at {α β : Type} {R : α → β → Prop} {l₁ : List α} {l₂ : List β}
    (h : List.Forall₂ R l₁ l₂) {i : Nat} {a : α} (ha : l₁[i]? = some a) :
    ∃ b, l₂[i]? = some b ∧ R a b := by
  induction h generalizing i with
  | nil => cases ha
  | @cons c d l₁ l₂ hcd h ih =>
    cases i with
    | zero =>
      cases ha
      exact ⟨d, rfl, hcd⟩
    | succ i => exact ih ha

/-- The row of the matrix is the feature row of the endpoint. -/
theorem matrix_row {std : Stdlib} {rows : List DatasetRow} {matrix : FeatureMatrix}
    (h : buildFeatureMatrix std rows featureNames = .ok matrix) {i : Nat} {row : DatasetRow}
    (hrow : rows[i]? = some row) :
    matrix.y[i]? = some row.label ∧
      ∃ values, matrix.x[i]? = some values ∧ featureRow std row.features = .ok values := by
  obtain ⟨x, hx, h⟩ := except_bind_ok.1 h
  cases h
  refine ⟨by simp [hrow], ?_⟩
  obtain ⟨values, hvalues, hcells⟩ := forall₂_at (except_mapM_ok.1 hx) hrow
  exact ⟨values, hvalues, hcells⟩

/-- The parts of a training that succeeds. -/
theorem train_ok {Estimator : Type} {np : Numerics} {baselines : Baselines Estimator} {std : Stdlib}
    {built : BuiltDataset} {config : TrainingConfig} {trained : Trained Estimator}
    (h : train np baselines std built deliveryDelayRiskContract config = .ok trained) :
    ∃ matrix, buildFeatureMatrix std built.splits.test featureNames = .ok matrix ∧
      baselines.predictProba trained.estimator matrix.x = .ok trained.testProba ∧
      trained.yTest = matrix.y := by
  obtain ⟨trainMatrix, -, h⟩ := except_bind_ok.1 h
  obtain ⟨valMatrix, -, h⟩ := except_bind_ok.1 h
  obtain ⟨testMatrix, htest, h⟩ := except_bind_ok.1 h
  obtain ⟨estimator, -, h⟩ := except_bind_ok.1 h
  obtain ⟨valProba, -, h⟩ := except_bind_ok.1 h
  obtain ⟨threshold, -, h⟩ := except_bind_ok.1 h
  obtain ⟨testProba, hproba, h⟩ := except_bind_ok.1 h
  cases h
  exact ⟨testMatrix, htest, hproba, rfl⟩

/-! ## The scores -/

/-- A row of a dataset was extracted in one of the states that the databases went through. -/
theorem row_extracted {env : Environment} {later : Nat → Engine → CustomerDatabase}
    {db : ControlPlane} {definition : DatasetDefinition} {contract : FeatureContract}
    {ctx : TenantContext} {pool : PoolRegistry} {built : BuiltDataset}
    (h : (buildDuring env later db definition contract ctx { pool }).1 = .ok built)
    {row : DatasetRow}
    (hrow : row ∈ built.splits.train ++ built.splits.validation ++ built.splits.test) :
    ∃ k batch, (extract { env with world := later k } db contract ctx row.businessReference
      row.predictionTime { pool }).1 = .ok batch ∧ row.features = batch.features := by
  rw [buildDuring_eq] at h
  obtain ⟨target, p, engine, identityField, records, kept, version, -, -, -, -, -, -, hkept, -, -,
    haccounts⟩ :=
    buildWith_ok (fun i reference time =>
      computes_later (extract_computes contract reference time)) h
  rw [haccounts.splits] at hrow
  have hmem : some row ∈ kept := List.reduceOption_mem_iff.1 hrow
  obtain ⟨i, hi⟩ := List.mem_iff_getElem?.1 hmem
  obtain ⟨labelled, -, hleaves⟩ := forall₂_at (List.Forall₂.flip hkept) hi
  cases hleaves with
  | @found record label k predictionTime batch time extracted => exact ⟨k, batch, extracted, rfl⟩

/-- The scores that the metrics of a model are computed from are those that the prediction endpoint
gives: for each trip of the test split, a later request at its prediction time, in a state that
agrees as of then, has the same features and the same probability. -/
theorem evaluated_as_served {libs : Libraries} (env : Environment)
    (later : Nat → Engine → CustomerDatabase) (db : ControlPlane) (definition : DatasetDefinition)
    (ctx : TenantContext) (pool : PoolRegistry) (built : BuiltDataset)
    (hbuilt : (buildDuring env later db definition deliveryDelayRiskContract ctx { pool }).1 =
      .ok built)
    (np : Numerics) (baselines : Baselines libs.Estimator) (predictors : Predictors libs)
    (config : TrainingConfig) (trained : Trained libs.Estimator)
    (htrained : train np baselines env.std built deliveryDelayRiskContract config = .ok trained)
    (hrowwise : ∀ estimator x, x ≠ [] → baselines.predictProba estimator x =
      x.mapM (predictors.sklearnPredictProba estimator))
    (i : Nat) (row : DatasetRow) (hrow : built.splits.test[i]? = some row) :
    ∃ k probability, trained.yTest[i]? = some row.label ∧
      trained.testProba[i]? = some probability ∧
      ∀ serving db' pool', SameAsOf { env with world := later k } serving db db' ctx pool pool'
          deliveryDelayRiskContract row.businessReference row.predictionTime →
        ∃ batch, (extract serving db' deliveryDelayRiskContract ctx row.businessReference
            row.predictionTime { pool := pool' }).1 = .ok batch ∧ batch.features = row.features ∧
          ∀ loaded : LoadedModel libs, (∀ values, predictors.sklearnPredictProba loaded.estimator
              values = predictors.sklearnPredictProba trained.estimator values) →
            (featureRow serving.std batch.features >>=
                predictors.sklearnPredictProba loaded.estimator) = .ok probability ∧
              ∀ score, scoreFeatures serving.std predictors loaded batch = .ok score →
                score.probability = probability := by
  obtain ⟨matrix, hmatrix, hproba, hlabels⟩ := train_ok htrained
  obtain ⟨hlabel, values, hvalues, hfeatures⟩ := matrix_row hmatrix hrow
  rw [hrowwise _ _ (List.ne_nil_of_mem (List.mem_of_getElem? hvalues))] at hproba
  obtain ⟨probability, hat, hscored⟩ := forall₂_at (except_mapM_ok.1 hproba) hvalues
  have hmem : row ∈ built.splits.train ++ built.splits.validation ++ built.splits.test :=
    List.mem_append_right _ (List.mem_of_getElem? hrow)
  obtain ⟨k, batch, hextracted, hbatch⟩ := row_extracted hbuilt hmem
  refine ⟨k, probability, hlabels ▸ hlabel, hat, fun serving db' pool' hsame => ?_⟩
  have hserved := extract_ok_asOf hsame hextracted
  refine ⟨_, hserved, hbatch.symm, fun loaded hloaded => ?_⟩
  have hrowOf : featureRow serving.std (extractedAt serving.now batch).features = .ok values := by
    have hstd : serving.std = env.std := hsame.std
    rw [hstd]
    show featureRow env.std batch.features = .ok values
    rw [← hbatch]
    exact hfeatures
  refine ⟨?_, fun score hscore => ?_⟩
  · rw [hrowOf, except_ok_bind, hloaded]
    exact hscored
  · unfold scoreFeatures at hscore
    rw [hrowOf, except_ok_bind, hloaded, hscored, except_ok_bind] at hscore
    obtain ⟨importance, -, hscore⟩ := except_bind_ok.1 hscore
    obtain ⟨explanations, -, hscore⟩ := except_bind_ok.1 hscore
    cases hscore
    rfl

namespace Sample

open HermesRpt.Sample (ctx plain)
open Extraction.Sample (trips tripRow servedTrips version serving oneTable delays resolve_trips)
open Inference.Sample (libraries)
open Inference.Service.Sample (predictors)

/-- Trips with their planned arrival. -/
def arrivals : MappingDocument :=
  { trips with fields := ⟨("planned_arrival_at", plain "due") :: trips.fields.rows, by decide⟩ }

def servedArrivals : ControlPlane :=
  { servedTrips with versions := ⟨[version arrivals], by decide⟩ }

/-- The start of a week. -/
def week (n : Int) : DateTime := ⟨n * 604800000000, 0⟩

/-- A trip of an hour, with a driver of its own, and its delay in hours when it has arrived. -/
def weekly (id : String) (n : Int) (state : String) (delay : Option Int) : Sql.Row Value :=
  fun column =>
    if column = "due" then some (.datetime ⟨n * 604800000000 + 3600000000, 0⟩)
    else if column = "driver" then some (.str id)
    else tripRow id (week n) state
      (delay.map fun hours => .datetime ⟨n * 604800000000 + (1 + hours) * 3600000000, 0⟩) column

def earlier : List (Sql.Row Value) :=
  [weekly "t0" 0 "completed" (some 0), weekly "t1" 1 "completed" (some 2),
    weekly "t2" 2 "completed" (some 0)]

/-- The fourth trip is about to depart. -/
def departing : Environment :=
  { serving (oneTable "vehicles" (earlier ++ [weekly "t3" 3 "planned" none])) with now := week 3 }

/-- It has arrived late. -/
def arrived : Environment :=
  { serving (oneTable "vehicles" (earlier ++ [weekly "t3" 3 "completed" (some 2)])) with
    now := week 4 }

def weeks : DatasetDefinition :=
  { delays with
    timeRangeEnd := week 4
    range_nonempty := by decide
    label := { functionName := "delivery_delay_label",
               sourceFields := ["status", "planned_arrival_at", "actual_arrival_at"],
               timeField := "planned_departure_at" }
    splitStrategy := { trainFraction := 1 / 2, validationFraction := 1 / 4,
                       in_unit := by decide +kernel, room_for_test := by decide +kernel } }

def built : Except PyError BuiltDataset :=
  (buildDuring arrived (fun _ => arrived.world) servedArrivals weeks deliveryDelayRiskContract ctx
    { pool := Keyed.Table.empty }).1

/-- Of two trips that look alike one is late. -/
def baselines : Baselines libraries.Estimator where
  fit _ _ _ := .ok (.file [])
  predictProba estimator x := x.mapM (predictors.sklearnPredictProba estimator)

def config : TrainingConfig :=
  { modelType := .LOGISTIC_REGRESSION, thresholdStrategy := .FIXED }

def evaluated : Except PyError (List (String × DateTime × Int) × List ℚ) := do
  let dataset ← built
  let trained ← train numerics baselines arrived.std dataset deliveryDelayRiskContract config
  return (dataset.splits.test.map fun row => (row.businessReference, row.predictionTime, row.label),
    trained.testProba)

theorem evaluated_eq : evaluated = .ok ([("t3", week 3, 1)], [1 / 2]) := by decide +kernel

theorem targetAsOf_arrived : TargetAsOf arrived.std arrivals deliveryDelayRiskContract (week 3)
    (weekly "t3" 3 "completed" (some 2)) (weekly "t3" 3 "planned" none) := by
  intro f hf c hc
  have hunread : ∀ f ∈ neededTargetFields deliveryDelayRiskContract,
      columnOf arrivals f ≠ some "state" ∧ columnOf arrivals f ≠ some "arrived" := by decide
  have hstate : c ≠ "state" := fun heq => (hunread f hf).1 (heq ▸ hc)
  have harrived : c ≠ "arrived" := fun heq => (hunread f hf).2 (heq ▸ hc)
  left
  simp [weekly, tripRow, hstate, harrived]

theorem sameAsOf_arrivals : SameAsOf arrived departing servedArrivals servedArrivals ctx
    Keyed.Table.empty Keyed.Table.empty deliveryDelayRiskContract "t3" (week 3) where
  std := rfl
  mapping _ _ := rfl
  connection _ _ _ _ := rfl
  engine _ _ _ _ _ _ := rfl
  compare _ := rfl
  target found p engine identity hreaches hid := by
    obtain ⟨-, rfl⟩ := resolve_trips hreaches.mapping
    cases hid
    exact .some ⟨rfl, .cons targetAsOf_arrived .nil⟩
  related feature hmem name found p engine hname hreaches := by
    obtain ⟨rfl, rfl⟩ := resolve_trips hreaches.mapping
    have htime : ∀ feature ∈ deliveryDelayRiskContract.features,
        feature.relatedEntity = some "Trip" →
          (given feature.relatedTimestampField).bind (columnOf arrivals) = some "departs" := by
      decide
    rw [htime feature hmem hname]
    exact .some ⟨rfl, .cons (fun _ _ => rfl) (.cons (fun _ _ => rfl) (.cons (fun _ _ => rfl) .nil))⟩

end Sample

theorem evaluated_as_served_arrived : ∃ dataset trained row, Sample.built = .ok dataset ∧
    train numerics Sample.baselines Sample.arrived.std dataset deliveryDelayRiskContract
      Sample.config = .ok trained ∧
    dataset.splits.test = [row] ∧ trained.yTest[0]? = some 1 ∧
    trained.testProba[0]? = some (1 / 2) ∧
    ∃ batch, (extract Sample.departing Sample.servedArrivals deliveryDelayRiskContract
        HermesRpt.Sample.ctx "t3" (Sample.week 3) { pool := Keyed.Table.empty }).1 = .ok batch ∧
      batch.features = row.features ∧
      (featureRow Sample.departing.std batch.features >>=
        Inference.Service.Sample.predictors.sklearnPredictProba trained.estimator) =
          .ok (1 / 2) := by
  obtain ⟨dataset, hbuilt, h⟩ := except_bind_ok.1 Sample.evaluated_eq
  obtain ⟨trained, htrained, h⟩ := except_bind_ok.1 h
  obtain ⟨hrows, hproba⟩ := Prod.mk.inj (Except.ok.inj h)
  obtain ⟨row, htest, hrow⟩ := List.map_eq_singleton_iff.1 hrows
  obtain ⟨reference, time, features, label⟩ := row
  cases hrow
  obtain ⟨k, probability, hlabel, hat, hserved⟩ := evaluated_as_served Sample.arrived
    (fun _ => Sample.arrived.world) Sample.servedArrivals Sample.weeks HermesRpt.Sample.ctx
    Keyed.Table.empty dataset hbuilt numerics Sample.baselines Inference.Service.Sample.predictors
    Sample.config trained htrained (fun _ _ _ => rfl) 0 _ (by rw [htest]; rfl)
  obtain rfl : 1 / 2 = probability := by
    rw [hproba] at hat
    exact Option.some.inj hat
  obtain ⟨batch, hbatch, hfeatures, hscored⟩ :=
    hserved Sample.departing Sample.servedArrivals Keyed.Table.empty Sample.sameAsOf_arrivals
  exact ⟨dataset, trained, _, hbuilt, htrained, htest, hlabel, hat, batch, hbatch, hfeatures,
    (hscored ⟨20, trained.estimator⟩ fun _ => rfl).1⟩

end Models

end HermesRpt
