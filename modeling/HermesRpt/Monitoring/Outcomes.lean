import HermesRpt.Inference.Models
import HermesRpt.Lib.Dict
import HermesRpt.Lib.Run
import HermesRpt.Registry.Repository
import Mathlib.Algebra.BigOperators.Group.List.Basic
import Mathlib.Algebra.Order.BigOperators.Group.List
import Mathlib.Algebra.Order.Field.Rat
import Mathlib.Tactic.Linarith
import Mathlib.Tactic.Positivity

/-!
# HermesRpt.Monitoring.Outcomes

Outcomes of predictions, and the metrics that are realized by them. `record_outcome` is the only
writer: it labels a result of the caller's tenant, or labels it again, and publishes the metrics of
the result's model version.

* `Store`         : the results, and the outcomes with their unique constraint.
* `recordOutcome` : the service's method, in its session.
* `Monitor`       : the committed store and the gauges of the process.
* `realized`      : the metrics of labelled probabilities.
* `Recorded`      : the outcomes that a run has left are the last labels it recorded.
* `realized_of_last_labels` : the metrics after a run.
-/

namespace HermesRpt

namespace Monitoring

open Keyed (Table Dict HasKey Indexed)
open Transaction Machine
open Inference (PredictionResult)

structure PredictionOutcome where
  id : Uuid
  tenantId : Uuid
  predictionResultId : Uuid
  actualLabel : Bool
  recordedByPrincipalId : Uuid
  deriving DecidableEq

instance : HasKey PredictionOutcome Uuid := ⟨PredictionOutcome.id⟩

/-- `uq_prediction_outcome_result` -/
def PredictionOutcome.index (outcome : PredictionOutcome) : Option Uuid :=
  some outcome.predictionResultId

structure Store where
  results : Table PredictionResult := Table.empty
  outcomes : Indexed PredictionOutcome PredictionOutcome.index := Indexed.empty
  audit : List AuditEvent := []

structure RealizedModelMetrics where
  modelVersionId : Uuid
  labeledCount : Nat
  precision : ℚ
  /-- `recall`, a keyword here. -/
  recallRate : ℚ
  calibrationDrift : ℚ
  deriving DecidableEq

/-- The order in which the database returns the rows of a join without an `ORDER BY`. -/
structure JoinOrder where
  arrange : List (PredictionResult × PredictionOutcome) → List (PredictionResult × PredictionOutcome)
  perm : ∀ pairs, (arrange pairs).Perm pairs

/-! ## The repositories -/

/-- `PredictionResultRepository.require` -/
def requireResult (store : Store) (id : Uuid) (ctx : TenantContext) :
    Except PyError PredictionResult :=
  match store.results.find? id with
  | some result =>
    if result.tenantId ≠ ctx.tenantId then .error (notFound "PredictionResult" id ctx) else .ok result
  | none => .error (notFound "PredictionResult" id ctx)

def getByPredictionResultId (store : Store) (predictionResultId : Uuid) (ctx : TenantContext) :
    Except PyError (Option PredictionOutcome) :=
  Registry.scalarOneOrNone (store.outcomes.table.rows.filter fun o =>
    o.tenantId = ctx.tenantId ∧ o.predictionResultId = predictionResultId)

def listLabeledResultsForModel (order : JoinOrder) (store : Store) (modelVersionId : Uuid)
    (ctx : TenantContext) : List (PredictionResult × PredictionOutcome) :=
  order.arrange (store.results.rows.flatMap fun r =>
    (store.outcomes.table.rows.filter fun o => o.predictionResultId = r.id ∧
      r.tenantId = ctx.tenantId ∧ o.tenantId = ctx.tenantId ∧
      r.modelVersionId = modelVersionId).map fun o => (r, o))

/-! ## The metrics -/

/-- `_DECISION_THRESHOLD` -/
def decisionThreshold : ℚ := 1 / 2

/-- `float(result.output.get("delay_probability", 0.0))`: a stored output has the probability. -/
def probability (result : PredictionResult) : ℚ := result.output.delayProbability

/-- The accumulators of the loop over the pairs. -/
structure Tally where
  truePositive : Nat := 0
  falsePositive : Nat := 0
  falseNegative : Nat := 0
  probabilitySum : ℚ := 0
  actualPositiveCount : Nat := 0

/-- A pass of the loop. -/
def Tally.add (t : Tally) (pair : PredictionResult × PredictionOutcome) : Tally :=
  let probability := probability pair.1
  let predictedPositive : Bool := probability ≥ decisionThreshold
  let actualLabel := pair.2.actualLabel
  { truePositive := t.truePositive + if predictedPositive && actualLabel then 1 else 0
    falsePositive := t.falsePositive + if predictedPositive && !actualLabel then 1 else 0
    falseNegative := t.falseNegative + if !predictedPositive && actualLabel then 1 else 0
    probabilitySum := t.probabilitySum + probability
    actualPositiveCount := t.actualPositiveCount + if actualLabel then 1 else 0 }

def computeRealizedModelMetrics (order : JoinOrder) (store : Store) (modelVersionId : Uuid)
    (ctx : TenantContext) : Option RealizedModelMetrics :=
  let pairs := listLabeledResultsForModel order store modelVersionId ctx
  if pairs = [] then none
  else
    let t := pairs.foldl Tally.add {}
    let meanPredictedProbability := t.probabilitySum / pairs.length
    let realizedPositiveRate : ℚ := t.actualPositiveCount / pairs.length
    some {
      modelVersionId, labeledCount := pairs.length
      precision :=
        if t.truePositive + t.falsePositive = 0 then 0
        else t.truePositive / (t.truePositive + t.falsePositive)
      recallRate :=
        if t.truePositive + t.falseNegative = 0 then 0
        else t.truePositive / (t.truePositive + t.falseNegative)
      calibrationDrift := |meanPredictedProbability - realizedPositiveRate| }

/-! ## The service -/

/-- A call of `record_outcome`, with the id that a new row draws. -/
structure Record where
  ctx : TenantContext
  predictionResultId : Uuid
  actualLabel : Bool
  outcomeId : Uuid

/-- The outcomes with another label in the row of this id. -/
def relabelled (outcomes : Indexed PredictionOutcome PredictionOutcome.index) (id : Uuid)
    (actualLabel : Bool) : Indexed PredictionOutcome PredictionOutcome.index :=
  outcomes.update id (fun o => { o with actualLabel }) (fun _ => rfl) (fun _ => rfl)

/-- `existing.actual_label = actual_label`, flushed. -/
def relabel (existing : PredictionOutcome) (actualLabel : Bool) :
    Tx Store PyError PredictionOutcome := do
  write fun store => .ok { store with
    outcomes := relabelled store.outcomes existing.id actualLabel }
  return { existing with actualLabel }

/-- A new row of the caller's tenant, flushed. -/
def addOutcome (call : Record) : Tx Store PyError PredictionOutcome := do
  let outcome : PredictionOutcome :=
    { id := call.outcomeId, tenantId := call.ctx.tenantId,
      predictionResultId := call.predictionResultId, actualLabel := call.actualLabel,
      recordedByPrincipalId := call.ctx.principalId }
  write fun store =>
    match store.outcomes.insert? outcome with
    | some outcomes => .ok { store with outcomes }
    | none => .error integrityError
  return outcome

/-- The row with the label: the existing one, or a new one. -/
def labelOutcome (call : Record) : Option PredictionOutcome → Tx Store PyError PredictionOutcome
  | some existing => relabel existing call.actualLabel
  | none => addOutcome call

def recordOutcome (order : JoinOrder) (call : Record) :
    Tx Store PyError (PredictionOutcome × Option RealizedModelMetrics) := do
  let result ← read fun store => requireResult store call.predictionResultId call.ctx
  let existing ← read fun store => getByPredictionResultId store call.predictionResultId call.ctx
  let outcome ← labelOutcome call existing
  write fun store => .ok { store with audit := store.audit ++ [{
    tenantId := some call.ctx.tenantId, principalId := some call.ctx.principalId,
    action := "prediction.record_outcome", resourceType := some "PredictionResult",
    resourceId := some call.predictionResultId, outcome := .SUCCESS,
    correlationId := call.ctx.correlationId,
    details := [("actual_label", some (.bool call.actualLabel))] }] }
  let realized ← read fun store =>
    .ok (computeRealizedModelMetrics order store result.modelVersionId call.ctx)
  return (outcome, realized)

/-- The committed store, and the gauges by tenant and model version. -/
structure Monitor where
  store : Store := {}
  gauges : Dict (Uuid × Uuid) RealizedModelMetrics := Table.empty

/-- A call in a session of its own: a raise rolls it back. The gauges are published with the metrics
that the call computes. -/
def Monitor.record (order : JoinOrder) (monitor : Monitor) (call : Record) : Monitor :=
  match recordOutcome order call monitor.store with
  | .ok ((_, some realized), store) =>
    { store, gauges := monitor.gauges.set (call.ctx.tenantId, realized.modelVersionId) realized }
  | .ok ((_, none), store) => { monitor with store }
  | .error _ => monitor

/-! ## Metrics of labelled probabilities -/

section Realized

/-- A quotient by zero is zero. -/
def realizedPrecision (samples : List (ℚ × Bool)) : ℚ :=
  (samples.countP fun s => decisionThreshold ≤ s.1 && s.2) /
    samples.countP fun s => decisionThreshold ≤ s.1

def realizedRecall (samples : List (ℚ × Bool)) : ℚ :=
  (samples.countP fun s => decisionThreshold ≤ s.1 && s.2) / samples.countP fun s => s.2

/-- The distance of the mean probability from the rate of positive labels. -/
def realizedDrift (samples : List (ℚ × Bool)) : ℚ :=
  |(samples.map Prod.fst).sum / samples.length - (samples.countP fun s => s.2) / samples.length|

def realized (modelVersionId : Uuid) (samples : List (ℚ × Bool)) : Option RealizedModelMetrics :=
  if samples = [] then none
  else some {
    modelVersionId, labeledCount := samples.length, precision := realizedPrecision samples,
    recallRate := realizedRecall samples, calibrationDrift := realizedDrift samples }

variable {samples samples' : List (ℚ × Bool)}

/-- The order of the samples does not matter. -/
theorem realized_perm (h : samples.Perm samples') (modelVersionId : Uuid) :
    realized modelVersionId samples = realized modelVersionId samples' := by
  have hnil : samples = [] ↔ samples' = [] := by
    rw [← List.length_eq_zero_iff, h.length_eq, List.length_eq_zero_iff]
  have hsum : (samples.map Prod.fst).sum = (samples'.map Prod.fst).sum := (h.map _).sum_eq
  simp only [realized, realizedPrecision, realizedRecall, realizedDrift, hnil, h.length_eq,
    h.countP_eq, hsum]

theorem countP_div_le_one {α : Type} {p q : α → Bool} (l : List α) (h : ∀ a, p a = true → q a = true) :
    (l.countP p : ℚ) / l.countP q ≤ 1 := by
  have hle : l.countP p ≤ l.countP q := List.countP_mono_left fun a _ => h a
  exact div_le_one_of_le₀ (by exact_mod_cast hle) (Nat.cast_nonneg _)

/-- The mean of numbers of the unit interval. -/
theorem mean_mem_unit (h : ∀ s ∈ samples, 0 ≤ s.1 ∧ s.1 ≤ 1) :
    0 ≤ (samples.map Prod.fst).sum / samples.length ∧
      (samples.map Prod.fst).sum / samples.length ≤ 1 := by
  have hnonneg : 0 ≤ (samples.map Prod.fst).sum := by
    refine List.sum_nonneg fun x hx => ?_
    obtain ⟨s, hs, rfl⟩ := List.mem_map.1 hx
    exact (h s hs).1
  have hle : (samples.map Prod.fst).sum ≤ samples.length := by
    have hcard := List.sum_le_card_nsmul (samples.map Prod.fst) 1 (by
      intro x hx
      obtain ⟨s, hs, rfl⟩ := List.mem_map.1 hx
      exact (h s hs).2)
    simpa using hcard
  exact ⟨div_nonneg hnonneg (Nat.cast_nonneg _), div_le_one_of_le₀ hle (Nat.cast_nonneg _)⟩

theorem realized_modelVersionId {modelVersionId : Uuid} {metrics : RealizedModelMetrics}
    (h : realized modelVersionId samples = some metrics) :
    metrics.modelVersionId = modelVersionId := by
  rw [realized] at h
  split at h
  · cases h
  · cases h
    rfl

/-- Metrics of probabilities lie in the unit interval. -/
theorem realized_mem_unit {modelVersionId : Uuid} {metrics : RealizedModelMetrics}
    (h : realized modelVersionId samples = some metrics)
    (hsamples : ∀ s ∈ samples, 0 ≤ s.1 ∧ s.1 ≤ 1) :
    (0 ≤ metrics.precision ∧ metrics.precision ≤ 1) ∧
      (0 ≤ metrics.recallRate ∧ metrics.recallRate ≤ 1) ∧ 0 ≤ metrics.calibrationDrift ∧ metrics.calibrationDrift ≤ 1 := by
  rw [realized] at h
  split at h
  · cases h
  · cases h
    obtain ⟨hmean, hmean'⟩ := mean_mem_unit hsamples
    have hrate : (0 : ℚ) ≤ (samples.countP fun s => s.2) / samples.length := by positivity
    have hrate' : ((samples.countP fun s => s.2 : ℕ) : ℚ) / samples.length ≤ 1 :=
      div_le_one_of_le₀ (by exact_mod_cast List.countP_le_length) (Nat.cast_nonneg _)
    refine ⟨⟨?_, countP_div_le_one _ ?_⟩, ⟨?_, countP_div_le_one _ ?_⟩, abs_nonneg _, ?_⟩
    · unfold realizedPrecision
      positivity
    · intro s hs
      exact (Bool.and_eq_true_iff.1 hs).1
    · unfold realizedRecall
      positivity
    · intro s hs
      exact (Bool.and_eq_true_iff.1 hs).2
    · rw [realizedDrift, abs_le]
      constructor <;> linarith

end Realized

/-! ## The loop -/

variable {order : JoinOrder} {store store' : Store} {call : Record}

/-- What the loop reads of a pair. -/
def sample (pair : PredictionResult × PredictionOutcome) : ℚ × Bool :=
  (probability pair.1, pair.2.actualLabel)

theorem countP_and_add {α : Type} (p q : α → Bool) (l : List α) :
    l.countP (fun a => p a && q a) + l.countP (fun a => p a && !q a) = l.countP p := by
  induction l with
  | nil => rfl
  | cons a l ih =>
    simp only [List.countP_cons]
    cases p a <;> cases q a <;> simp <;> omega

theorem foldl_add (pairs : List (PredictionResult × PredictionOutcome)) :
    pairs.foldl Tally.add {} =
      { truePositive := (pairs.map sample).countP fun s => decisionThreshold ≤ s.1 && s.2
        falsePositive := (pairs.map sample).countP fun s => decisionThreshold ≤ s.1 && !s.2
        falseNegative := (pairs.map sample).countP fun s => !decide (decisionThreshold ≤ s.1) && s.2
        probabilitySum := ((pairs.map sample).map Prod.fst).sum
        actualPositiveCount := (pairs.map sample).countP fun s => s.2 } := by
  induction pairs using List.reverseRecOn with
  | nil => rfl
  | append_singleton pairs pair ih =>
    rw [List.foldl_append, ih, List.foldl_cons, List.foldl_nil, Tally.add]
    simp [sample, List.countP_cons]

/-- The quotients of the code, which are zero when there is nothing to divide by. -/
theorem quotient_eq {a b c : ℕ} (h : a + b = c) :
    (if a + b = 0 then (0 : ℚ) else a / (a + b)) = a / c := by
  subst h
  split
  · rename_i hzero
    rw [hzero]
    simp
  · rw [Nat.cast_add]

theorem computeRealizedModelMetrics_eq (order : JoinOrder) (store : Store) (modelVersionId : Uuid)
    (ctx : TenantContext) : computeRealizedModelMetrics order store modelVersionId ctx =
      realized modelVersionId
        ((listLabeledResultsForModel order store modelVersionId ctx).map sample) := by
  rw [computeRealizedModelMetrics, realized]
  generalize listLabeledResultsForModel order store modelVersionId ctx = pairs
  by_cases hnil : pairs = []
  · subst hnil
    rfl
  · have hmap : pairs.map sample ≠ [] := by simpa using hnil
    have hpredicted := countP_and_add (fun s : ℚ × Bool => decide (decisionThreshold ≤ s.1))
      (fun s => s.2) (pairs.map sample)
    have hactual := countP_and_add (fun s : ℚ × Bool => s.2)
      (fun s => decide (decisionThreshold ≤ s.1)) (pairs.map sample)
    simp only [Bool.and_comm (x := Prod.snd _)] at hactual
    rw [if_neg hnil, if_neg hmap, foldl_add]
    simp only [quotient_eq hpredicted, quotient_eq hactual, realizedPrecision, realizedRecall,
      realizedDrift, List.length_map]

/-! ## Labels -/

theorem index_eq_some {o : PredictionOutcome} {id : Uuid} :
    o.index = some id ↔ o.predictionResultId = id := by
  rw [PredictionOutcome.index, Option.some.injEq]

/-- Every outcome belongs to a result of its own tenant. -/
def Store.Consistent (store : Store) : Prop :=
  ∀ o ∈ store.outcomes, ∃ r ∈ store.results, r.id = o.predictionResultId ∧ r.tenantId = o.tenantId

/-- The label of a result. -/
def Store.label (store : Store) (predictionResultId : Uuid) : Option Bool :=
  (store.outcomes.lookup predictionResultId).map (·.actualLabel)

theorem requireResult_ok {id : Uuid} {ctx : TenantContext} {result : PredictionResult} :
    requireResult store id ctx = .ok result ↔
      store.results.find? id = some result ∧ result.tenantId = ctx.tenantId := by
  unfold requireResult
  cases store.results.find? id with
  | none => simp
  | some r =>
    by_cases h : r.tenantId = ctx.tenantId
    · simp only [h, ne_eq, not_true_eq_false, if_false, Except.ok.injEq, Option.some.injEq]
      constructor
      · rintro rfl
        exact ⟨rfl, h⟩
      · exact fun hr => hr.1
    · simp only [h, ne_eq, not_false_eq_true, if_true, reduceCtorEq, Option.some.injEq, false_iff,
        not_and]
      rintro rfl
      exact h

/-- The lookup of an outcome finds the one of the result, if it is the caller's. -/
theorem getByPredictionResultId_eq (hconsistent : store.Consistent) {id : Uuid}
    {ctx : TenantContext} {result : PredictionResult}
    (h : requireResult store id ctx = .ok result) :
    getByPredictionResultId store id ctx = .ok (store.outcomes.lookup id) := by
  obtain ⟨hfind, htenant⟩ := requireResult_ok.1 h
  have hrows : (store.outcomes.table.rows.filter fun o =>
      o.tenantId = ctx.tenantId ∧ o.predictionResultId = id) = (store.outcomes.lookup id).toList := by
    rw [← Indexed.filter_index]
    refine List.filter_congr fun o ho => ?_
    rw [decide_eq_decide, index_eq_some]
    constructor
    · exact fun ho => ho.2
    · intro hid
      obtain ⟨r, hr, hrid, hrtenant⟩ := hconsistent o ho
      have hfound := Table.find?_key hr
      rw [show HasKey.key r = id from hrid.trans hid, hfind] at hfound
      obtain rfl := Option.some.inj hfound
      exact ⟨hrtenant.symm.trans htenant, hid⟩
  rw [getByPredictionResultId, hrows]
  cases store.outcomes.lookup id <;> rfl

/-! ## What a call does -/

theorem lookup_relabelled (outcomes : Indexed PredictionOutcome PredictionOutcome.index)
    (id : Uuid) (actualLabel : Bool) (i : Uuid) : (relabelled outcomes id actualLabel).lookup i =
      (outcomes.lookup i).map fun o => if o.id = id then { o with actualLabel } else o :=
  Indexed.lookup_update i

theorem mem_relabelled {outcomes : Indexed PredictionOutcome PredictionOutcome.index} {id : Uuid}
    {actualLabel : Bool} {a : PredictionOutcome} (h : a ∈ relabelled outcomes id actualLabel) :
    ∃ o ∈ outcomes, a.predictionResultId = o.predictionResultId ∧ a.tenantId = o.tenantId := by
  obtain ⟨o, ho, rfl⟩ := Indexed.mem_update.1 h
  refine ⟨o, ho, ?_⟩
  split <;> exact ⟨rfl, rfl⟩

/-- A label is replaced in the row of its result. -/
theorem label_relabelled {existing : PredictionOutcome} (hexisting : existing ∈ store.outcomes)
    (actualLabel : Bool) (id : Uuid) :
    ((relabelled store.outcomes existing.id actualLabel).lookup id).map (·.actualLabel) =
      if id = existing.predictionResultId then some actualLabel else store.label id := by
  rw [lookup_relabelled, Option.map_map, Store.label]
  by_cases hid : id = existing.predictionResultId
  · rw [if_pos hid, Indexed.lookup_eq_some.2 ⟨hexisting, index_eq_some.2 hid.symm⟩]
    simp
  · rw [if_neg hid]
    cases hlookup : store.outcomes.lookup id with
    | none => rfl
    | some other =>
      obtain ⟨hother, hindex⟩ := Indexed.lookup_eq_some.1 hlookup
      have hne : other.id ≠ existing.id := by
        intro hkey
        obtain rfl := Table.eq_of_key_eq hother hexisting hkey
        exact hid (index_eq_some.1 hindex).symm
      simp [hne]

/-- What both ways of labelling do: the label is recorded, in a row of the caller's tenant. -/
structure Labelled (store store' : Store) (call : Record) : Prop where
  results : store'.results = store.results
  label : ∀ id, store'.label id =
    if id = call.predictionResultId then some call.actualLabel else store.label id
  outcomes : ∀ a ∈ store'.outcomes, (∃ o ∈ store.outcomes,
    a.predictionResultId = o.predictionResultId ∧ a.tenantId = o.tenantId) ∨
      a.predictionResultId = call.predictionResultId ∧ a.tenantId = call.ctx.tenantId

theorem relabel_ok {existing o : PredictionOutcome}
    (hexisting : store.outcomes.lookup call.predictionResultId = some existing)
    (h : relabel existing call.actualLabel store = .ok (o, store')) : Labelled store store' call := by
  obtain ⟨hmem, hindex⟩ := Indexed.lookup_eq_some.1 hexisting
  have hid : existing.predictionResultId = call.predictionResultId := index_eq_some.1 hindex
  obtain ⟨s, hwrite, hpure⟩ := unit_bind_ok.1 h
  cases pure_ok.1 hpure
  cases write_ok.1 hwrite
  refine ⟨rfl, fun id => ?_, fun a ha => .inl (mem_relabelled ha)⟩
  rw [← hid]
  exact label_relabelled hmem call.actualLabel id

theorem addOutcome_ok {o : PredictionOutcome} (h : addOutcome call store = .ok (o, store')) :
    Labelled store store' call := by
  obtain ⟨s, hwrite, hpure⟩ := unit_bind_ok.1 h
  cases pure_ok.1 hpure
  have hinsert := write_ok.1 hwrite
  split at hinsert
  · rename_i outcomes houtcomes
    cases hinsert
    refine ⟨rfl, fun id => ?_, fun a ha => ?_⟩
    · rw [Store.label, Indexed.lookup_insert? houtcomes id]
      by_cases hid : id = call.predictionResultId
      · rw [if_pos hid, if_pos (index_eq_some.2 hid.symm)]
        rfl
      · rw [if_neg hid, if_neg fun he => hid (index_eq_some.1 he).symm]
        rfl
    · rcases (Indexed.mem_insert? houtcomes).1 ha with ha | rfl
      · exact .inl ⟨a, ha, rfl, rfl⟩
      · exact .inr ⟨rfl, rfl⟩
  · cases hinsert

theorem Labelled.consistent (h : Labelled store store' call) (hconsistent : store.Consistent)
    {result : PredictionResult}
    (hresult : requireResult store call.predictionResultId call.ctx = .ok result) :
    store'.Consistent := by
  obtain ⟨hfind, htenant⟩ := requireResult_ok.1 hresult
  obtain ⟨hmem, hid⟩ := Table.find?_eq_some.1 hfind
  intro a ha
  rw [h.results]
  rcases h.outcomes a ha with ⟨o, ho, hao, htenants⟩ | ⟨hacall, hatenant⟩
  · obtain ⟨r, hr, hro, hrtenant⟩ := hconsistent o ho
    exact ⟨r, hr, hro.trans hao.symm, hrtenant.trans htenants.symm⟩
  · exact ⟨result, hmem, hid.trans hacall.symm, htenant.trans hatenant.symm⟩

/-- A call that returns has labelled a result of the caller's tenant, and returns the metrics of its
model version. -/
theorem recordOutcome_ok (hconsistent : store.Consistent)
    {r : PredictionOutcome × Option RealizedModelMetrics}
    (h : recordOutcome order call store = .ok (r, store')) :
    ∃ result, requireResult store call.predictionResultId call.ctx = .ok result ∧
      Labelled store store' call ∧
      r.2 = computeRealizedModelMetrics order store' result.modelVersionId call.ctx := by
  obtain ⟨result, hresult, h⟩ := read_bind_ok.1 h
  obtain ⟨existing, hexisting, h⟩ := read_bind_ok.1 h
  rw [getByPredictionResultId_eq hconsistent hresult] at hexisting
  obtain ⟨outcome, s, houtcome, h⟩ := bind_ok.1 h
  obtain ⟨s', haudit, h⟩ := unit_bind_ok.1 h
  obtain ⟨realized, hrealized, h⟩ := read_bind_ok.1 h
  cases pure_ok.1 h
  cases write_ok.1 haudit
  have hlabelled : Labelled store s call := by
    cases existing with
    | some existing => exact relabel_ok (Except.ok.inj hexisting) houtcome
    | none => exact addOutcome_ok houtcome
  exact ⟨result, hresult, ⟨hlabelled.results, hlabelled.label, hlabelled.outcomes⟩,
    (Except.ok.inj hrealized).symm⟩

/-- The metrics of a run's end are those of the results with the labels that the store holds. -/
def labelledSamples (results : Table PredictionResult) (labels : Uuid → Option Bool)
    (modelVersionId tenantId : Uuid) : List (ℚ × Bool) :=
  (results.rows.filter fun r => r.tenantId = tenantId ∧ r.modelVersionId = modelVersionId).filterMap
    fun r => (labels r.id).map fun label => (probability r, label)

/-- The pairs of a result of the store are its outcome, if the result is the tenant's and the model's. -/
theorem pairs_of_result (hconsistent : store.Consistent) {r : PredictionResult}
    (hr : r ∈ store.results) (modelVersionId : Uuid) (ctx : TenantContext) :
    (store.outcomes.table.rows.filter fun o => o.predictionResultId = r.id ∧
        r.tenantId = ctx.tenantId ∧ o.tenantId = ctx.tenantId ∧ r.modelVersionId = modelVersionId) =
      if r.tenantId = ctx.tenantId ∧ r.modelVersionId = modelVersionId then
        (store.outcomes.lookup r.id).toList
      else [] := by
  split
  · rename_i hmine
    rw [← Indexed.filter_index]
    refine List.filter_congr fun o ho => ?_
    rw [decide_eq_decide, index_eq_some]
    constructor
    · exact fun hall => hall.1
    · intro hid
      obtain ⟨r', hr', hrid, htenant⟩ := hconsistent o ho
      obtain rfl := Table.eq_of_key_eq hr' hr (hrid.trans hid)
      exact ⟨hid, hmine.1, htenant.symm.trans hmine.1, hmine.2⟩
  · rename_i hother
    rw [List.filter_eq_nil_iff]
    intro o _ hall
    have hall := of_decide_eq_true hall
    exact hother ⟨hall.2.1, hall.2.2.2⟩

theorem samples_perm (hconsistent : store.Consistent) (order : JoinOrder) (modelVersionId : Uuid)
    (ctx : TenantContext) :
    ((listLabeledResultsForModel order store modelVersionId ctx).map sample).Perm
      (labelledSamples store.results store.label modelVersionId ctx.tenantId) := by
  refine ((order.perm _).map sample).trans (List.Perm.of_eq ?_)
  rw [List.map_flatMap, labelledSamples]
  have hrows : ∀ r ∈ store.results.rows, r ∈ store.results := fun _ hr => hr
  generalize store.results.rows = rows at hrows
  induction rows with
  | nil => rfl
  | cons r rows ih =>
    have hrest := ih fun s hs => hrows s (List.mem_cons_of_mem _ hs)
    rw [List.flatMap_cons, hrest, pairs_of_result hconsistent (hrows r List.mem_cons_self),
      List.filter_cons]
    by_cases hmine : r.tenantId = ctx.tenantId ∧ r.modelVersionId = modelVersionId
    · rw [if_pos hmine, if_pos (decide_eq_true hmine), List.filterMap_cons, Store.label]
      cases store.outcomes.lookup r.id <;> rfl
    · rw [if_neg hmine, if_neg (by simpa using hmine)]
      rfl

/-- The metrics of a consistent store. -/
theorem metrics_of_labels (hconsistent : store.Consistent) (order : JoinOrder)
    (modelVersionId : Uuid) (ctx : TenantContext) :
    computeRealizedModelMetrics order store modelVersionId ctx = realized modelVersionId
      (labelledSamples store.results store.label modelVersionId ctx.tenantId) := by
  rw [computeRealizedModelMetrics_eq]
  exact realized_perm (samples_perm hconsistent order modelVersionId ctx) modelVersionId

/-- Only the labels of the tenant's results of the model count. -/
theorem labelledSamples_congr {results : Table PredictionResult} {labels labels' : Uuid → Option Bool}
    {modelVersionId tenantId : Uuid} (h : ∀ r ∈ results, r.tenantId = tenantId →
      r.modelVersionId = modelVersionId → labels r.id = labels' r.id) :
    labelledSamples results labels modelVersionId tenantId =
      labelledSamples results labels' modelVersionId tenantId := by
  refine List.filterMap_congr fun r hr => ?_
  obtain ⟨hmem, hmine⟩ := List.mem_filter.1 hr
  obtain ⟨htenant, hmodel⟩ := of_decide_eq_true hmine
  rw [h r hmem htenant hmodel]

/-! ## Runs -/

def Monitor.accepts (order : JoinOrder) (monitor : Monitor) (call : Record) : Bool :=
  match recordOutcome order call monitor.store with
  | .ok _ => true
  | .error _ => false

/-- The calls of a run that return. -/
def recorded (order : JoinOrder) (monitor : Monitor) : List Record → List Record
  | [] => []
  | call :: calls =>
    if monitor.accepts order call then call :: recorded order (monitor.record order call) calls
    else recorded order (monitor.record order call) calls

/-- The label of the last call on a result. -/
def lastLabel (calls : List Record) (predictionResultId : Uuid) : Option Bool :=
  ((calls.filter (·.predictionResultId = predictionResultId)).getLast?).map (·.actualLabel)

theorem lastLabel_cons (call : Record) (calls : List Record) (id : Uuid) :
    lastLabel (call :: calls) id = (lastLabel calls id).or
      (if id = call.predictionResultId then some call.actualLabel else none) := by
  unfold lastLabel
  by_cases hid : id = call.predictionResultId
  · rw [if_pos hid, List.filter_cons_of_pos (by simpa using hid.symm), List.getLast?_cons]
    cases (calls.filter (·.predictionResultId = id)).getLast? <;> rfl
  · have hne : ¬call.predictionResultId = id := fun he => hid he.symm
    rw [if_neg hid, List.filter_cons_of_neg (by simpa using hne), Option.or_none]

variable {monitor : Monitor}

/-- A call that returns labels a result of its tenant, and publishes what it returns. -/
theorem record_of_accepts (hconsistent : monitor.store.Consistent)
    (h : monitor.accepts order call = true) :
    ∃ result, requireResult monitor.store call.predictionResultId call.ctx = .ok result ∧
      Labelled monitor.store (monitor.record order call).store call ∧
      (monitor.record order call).gauges = match computeRealizedModelMetrics order
          (monitor.record order call).store result.modelVersionId call.ctx with
        | some realized =>
          monitor.gauges.set (call.ctx.tenantId, realized.modelVersionId) realized
        | none => monitor.gauges := by
  unfold Monitor.accepts at h
  cases hcall : recordOutcome order call monitor.store with
  | error e =>
    rw [hcall] at h
    cases h
  | ok r =>
    obtain ⟨⟨outcome, realized⟩, store'⟩ := r
    obtain ⟨result, hresult, hlabelled, hrealized⟩ := recordOutcome_ok hconsistent hcall
    have hstore : (monitor.record order call).store = store' := by
      rw [Monitor.record, hcall]
      cases realized <;> rfl
    refine ⟨result, hresult, by rwa [hstore], ?_⟩
    rw [hstore, ← hrealized, Monitor.record, hcall]
    cases realized <;> rfl

theorem record_of_not_accepts (h : ¬monitor.accepts order call = true) :
    monitor.record order call = monitor := by
  unfold Monitor.accepts at h
  rw [Monitor.record]
  cases hcall : recordOutcome order call monitor.store with
  | error e => rfl
  | ok r =>
    rw [hcall] at h
    exact absurd rfl h

theorem accepts_iff_ok :
    monitor.accepts order call = true ↔ ∃ r, recordOutcome order call monitor.store = .ok r := by
  unfold Monitor.accepts
  cases recordOutcome order call monitor.store <;> simp

theorem labelOutcome_succeeds (h : store.outcomes.lookup call.predictionResultId = none →
      store.outcomes.table.find? call.outcomeId = none) :
    ∃ r, labelOutcome call (store.outcomes.lookup call.predictionResultId) store = .ok r := by
  cases hlookup : store.outcomes.lookup call.predictionResultId with
  | some existing => exact ⟨_, unit_bind_ok.2 ⟨_, write_ok.2 rfl, rfl⟩⟩
  | none =>
    let outcome : PredictionOutcome :=
      { id := call.outcomeId, tenantId := call.ctx.tenantId,
        predictionResultId := call.predictionResultId, actualLabel := call.actualLabel,
        recordedByPrincipalId := call.ctx.principalId }
    have hindex : outcome.index = some call.predictionResultId := rfl
    obtain ⟨outcomes, hinsert⟩ :=
      Indexed.insert?_isSome (Indexed.free_of_lookup hindex hlookup) (h hlookup)
    refine ⟨_, unit_bind_ok.2 ⟨{ store with outcomes }, write_ok.2 ?_, rfl⟩⟩
    simp only [outcome] at hinsert
    rw [hinsert]

/-- A call returns when the result is the caller's, unless a new row draws an id that is taken. -/
theorem accepts_of_own (hconsistent : monitor.store.Consistent) {result : PredictionResult}
    (hresult : requireResult monitor.store call.predictionResultId call.ctx = .ok result)
    (h : monitor.store.outcomes.lookup call.predictionResultId = none →
      monitor.store.outcomes.table.find? call.outcomeId = none) :
    monitor.accepts order call = true := by
  obtain ⟨⟨outcome, s⟩, houtcome⟩ := labelOutcome_succeeds h
  refine accepts_iff_ok.2 (read_bind_succeeds hresult ?_)
  refine read_bind_succeeds (getByPredictionResultId_eq hconsistent hresult) ?_
  exact ⟨_, bind_ok.2 ⟨outcome, s, houtcome, unit_bind_ok.2 ⟨_, write_ok.2 rfl, rfl⟩⟩⟩

/-- What a run leaves of the store: the results, and the last labels it recorded. -/
structure Recorded (order : JoinOrder) (before after : Monitor) (calls : List Record) : Prop where
  consistent : after.store.Consistent
  results : after.store.results = before.store.results
  label : ∀ id, after.store.label id =
    (lastLabel (recorded order before calls) id).or (before.store.label id)

theorem recorded_run (order : JoinOrder) (calls : List Record)
    (hconsistent : monitor.store.Consistent) :
    Recorded order monitor (run (Monitor.record order) monitor calls) calls := by
  induction calls generalizing monitor with
  | nil => exact ⟨hconsistent, rfl, fun id => rfl⟩
  | cons call calls ih =>
    by_cases haccepts : monitor.accepts order call = true
    · obtain ⟨result, hresult, hlabelled, -⟩ := record_of_accepts hconsistent haccepts
      have hrest := ih (hlabelled.consistent hconsistent hresult)
      refine ⟨hrest.consistent, hrest.results.trans hlabelled.results, fun id => ?_⟩
      rw [run_cons, hrest.label, recorded, if_pos haccepts, lastLabel_cons, hlabelled.label,
        Option.or_assoc]
      split <;> rfl
    · have hsame : monitor.record order call = monitor := record_of_not_accepts haccepts
      have hrest := ih hconsistent
      rw [run_cons, hsame]
      refine ⟨hrest.consistent, hrest.results, fun id => ?_⟩
      rw [hrest.label, recorded, if_neg haccepts, hsame]

/-- The monitor before any outcome. -/
def unlabelled (results : Table PredictionResult) : Monitor := { store := { results } }

theorem unlabelled_consistent (results : Table PredictionResult) :
    (unlabelled results).store.Consistent := fun o ho => absurd ho (Table.not_mem_empty o)

theorem label_of_run (order : JoinOrder) (results : Table PredictionResult) (calls : List Record)
    (id : Uuid) : (run (Monitor.record order) (unlabelled results) calls).store.label id =
      lastLabel (recorded order (unlabelled results) calls) id := by
  rw [(recorded_run order calls (unlabelled_consistent results)).label id]
  exact Option.or_none

/-- The metrics after a run are those of the last labels that it recorded. -/
theorem metrics_of_run (order : JoinOrder) (results : Table PredictionResult) (calls : List Record)
    (modelVersionId : Uuid) (ctx : TenantContext) :
    computeRealizedModelMetrics order
        (run (Monitor.record order) (unlabelled results) calls).store modelVersionId ctx =
      realized modelVersionId (labelledSamples results
        (lastLabel (recorded order (unlabelled results) calls)) modelVersionId ctx.tenantId) := by
  have hrun := recorded_run order calls (unlabelled_consistent results)
  rw [metrics_of_labels hrun.consistent, hrun.results]
  congr 1
  exact labelledSamples_congr fun r _ _ _ => label_of_run order results calls r.id

/-! ## Gauges -/

/-- A labelled result gives its model metrics. -/
theorem metrics_ne_none {result : PredictionResult}
    (hresult : requireResult store call.predictionResultId call.ctx = .ok result)
    (hlabelled : Labelled store store' call) (hconsistent' : store'.Consistent) :
    computeRealizedModelMetrics order store' result.modelVersionId call.ctx ≠ none := by
  obtain ⟨hfind, htenant⟩ := requireResult_ok.1 hresult
  obtain ⟨hmem, hkey⟩ := Table.find?_eq_some.1 hfind
  have hid : result.id = call.predictionResultId := hkey
  rw [metrics_of_labels hconsistent', hlabelled.results, realized]
  have hlabel : store'.label result.id = some call.actualLabel := by
    rw [hlabelled.label, if_pos hid]
  have hsample : (probability result, call.actualLabel) ∈ labelledSamples store.results store'.label
      result.modelVersionId call.ctx.tenantId := by
    refine List.mem_filterMap.2 ⟨result, List.mem_filter.2 ⟨hmem, ?_⟩, ?_⟩
    · exact decide_eq_true ⟨htenant, rfl⟩
    · rw [hlabel]
      rfl
  rw [if_neg (List.ne_nil_of_mem hsample)]
  exact Option.some_ne_none _

/-- The gauges of every tenant and model hold the metrics of the store. -/
structure Published (order : JoinOrder) (monitor : Monitor) : Prop where
  consistent : monitor.store.Consistent
  gauge : ∀ modelVersionId ctx, monitor.gauges.get? (ctx.tenantId, modelVersionId) =
    computeRealizedModelMetrics order monitor.store modelVersionId ctx

theorem Published.record (h : Published order monitor) (call : Record) :
    Published order (monitor.record order call) := by
  by_cases haccepts : monitor.accepts order call = true
  · obtain ⟨result, hresult, hlabelled, hgauges⟩ := record_of_accepts h.consistent haccepts
    have hconsistent := hlabelled.consistent h.consistent hresult
    refine ⟨hconsistent, fun modelVersionId ctx => ?_⟩
    obtain ⟨metrics, hmetrics⟩ := Option.ne_none_iff_exists'.1
      (metrics_ne_none hresult hlabelled hconsistent)
    rw [hmetrics] at hgauges
    rw [metrics_of_labels hconsistent] at hmetrics ⊢
    rw [hgauges, Dict.get?_set, realized_modelVersionId hmetrics]
    by_cases hkey : (ctx.tenantId, modelVersionId) = (call.ctx.tenantId, result.modelVersionId)
    · obtain ⟨htenant, rfl⟩ := Prod.mk.inj hkey
      rw [if_pos hkey, htenant, hmetrics]
    · -- the labelled result is another tenant's or another model's
      rw [if_neg hkey, h.gauge, metrics_of_labels h.consistent, hlabelled.results]
      congr 1
      refine labelledSamples_congr fun r hr htenant hmodel => ?_
      rw [hlabelled.label, if_neg]
      intro hid
      obtain ⟨hfind, hcaller⟩ := requireResult_ok.1 hresult
      have hfound := Table.find?_key hr
      rw [show HasKey.key r = call.predictionResultId from hid, hfind] at hfound
      obtain rfl := Option.some.inj hfound
      exact hkey (Prod.ext (htenant.symm.trans hcaller) hmodel.symm)
  · rw [record_of_not_accepts haccepts]
    exact h

/-- No gauge goes stale between calls. -/
theorem published_run (order : JoinOrder) (results : Table PredictionResult) (calls : List Record) :
    Published order (run (Monitor.record order) (unlabelled results) calls) := by
  refine run_invariant (fun _ call h => h.record call) ⟨unlabelled_consistent results, ?_⟩ calls
  intro modelVersionId ctx
  have hnone := metrics_of_run order results [] modelVersionId ctx
  rw [run_nil] at hnone
  rw [hnone, realized, if_pos]
  · rfl
  · exact List.filterMap_eq_nil_iff.2 fun _ _ => rfl

/-- After any calls of any tenants, the metrics of a tenant and a model are those of its results of the
model, each once, with the last label recorded for it. Runs with the same last labels of these
results have the same metrics, and the metrics lie in the unit interval when the probabilities do. -/
theorem realized_of_last_labels (order : JoinOrder) (results : Table PredictionResult)
    (calls : List Record) (modelVersionId : Uuid) (ctx : TenantContext) :
    computeRealizedModelMetrics order
        (run (Monitor.record order) (unlabelled results) calls).store modelVersionId ctx =
      realized modelVersionId (labelledSamples results
        (lastLabel (recorded order (unlabelled results) calls)) modelVersionId ctx.tenantId) ∧
    (∀ calls', (∀ r ∈ results, r.tenantId = ctx.tenantId → r.modelVersionId = modelVersionId →
        lastLabel (recorded order (unlabelled results) calls) r.id =
          lastLabel (recorded order (unlabelled results) calls') r.id) →
      computeRealizedModelMetrics order
          (run (Monitor.record order) (unlabelled results) calls).store modelVersionId ctx =
        computeRealizedModelMetrics order
          (run (Monitor.record order) (unlabelled results) calls').store modelVersionId ctx) ∧
    ∀ metrics, computeRealizedModelMetrics order
        (run (Monitor.record order) (unlabelled results) calls).store modelVersionId ctx =
          some metrics →
      (∀ r ∈ results, r.tenantId = ctx.tenantId → r.modelVersionId = modelVersionId →
        0 ≤ probability r ∧ probability r ≤ 1) →
      (0 ≤ metrics.precision ∧ metrics.precision ≤ 1) ∧
        (0 ≤ metrics.recallRate ∧ metrics.recallRate ≤ 1) ∧
        0 ≤ metrics.calibrationDrift ∧ metrics.calibrationDrift ≤ 1 := by
  refine ⟨metrics_of_run order results calls modelVersionId ctx, ?_, ?_⟩
  · intro calls' hlabels
    rw [metrics_of_run, metrics_of_run, labelledSamples_congr hlabels]
  · intro metrics hmetrics hprobabilities
    rw [metrics_of_run] at hmetrics
    refine realized_mem_unit hmetrics fun s hs => ?_
    obtain ⟨r, hr, hsample⟩ := List.mem_filterMap.1 hs
    obtain ⟨label, -, rfl⟩ := Option.map_eq_some_iff.1 hsample
    obtain ⟨hmem, hmine⟩ := List.mem_filter.1 hr
    obtain ⟨htenant, hmodel⟩ := of_decide_eq_true hmine
    exact hprobabilities r hmem htenant hmodel

/-- A prediction of a tenant, labelled twice, and labelled once. -/
def delayed : PredictionResult where
  id := 1
  tenantId := 7
  predictionRequestId := 2
  modelVersionId := 3
  mappingVersionId := some 4
  featureVersion := "1.0.0"
  output := { delayProbability := 3 / 4, riskLevel := "high" }
  explanations := []

def predictions : Table PredictionResult := ⟨[delayed], List.nodup_singleton _⟩

def labeller : TenantContext := { tenantId := 7, principalId := 5 }

def twice : List Record := [⟨labeller, 1, true, 10⟩, ⟨labeller, 1, false, 11⟩]

def once : List Record := [⟨labeller, 1, false, 12⟩]

theorem realized_of_last_labels_twice :
    computeRealizedModelMetrics ⟨id, List.Perm.refl⟩
        (run (Monitor.record ⟨id, List.Perm.refl⟩) (unlabelled predictions) twice).store 3 labeller =
      computeRealizedModelMetrics ⟨id, List.Perm.refl⟩
        (run (Monitor.record ⟨id, List.Perm.refl⟩) (unlabelled predictions) once).store 3 labeller ∧
    ∃ metrics, computeRealizedModelMetrics ⟨id, List.Perm.refl⟩
        (run (Monitor.record ⟨id, List.Perm.refl⟩) (unlabelled predictions) twice).store 3 labeller =
      some metrics ∧ 0 ≤ metrics.precision ∧ metrics.precision ≤ 1 := by
  have hmetrics := realized_of_last_labels ⟨id, List.Perm.refl⟩ predictions twice 3 labeller
  refine ⟨hmetrics.2.1 once ?_, ?_⟩
  · intro r hr _ _
    obtain rfl := List.mem_singleton.1 hr
    decide +kernel
  · have hsome : (realized 3 (labelledSamples predictions (lastLabel (recorded
        ⟨id, List.Perm.refl⟩ (unlabelled predictions) twice)) 3 labeller.tenantId)).isSome := by
      decide +kernel
    obtain ⟨metrics, hrealized⟩ := Option.isSome_iff_exists.1 hsome
    have hvalue := hmetrics.1.trans hrealized
    refine ⟨metrics, hvalue, (hmetrics.2.2 metrics hvalue ?_).1⟩
    intro r hr _ _
    obtain rfl := List.mem_singleton.1 hr
    decide +kernel

end Monitoring

end HermesRpt
