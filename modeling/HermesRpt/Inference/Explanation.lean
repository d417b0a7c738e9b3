import HermesRpt.Inference.Service
import HermesRpt.Lib.Ranking
import HermesRpt.System
import Mathlib.Algebra.BigOperators.Group.List.Basic
import Mathlib.Tactic.FieldSimp
import Mathlib.Tactic.Linarith
import Mathlib.Tactic.Positivity
import Mathlib.Tactic.Ring

/-!
# HermesRpt.Inference.Explanation

The explanations of a logistic-regression baseline. Its coefficients belong to scaled features, and
`generate_explanations` multiplies them with raw values.

* `LogisticPipeline`  : a fitted imputer, scaler and classifier, and its score.
* `generateExplanations_eq` : the factors are the first features by coefficient times raw value.
* `Faithful`          : the explanations say what the features contribute to the score.
* `explanations_faithful_iff` : when they do.
-/

namespace HermesRpt

namespace Inference

namespace Explanation

open Service Features Ranking

/-! ## The pipeline -/

/-- What the steps of the pipeline have fitted for a feature. -/
structure FittedColumn where
  name : String
  /-- `SimpleImputer.statistics_` -/
  median : ℚ
  /-- `StandardScaler.mean_` -/
  mean : ℚ
  /-- `StandardScaler.scale_` -/
  scale : ℚ
  scale_pos : 0 < scale
  /-- `LogisticRegression.coef_[0]` -/
  coefficient : ℚ
  deriving DecidableEq

structure LogisticPipeline where
  columns : List FittedColumn
  names_nodup : (columns.map (·.name)).Nodup
  intercept : ℚ

def FittedColumn.impute (c : FittedColumn) (value : Option ℚ) : ℚ := value.getD c.median

def FittedColumn.scaled (c : FittedColumn) (x : ℚ) : ℚ := (x - c.mean) / c.scale

/-- What a value contributes to the score: the coefficient times the scaled value. -/
def FittedColumn.contributes (c : FittedColumn) (x : ℚ) : ℚ := c.coefficient * c.scaled x

/-- What the explanations take for it. -/
def FittedColumn.rawProduct (c : FittedColumn) (x : ℚ) : ℚ := c.coefficient * x

namespace LogisticPipeline

/-- `decision_function`; the probability is its logistic function. -/
def decision (pipeline : LogisticPipeline) (row : String → Option ℚ) : ℚ :=
  pipeline.intercept + (pipeline.columns.map fun c => c.contributes (c.impute (row c.name))).sum

/-- `feature_importance` -/
def importance (pipeline : LogisticPipeline) : List (String × ℚ) :=
  pipeline.columns.map fun c => (c.name, c.coefficient)

end LogisticPipeline

variable {std : Stdlib} {pipeline : LogisticPipeline} {features : FeatureRow}

/-- The dict of the served model. -/
theorem featureImportance_eq (h : pipeline.columns.map (·.name) = featureNames) :
    featureImportance (some (pipeline.columns.map (·.coefficient))) =
      .ok (some pipeline.importance) := by
  have hlen : (pipeline.columns.map (·.coefficient)).length = featureNames.length := by simp [← h]
  rw [featureImportance, if_pos hlen, ← h, List.zip_map']
  rfl

/-- A feature's contribution is the difference that its value makes against its training mean. -/
theorem decision_sub_mean {c : FittedColumn} (hc : c ∈ pipeline.columns) (row : String → Option ℚ) :
    pipeline.decision row - pipeline.decision (Function.update row c.name (some c.mean)) =
      c.contributes (c.impute (row c.name)) := by
  have hzero : c.contributes c.mean = 0 := by simp [FittedColumn.contributes, FittedColumn.scaled]
  obtain ⟨before, after, hsplit⟩ := List.append_of_mem hc
  have hnodup := pipeline.names_nodup
  rw [hsplit, List.map_append, List.map_cons, List.nodup_middle, List.nodup_cons] at hnodup
  -- no other column has the name, so the others contribute the same
  have hother : ∀ d ∈ before ++ after, d.contributes
      (d.impute (Function.update row c.name (some c.mean) d.name)) =
        d.contributes (d.impute (row d.name)) := by
    intro d hd
    have hne : d.name ≠ c.name := by
      intro he
      exact hnodup.1 (by rw [← List.map_append, ← he]; exact List.mem_map_of_mem hd)
    rw [Function.update_of_ne hne]
  have hbefore := List.map_congr_left fun d hd => hother d (List.mem_append_left after hd)
  have hafter := List.map_congr_left fun d hd => hother d (List.mem_append_right before hd)
  simp only [LogisticPipeline.decision, hsplit, List.map_append, List.map_cons, List.sum_append,
    List.sum_cons, hbefore, hafter, Function.update_self]
  rw [show c.impute (some c.mean) = c.mean from rfl, hzero]
  ring

/-! ## What is reported -/

/-- The number that a feature of the row has. -/
def rawValue (features : FeatureRow) (name : String) : Option ℚ :=
  ((features.get? name).getD none).bind Value.number?

/-- The features that the row has a value for. A missing one is no factor. -/
def present (pipeline : LogisticPipeline) (features : FeatureRow) : List (FittedColumn × ℚ) :=
  pipeline.columns.filterMap fun c => (rawValue features c.name).map fun x => (c, x)

def product (f : FittedColumn × ℚ) : ℚ := f.1.rawProduct f.2

def effect (f : FittedColumn × ℚ) : ℚ := f.1.contributes f.2

def explain (f : FittedColumn × ℚ) : PredictionExplanation :=
  ⟨f.1.name, if product f > 0 then "increases_risk" else "decreases_risk"⟩

/-- The first three by the size of the product, without those of product zero. -/
def factors (pipeline : LogisticPipeline) (features : FeatureRow) : List (FittedColumn × ℚ) :=
  ((descending (fun f => |product f|) (present pipeline features)).take 3).filter (product · ≠ 0)

/-- The values of the row are numbers. -/
def Numeric (features : FeatureRow) : Prop :=
  ∀ name value, features.get? name = some (some value) → value.number?.isSome

theorem contribution_eq (hexact : ∀ x y, std.mulFloat x y = x * y) (hnumeric : Numeric features)
    (c : FittedColumn) : contribution std features (c.name, c.coefficient) =
      .ok ((rawValue features c.name).map fun x => (c.name, c.rawProduct x)) := by
  unfold contribution rawValue
  cases hget : features.get? c.name with
  | none => rfl
  | some cell =>
    cases cell with
    | none => rfl
    | some value =>
      obtain ⟨x, hx⟩ := Option.isSome_iff_exists.1 (hnumeric c.name value hget)
      have hfloat : value.toFloat std = .ok x := by simp [Value.toFloat, hx]
      simp [hx, hfloat, hexact, FittedColumn.rawProduct, bind, Except.bind, pure, Except.pure]

theorem contributions_eq (hexact : ∀ x y, std.mulFloat x y = x * y) (hnumeric : Numeric features)
    (pipeline : LogisticPipeline) :
    pipeline.importance.filterMapM (contribution std features) =
      .ok ((present pipeline features).map fun f => (f.1.name, product f)) := by
  unfold LogisticPipeline.importance present
  induction pipeline.columns with
  | nil => rfl
  | cons c columns ih =>
    rw [List.map_cons, List.filterMapM_cons, contribution_eq hexact hnumeric, ih, List.filterMap_cons]
    cases rawValue features c.name <;> rfl

theorem generateExplanations_eq (hexact : ∀ x y, std.mulFloat x y = x * y)
    (hnumeric : Numeric features) (pipeline : LogisticPipeline) :
    generateExplanations std (some pipeline.importance) features =
      .ok ((factors pipeline features).map explain) := by
  have hsort : ((present pipeline features).map fun f => (f.1.name, product f)).insertionSort
      (fun a b => |b.2| ≤ |a.2|) = (descending (fun f => |product f|) (present pipeline features)).map
        fun f => (f.1.name, product f) :=
    (List.map_insertionSort (fun f g : FittedColumn × ℚ => |product g| ≤ |product f|)
      (fun a b : String × ℚ => |b.2| ≤ |a.2|) (fun f => (f.1.name, product f)) _
      fun _ _ _ _ => Iff.rfl).symm
  rw [generateExplanations, Option.getD_some, contributions_eq hexact hnumeric]
  simp only [bind, Except.bind, pure, Except.pure, hsort, factors, ← List.map_take, List.filter_map,
    List.map_map]
  rfl

/-! ## The factors -/

/-- It is among the first three by the size of the product, which is not zero. -/
def Leads (pipeline : LogisticPipeline) (features : FeatureRow) (f : FittedColumn × ℚ) : Prop :=
  rank (fun f => |product f|) (present pipeline features) f < 3 ∧ product f ≠ 0

instance (pipeline : LogisticPipeline) (features : FeatureRow) (f : FittedColumn × ℚ) :
    Decidable (Leads pipeline features f) := inferInstanceAs (Decidable (_ ∧ _))

variable {f g : FittedColumn × ℚ}

theorem mem_present : f ∈ present pipeline features ↔
    f.1 ∈ pipeline.columns ∧ rawValue features f.1.name = some f.2 := by
  simp only [present, List.mem_filterMap, Option.map_eq_some_iff]
  constructor
  · rintro ⟨c, hc, x, hx, rfl⟩
    exact ⟨hc, hx⟩
  · rintro ⟨hc, hx⟩
    exact ⟨f.1, hc, f.2, hx, rfl⟩

/-- A name belongs to one feature. -/
theorem eq_of_name (hf : f ∈ present pipeline features) (hg : g ∈ present pipeline features)
    (h : f.1.name = g.1.name) : f = g := by
  rw [mem_present] at hf hg
  have hcolumn : f.1 = g.1 := List.inj_on_of_nodup_map pipeline.names_nodup hf.1 hg.1 h
  have hvalue : some f.2 = some g.2 := by rw [← hf.2, ← hg.2, h]
  exact Prod.ext hcolumn (Option.some.inj hvalue)

theorem present_nodup (pipeline : LogisticPipeline) (features : FeatureRow) :
    (present pipeline features).Nodup := by
  refine List.Nodup.filterMap ?_ (List.Nodup.of_map _ pipeline.names_nodup)
  intro c d f hc hd
  obtain ⟨x, -, rfl⟩ := Option.map_eq_some_iff.1 hc
  obtain ⟨y, -, hy⟩ := Option.map_eq_some_iff.1 hd
  exact (congrArg Prod.fst hy).symm

theorem mem_factors : f ∈ factors pipeline features ↔
    f ∈ present pipeline features ∧ Leads pipeline features f := by
  rw [factors, List.mem_filter, mem_take_descending (present_nodup pipeline features), and_assoc]
  simp [Leads]

theorem factors_perm (pipeline : LogisticPipeline) (features : FeatureRow) :
    (factors pipeline features).Perm
      ((present pipeline features).filter fun f => Leads pipeline features f) := by
  have hnodup := present_nodup pipeline features
  have hsorted : (descending (fun f => |product f|) (present pipeline features)).Nodup :=
    (descending_perm _ _).nodup_iff.2 hnodup
  have hfactors : (factors pipeline features).Nodup :=
    (hsorted.sublist (List.take_sublist 3 _)).filter _
  refine (List.perm_ext_iff_of_nodup hfactors (hnodup.filter _)).2 fun f => ?_
  rw [List.mem_filter, decide_eq_true_eq]
  exact mem_factors

/-- The reported names are those of the factors. -/
theorem name_mem_reported (hf : f ∈ present pipeline features) :
    f.1.name ∈ ((factors pipeline features).map explain).map (·.factor) ↔
      Leads pipeline features f := by
  simp only [List.map_map, List.mem_map, Function.comp_apply]
  constructor
  · rintro ⟨g, hg, hname⟩
    obtain ⟨hpresent, hleads⟩ := mem_factors.1 hg
    obtain rfl := eq_of_name hpresent hf hname
    exact hleads
  · intro hleads
    exact ⟨f, mem_factors.2 ⟨hf, hleads⟩, rfl⟩

/-! ## What the explanations should say -/

/-- Every factor is reported with the direction of its contribution to the score, and the factors are
the features of the largest contributions: up to three, and none that contributes is left out when
there are fewer. -/
structure Faithful (pipeline : LogisticPipeline) (features : FeatureRow)
    (reported : List PredictionExplanation) : Prop where
  directions : ∀ e ∈ reported, ∃ f ∈ present pipeline features, f.1.name = e.factor ∧
    (e.direction = "increases_risk" ∧ 0 < effect f ∨ e.direction = "decreases_risk" ∧ effect f < 0)
  largest : ∀ f ∈ present pipeline features, f.1.name ∈ reported.map (·.factor) →
    ∀ g ∈ present pipeline features, g.1.name ∉ reported.map (·.factor) → |effect g| ≤ |effect f|
  complete : reported.length < 3 →
    ∀ g ∈ present pipeline features, g.1.name ∉ reported.map (·.factor) → effect g = 0

/-- A leading feature's value lies on the same side of zero and of its training mean; no other
feature lies further from its mean, in units of its scale and times its coefficient; and when fewer
than three lead, the others are at their mean or have no coefficient. -/
structure Aligned (pipeline : LogisticPipeline) (features : FeatureRow) : Prop where
  same_side : ∀ f ∈ present pipeline features, Leads pipeline features f →
    0 < f.2 * (f.2 - f.1.mean)
  outweighs : ∀ f ∈ present pipeline features, Leads pipeline features f →
    ∀ g ∈ present pipeline features, ¬Leads pipeline features g →
      |g.1.coefficient * (g.2 - g.1.mean) / g.1.scale| ≤
        |f.1.coefficient * (f.2 - f.1.mean) / f.1.scale|
  at_mean : ((present pipeline features).filter fun f => Leads pipeline features f).length < 3 →
    ∀ g ∈ present pipeline features, ¬Leads pipeline features g →
      g.1.coefficient = 0 ∨ g.2 = g.1.mean

theorem effect_eq (f : FittedColumn × ℚ) :
    effect f = f.1.coefficient * (f.2 - f.1.mean) / f.1.scale := (mul_div_assoc _ _ _).symm

theorem effect_eq_zero : effect f = 0 ↔ f.1.coefficient = 0 ∨ f.2 = f.1.mean := by
  rw [effect_eq, div_eq_zero_iff, or_iff_left f.1.scale_pos.ne', mul_eq_zero, sub_eq_zero]

/-- The product and the effect have the same sign when the value lies on the same side of zero and of
the mean. -/
theorem same_sign (hne : product f ≠ 0) :
    0 < product f * effect f ↔ 0 < f.2 * (f.2 - f.1.mean) := by
  have hcoefficient : f.1.coefficient ≠ 0 := left_ne_zero_of_mul hne
  have hfactor : 0 < f.1.coefficient * f.1.coefficient / f.1.scale :=
    div_pos (mul_self_pos.2 hcoefficient) f.1.scale_pos
  have heq : product f * effect f =
      f.1.coefficient * f.1.coefficient / f.1.scale * (f.2 * (f.2 - f.1.mean)) := by
    rw [effect_eq, product, FittedColumn.rawProduct]
    ring
  rw [heq]
  exact mul_pos_iff_of_pos_left hfactor

/-- A reported direction is right when the product has the sign of the effect. -/
theorem direction_iff (hne : product f ≠ 0) :
    ((explain f).direction = "increases_risk" ∧ 0 < effect f ∨
      (explain f).direction = "decreases_risk" ∧ effect f < 0) ↔ 0 < product f * effect f := by
  rcases lt_or_gt_of_ne hne with hneg | hpos
  · have hdirection : (explain f).direction = "decreases_risk" := if_neg (not_lt.2 hneg.le)
    rw [hdirection, mul_pos_iff]
    simp [hneg, not_lt.2 hneg.le]
  · have hdirection : (explain f).direction = "increases_risk" := if_pos hpos
    rw [hdirection, mul_pos_iff_of_pos_left hpos]
    simp

/-! ## When they do -/

theorem aligned_of_faithful
    (h : Faithful pipeline features ((factors pipeline features).map explain)) :
    Aligned pipeline features := by
  constructor
  · intro f hf hleads
    have hmem := List.mem_map_of_mem (f := explain) (mem_factors.2 ⟨hf, hleads⟩)
    obtain ⟨g, hg, hname, hdirection⟩ := h.directions _ hmem
    obtain rfl := eq_of_name hg hf hname
    exact (same_sign hleads.2).1 ((direction_iff hleads.2).1 hdirection)
  · intro f hf hleads g hg hnot
    rw [← effect_eq, ← effect_eq]
    exact h.largest f hf ((name_mem_reported hf).2 hleads) g hg
      fun hname => hnot ((name_mem_reported hg).1 hname)
  · intro hfew g hg hnot
    rw [← effect_eq_zero]
    refine h.complete ?_ g hg fun hname => hnot ((name_mem_reported hg).1 hname)
    rw [List.length_map, (factors_perm pipeline features).length_eq]
    exact hfew

theorem faithful_of_aligned (h : Aligned pipeline features) :
    Faithful pipeline features ((factors pipeline features).map explain) := by
  constructor
  · intro e he
    obtain ⟨f, hf, rfl⟩ := List.mem_map.1 he
    obtain ⟨hpresent, hleads⟩ := mem_factors.1 hf
    have hsign := (same_sign hleads.2).2 (h.same_side f hpresent hleads)
    exact ⟨f, hpresent, rfl, (direction_iff hleads.2).2 hsign⟩
  · intro f hf hname g hg hnot
    rw [effect_eq, effect_eq]
    exact h.outweighs f hf ((name_mem_reported hf).1 hname) g hg
      fun hleads => hnot ((name_mem_reported hg).2 hleads)
  · intro hfew g hg hnot
    rw [List.length_map, (factors_perm pipeline features).length_eq] at hfew
    rw [effect_eq_zero]
    exact h.at_mean hfew g hg fun hleads => hnot ((name_mem_reported hg).2 hleads)

/-- The explanations of a row are faithful exactly when it is aligned. -/
theorem explanations_faithful_iff (std : Stdlib) (hexact : ∀ x y, std.mulFloat x y = x * y)
    (pipeline : LogisticPipeline) (features : FeatureRow) (hnumeric : Numeric features) :
    ∃ reported, generateExplanations std (some pipeline.importance) features = .ok reported ∧
      (Faithful pipeline features reported ↔ Aligned pipeline features) :=
  ⟨_, generateExplanations_eq hexact hnumeric pipeline, aligned_of_faithful, faithful_of_aligned⟩

/-- Later departures are riskier, and the mean departure is at noon. -/
def departureHour : FittedColumn where
  name := "planned_departure_hour"
  median := 12
  mean := 12
  scale := 4
  scale_pos := by norm_num
  coefficient := 1

def departures : LogisticPipeline := ⟨[departureHour], List.nodup_singleton _, 0⟩

/-- A departure at six. -/
def early : FeatureRow := Keyed.Dict.ofList [("planned_departure_hour", some (.int 6))]

theorem early_numeric : Numeric early := by
  intro name value hget
  rw [early, Keyed.Dict.get?_ofList_singleton] at hget
  split at hget
  · cases hget
    rfl
  · cases hget

theorem explanations_faithful_iff_early : ∃ reported,
    generateExplanations Sample.std (some departures.importance) early = .ok reported ∧
      (Faithful departures early reported ↔ Aligned departures early) :=
  explanations_faithful_iff Sample.std (fun _ _ => rfl) departures early early_numeric

/-- It is reported to increase the risk, and it lowers the score. -/
theorem early_not_faithful :
    generateExplanations Sample.std (some departures.importance) early =
      .ok [⟨"planned_departure_hour", "increases_risk"⟩] ∧
    ¬Faithful departures early [⟨"planned_departure_hour", "increases_risk"⟩] := by
  have hexplained : generateExplanations Sample.std (some departures.importance) early = _ :=
    generateExplanations_eq (fun _ _ => rfl) early_numeric departures
  have hfactors : (factors departures early).map explain =
      [⟨"planned_departure_hour", "increases_risk"⟩] := by decide +kernel
  have hleads : Leads departures early (departureHour, 6) := by decide +kernel
  have hpresent : (departureHour, 6) ∈ present departures early := by decide +kernel
  rw [hfactors] at hexplained
  refine ⟨hexplained, ?_⟩
  intro hfaithful
  rw [← hfactors] at hfaithful
  have hside := (aligned_of_faithful hfaithful).same_side _ hpresent hleads
  exact absurd hside (by decide +kernel)

end Explanation

end Inference

end HermesRpt
