import HermesRpt.Extraction.Cutoff
import HermesRpt.Extraction.Queries
import HermesRpt.Extraction.Sample
import HermesRpt.Mappings.Validation
import Mathlib.Tactic.Positivity

/-!
# HermesRpt.Extraction.Recipes

What the recipes of related features compute, over lists.

* `recipeRows`      : the rows with the join value and a time in the feature's window.
* `RecipeMeets`     : the value of a recipe over these rows.
* `recipe_meets`    : a feature whose fields are columns gets that value.
-/

namespace HermesRpt

namespace Extraction

open Effect Connectors Mappings Features
open Keyed (Dict)
open FeatureKind ( RELATED_RATIO)

/-- The value of a field in a row. -/
def fieldValue (document : MappingDocument) (field : Option String) (row : Sql.Row Value) :
    ScalarValue :=
  (field.bind (columnOf document)).bind row

/-- The instant that a timestamp denotes. -/
def instantOf (std : Stdlib) (value : ScalarValue) : Option DateTime :=
  match coerceDatetime std value with
  | .ok time => time
  | .error _ => none

/-- The value is known to equal the parameter. -/
def knownEq (compare : Sql.Comparison Value) (parameter : Value) (value : ScalarValue) : Bool :=
  value.any fun v => compare.eq v parameter

/-- `[prediction_time - window, prediction_time)`, without a lower bound when there is no window. -/
def inWindow (feature : FeatureSpec) (predictionTime : DateTime) (time : DateTime) : Bool :=
  time < predictionTime &&
    feature.historicalWindowDays.all fun days => predictionTime.minusDays days ≤ time

/-- The rows that a recipe is about. -/
def recipeRows (std : Stdlib) (compare : Sql.Comparison Value) (document : MappingDocument)
    (feature : FeatureSpec) (joinValue : Value) (predictionTime : DateTime)
    (rows : List (Sql.Row Value)) : List (Sql.Row Value) :=
  rows.filter fun row =>
    knownEq compare joinValue (fieldValue document feature.relatedFkFieldOnTarget row) &&
      (instantOf std (fieldValue document feature.relatedTimestampField row)).any
        (inWindow feature predictionTime)

/-- The rows that match the filter, all of them when there is none. -/
def filteredRows (compare : Sql.Comparison Value) (document : MappingDocument)
    (filterField filterEquals : Option String) (rows : List (Sql.Row Value)) :
    List (Sql.Row Value) :=
  match filterField, filterEquals with
  | some field, some value =>
    rows.filter fun row => knownEq compare (.str value) (fieldValue document (some field) row)
  | _, _ => rows

/-- The value of a recipe over its rows. -/
def RecipeMeets (std : Stdlib) (compare : Sql.Comparison Value) (document : MappingDocument)
    (feature : FeatureSpec) (predictionTime : DateTime) (rows : List (Sql.Row Value))
    (raw : Option Value) : Prop :=
  let time := fun row => instantOf std (fieldValue document feature.relatedTimestampField row)
  match feature.kind with
  | .RELATED_COUNT =>
    raw = some (.int (filteredRows compare document (given feature.relatedFilterField)
      feature.relatedFilterEquals rows).length)
  | RELATED_RATIO =>
    if rows = [] then raw = none
    else ∃ ratio : ℚ, raw = some (.float ratio) ∧ 0 ≤ ratio ∧ ratio ≤ 1 ∧
      ratio = (filteredRows compare document feature.relatedFilterField feature.relatedFilterEquals
        rows).length / rows.length
  | .RELATED_RECENCY_DAYS =>
    if rows = [] then raw = none
    else ∃ latest days, (∃ row ∈ rows, time row = some latest) ∧
      (∀ row ∈ rows, ∀ t ∈ time row, t ≤ latest) ∧
      raw = some (.float days) ∧ 0 < days ∧ days = predictionTime.secondsSince latest / 86400
  | .RELATED_LATEST_VALUE =>
    if rows = [] then raw = none
    else ∃ row ∈ rows, ∃ latest ∈ time row, (∀ other ∈ rows, ∀ t ∈ time other, t ≤ latest) ∧
      raw = fieldValue document feature.relatedValueField row
  | .DIRECT_FIELD | .DERIVED_FROM_TARGET => False

/-- The fields that a recipe needs. -/
def neededByRecipe (feature : FeatureSpec) : List String :=
  feature.relatedFkFieldOnTarget.toList ++ (given feature.relatedTimestampField).toList ++
    match feature.kind with
    | .RELATED_COUNT =>
      if feature.relatedFilterEquals.isSome then (given feature.relatedFilterField).toList else []
    | RELATED_RATIO => feature.relatedFilterField.toList
    | .RELATED_LATEST_VALUE => feature.relatedValueField.toList
    | _ => []

/-- The column holds timestamps, and the server compares timestamps by the instants they denote. -/
structure Chronological (std : Stdlib) (compare : Sql.Comparison Value) (column : String)
    (rows : List (Sql.Row Value)) : Prop where
  denotes : ∀ row ∈ rows, ∀ v, row column = some v → ∃ time, instantOf std (some v) = some time
  lt : ∀ v w, (∃ row ∈ rows, row column = some v) →
    (∃ row ∈ rows, row column = some w) ∨ (∃ time, w = .datetime time) →
    ∀ t u, instantOf std (some v) = some t → instantOf std (some w) = some u →
      (compare.lt v w = true ↔ t < u)

/-- The document's table is there and answers. -/
structure Answers (database : CustomerDatabase) (document : MappingDocument)
    (relation : Relation) : Prop where
  there : database.relation document.source.schemaName document.source.table = some relation
  refuses : ∀ select, relation.refuses select = none

section

variable {std : Stdlib} {document : MappingDocument} {connection : CustomerDatabaseConnection}
  {feature : FeatureSpec} {joinValue : Value} {predictionTime : DateTime}
  {compare : Sql.Comparison Value} {rows : List (Sql.Row Value)} {joinColumn timeColumn : String}

@[simp] theorem instantOf_datetime (time : DateTime) :
    instantOf std (some (.datetime time)) = some time := rfl

@[simp] theorem instantOf_null : instantOf std none = none := rfl

theorem instantOf_iff {value : ScalarValue} {time : DateTime} :
    instantOf std value = some time ↔ coerceDatetime std value = .ok (some time) := by
  unfold instantOf
  cases coerceDatetime std value <;> simp

/-- A number in the order of the instants. -/
def rankOf (std : Stdlib) (value : ScalarValue) : Int :=
  ((instantOf std value).map (·.micros)).getD 0

theorem rankOf_eq {value : ScalarValue} {time : DateTime} (h : instantOf std value = some time) :
    rankOf std value = time.micros := by simp [rankOf, h]

theorem secondsSince_pos {t u : DateTime} (h : u < t) : 0 < t.secondsSince u := by
  have hmicros : (0 : ℚ) < ((t.micros - u.micros : Int) : ℚ) := by
    have : u.micros < t.micros := h
    exact_mod_cast (by omega : 0 < t.micros - u.micros)
  unfold DateTime.secondsSince
  positivity

theorem fieldValue_of {field : Option String} {column : String}
    (h : field.bind (columnOf document) = some column) (row : Sql.Row Value) :
    fieldValue document field row = row column := by
  simp only [fieldValue, h, Option.bind_some]

theorem holds_eq (column : String) (parameter : Value) (row : Sql.Row Value) :
    (⟨column, .eq, parameter⟩ : Sql.Condition Value).holds compare row =
      knownEq compare parameter (row column) := by
  unfold Sql.Condition.holds knownEq
  cases row column <;> rfl

/-- The conditions on the time of a row. -/
def timesOf (feature : FeatureSpec) (timeColumn : String) (predictionTime : DateTime) :
    List (Sql.Condition Value) :=
  ⟨timeColumn, .lt, .datetime predictionTime⟩ ::
    feature.historicalWindowDays.toList.map fun days =>
      ⟨timeColumn, .ge, .datetime (predictionTime.minusDays days)⟩

/-- They say that its instant is in the window. -/
theorem timesOf_holds (hc : Chronological std compare timeColumn rows) {row : Sql.Row Value}
    (hrow : row ∈ rows) :
    (timesOf feature timeColumn predictionTime).all (·.holds compare row) =
      (instantOf std (row timeColumn)).any (inWindow feature predictionTime) := by
  cases hv : row timeColumn with
  | none => simp [timesOf, Sql.Condition.holds, hv]
  | some v =>
    obtain ⟨time, ht⟩ := hc.denotes row hrow v hv
    have hlt : ∀ t, compare.lt v (.datetime t) = decide (time < t) := by
      intro t
      rw [Bool.eq_iff_iff, hc.lt v (.datetime t) ⟨row, hrow, hv⟩ (.inr ⟨t, rfl⟩) time t ht rfl,
        decide_eq_true_iff]
    have hge : ∀ t : DateTime, (!decide (time < t)) = decide (t ≤ time) := by
      intro t
      rw [← decide_not]
      exact decide_eq_decide.2 Int.not_lt
    rw [ht]
    cases hw : feature.historicalWindowDays with
    | none => simp [timesOf, inWindow, Sql.Condition.holds, hv, hlt, hw]
    | some days => simp [timesOf, inWindow, Sql.Condition.holds, hv, hlt, hw, hge]

/-- The rows that meet the conditions of a recipe. -/
theorem filter_conditions (hc : Chronological std compare timeColumn rows)
    (hj : feature.relatedFkFieldOnTarget.bind (columnOf document) = some joinColumn)
    (ht : feature.relatedTimestampField.bind (columnOf document) = some timeColumn) :
    (rows.filter fun row => (⟨joinColumn, .eq, joinValue⟩ ::
        timesOf feature timeColumn predictionTime).all (·.holds compare row)) =
      recipeRows std compare document feature joinValue predictionTime rows := by
  refine List.filter_congr fun row hrow => ?_
  rw [List.all_cons, holds_eq, timesOf_holds hc hrow, fieldValue_of hj, fieldValue_of ht]

/-- A feature whose join and timestamp are columns performs its recipe under these conditions. -/
theorem relatedFeaturePlan_mapped (std : Stdlib) (joinValue : Value) (predictionTime : DateTime)
    (ha : Allowlisted document connection)
    (hj : feature.relatedFkFieldOnTarget.bind (columnOf document) = some joinColumn)
    (ht : (given feature.relatedTimestampField).bind (columnOf document) = some timeColumn)
    (hw : ∀ days, feature.historicalWindowDays = some days → days ≤ maxHistoricalWindowDays) :
    relatedFeaturePlan std feature document joinValue predictionTime connection =
      recipePlan std feature document
        (⟨joinColumn, .eq, joinValue⟩ :: timesOf feature timeColumn predictionTime)
        (some timeColumn) predictionTime := by
  obtain ⟨f, hf, hjoin⟩ := Option.bind_eq_some_iff.1 hj
  obtain ⟨g, hg, htime⟩ := Option.bind_eq_some_iff.1 ht
  have hasserted : assertedColumn document feature.relatedFkFieldOnTarget = .ok (some joinColumn) :=
    assertedColumn_some.2 ⟨f, hf, hjoin⟩
  have hcolumn : timestampColumn document feature.relatedTimestampField = .ok (some timeColumn) := by
    unfold timestampColumn
    rw [hg]
    exact resolveColumn_mapped.2 htime
  have htimes : timeConditions feature (some timeColumn) predictionTime =
      .ok (timesOf feature timeColumn predictionTime) := by
    unfold timeConditions enforceWindowLimit timesOf
    cases hd : feature.historicalWindowDays with
    | none => rfl
    | some days =>
      have hmax : ¬days > maxHistoricalWindowDays := not_lt.2 (hw days hd)
      simp [hmax, bind, Except.bind, pure, Except.pure]
  simp only [relatedFeaturePlan, checkAllowlisted_ok.2 ha, hasserted, hcolumn, htimes, bind,
    Except.bind]

/-! ## The four recipes -/

variable {database : CustomerDatabase} {relation : Relation}

/-- What a recipe's statement selects. -/
theorem recipe_run (h : Answers database document relation)
    (hc : Chronological std database.compare timeColumn relation.rows)
    (hj : feature.relatedFkFieldOnTarget.bind (columnOf document) = some joinColumn)
    (ht : feature.relatedTimestampField.bind (columnOf document) = some timeColumn)
    (joinValue : Value) (predictionTime : DateTime) (output : Sql.Output Value)
    (filter : List (Sql.Condition Value)) (orderBy : Option Sql.Order) (limit : Option Nat) :
    database.run (selectFrom document output
        (⟨joinColumn, .eq, joinValue⟩ :: timesOf feature timeColumn predictionTime ++ filter)
        orderBy limit) =
      .ok (Sql.takeLimit limit (Sql.sortRows database.compare orderBy
        ((recipeRows std database.compare document feature joinValue predictionTime
          relation.rows).filter fun row => filter.all (·.holds database.compare row)))) := by
  refine CustomerDatabase.run_ok.2 ⟨relation, h.there, h.refuses _, ?_⟩
  have hsplit : (relation.rows.filter fun row =>
      (⟨joinColumn, .eq, joinValue⟩ :: timesOf feature timeColumn predictionTime ++ filter).all
        (·.holds database.compare row)) =
      (recipeRows std database.compare document feature joinValue predictionTime
        relation.rows).filter fun row => filter.all (·.holds database.compare row) := by
    rw [← filter_conditions hc hj ht, List.filter_filter]
    refine List.filter_congr fun row _ => ?_
    rw [List.all_append, Bool.and_comm]
  rw [← hsplit]
  rfl

/-- Without a filter. -/
theorem recipe_run_all (h : Answers database document relation)
    (hc : Chronological std database.compare timeColumn relation.rows)
    (hj : feature.relatedFkFieldOnTarget.bind (columnOf document) = some joinColumn)
    (ht : feature.relatedTimestampField.bind (columnOf document) = some timeColumn)
    (joinValue : Value) (predictionTime : DateTime) (output : Sql.Output Value)
    (orderBy : Option Sql.Order) (limit : Option Nat) :
    database.run (selectFrom document output
        (⟨joinColumn, .eq, joinValue⟩ :: timesOf feature timeColumn predictionTime) orderBy
        limit) =
      .ok (Sql.takeLimit limit (Sql.sortRows database.compare orderBy
        (recipeRows std database.compare document feature joinValue predictionTime
          relation.rows))) := by
  simpa using recipe_run h hc hj ht joinValue predictionTime output [] orderBy limit

/-- The instant of a selected row, which is before the prediction time. -/
theorem recipeRows_time (ht : feature.relatedTimestampField.bind (columnOf document) =
      some timeColumn) {row : Sql.Row Value}
    (h : row ∈ recipeRows std compare document feature joinValue predictionTime rows) :
    row ∈ rows ∧ ∃ v time, row timeColumn = some v ∧ instantOf std (some v) = some time ∧
      time < predictionTime := by
  simp only [recipeRows, List.mem_filter, Bool.and_eq_true, fieldValue_of ht] at h
  obtain ⟨hrow, -, htime⟩ := h
  refine ⟨hrow, ?_⟩
  cases hv : row timeColumn with
  | none => rw [hv] at htime; simp at htime
  | some v =>
    rw [hv] at htime
    obtain ⟨time, hi, hwindow⟩ := (Option.any_eq_true _ _).1 htime
    simp only [inWindow, Bool.and_eq_true, decide_eq_true_eq] at hwindow
    exact ⟨v, time, rfl, hi, hwindow.1⟩

theorem filteredRows_some (f v : String) :
    filteredRows compare document (some f) (some v) rows =
      rows.filter fun row => knownEq compare (.str v) (fieldValue document (some f) row) := rfl

theorem filteredRows_length_le (compare : Sql.Comparison Value) (document : MappingDocument)
    (field equals : Option String) (rows : List (Sql.Row Value)) :
    (filteredRows compare document field equals rows).length ≤ rows.length := by
  cases field with
  | none => exact le_refl _
  | some f =>
    cases equals with
    | none => exact le_refl _
    | some v => exact List.length_filter_le _ rows

/-- A filter on a column keeps the filtered rows. -/
theorem filter_filteredRows {field equals : Option String}
    (hm : ∀ f v, field = some f → equals = some v → Mapped document f) :
    (rows.filter fun row => (equals.toList.flatMap fun value =>
        compareField document field .eq (.str value)).all (·.holds compare row)) =
      filteredRows compare document field equals rows := by
  cases field with
  | none => cases equals <;> simp [filteredRows, compareField]
  | some f =>
    cases equals with
    | none => simp [filteredRows]
    | some v =>
      obtain ⟨column, hcol⟩ := Option.isSome_iff_exists.1 (hm f v rfl rfl)
      refine List.filter_congr fun row _ => ?_
      simp only [Option.toList_some, List.flatMap_cons, List.flatMap_nil, List.append_nil,
        compareField_some hcol, List.all_cons, List.all_nil, Bool.and_true, holds_eq]
      rw [fieldValue_of (show (some f).bind (columnOf document) = _ from hcol)]

/-- The value of the feature's recipe over its rows. -/
def RecipeYields (std : Stdlib) (database : CustomerDatabase) (document : MappingDocument)
    (feature : FeatureSpec) (joinValue : Value) (predictionTime : DateTime)
    (joinColumn timeColumn : String) (rows : List (Sql.Row Value)) : Prop :=
  ∃ raw, recipePlan std feature document
      (⟨joinColumn, .eq, joinValue⟩ :: timesOf feature timeColumn predictionTime)
      (some timeColumn) predictionTime >>= Plan.result database = .ok raw ∧
    RecipeMeets std database.compare document feature predictionTime
      (recipeRows std database.compare document feature joinValue predictionTime rows) raw

/-- The statement of a count, and its value. -/
theorem countPlan (hk : feature.kind = .RELATED_COUNT)
    (hm : ∀ f v, given feature.relatedFilterField = some f → feature.relatedFilterEquals = some v →
      Mapped document f) (conditions : List (Sql.Condition Value)) (time : Option String) :
    recipePlan std feature document conditions time predictionTime =
      .ok (.ask (selectFrom document .count (conditions ++
        feature.relatedFilterEquals.toList.flatMap fun value =>
          compareField document (given feature.relatedFilterField) .eq (.str value)))
        fun _ rows => .ok (some (.int rows.length))) := by
  have hfilter := filterCondition_iff.2 ⟨fun f v hf hv => (hm f v hf hv).readable, rfl⟩
  exact recipePlan_iff.2 (.count _ hk hfilter)

theorem ratioPlan (hk : feature.kind = RELATED_RATIO) {f v column : String}
    (hf : feature.relatedFilterField = some f) (hv : feature.relatedFilterEquals = some v)
    (hcol : columnOf document f = some column) (conditions : List (Sql.Condition Value))
    (time : Option String) :
    recipePlan std feature document conditions time predictionTime =
      .ok (.ask (selectFrom document (.countWhere ⟨column, .eq, .str v⟩) conditions)
        fun compare rows => .ok (if rows.length = 0 then none
          else some (.float ((Sql.countWhere compare ⟨column, .eq, .str v⟩ rows : ℚ) /
            rows.length)))) := by
  exact recipePlan_iff.2 (.ratio column v hk (assertedColumn_some.2 ⟨f, hf, hcol⟩) hv)

theorem recencyPlan (hk : feature.kind = .RELATED_RECENCY_DAYS)
    (conditions : List (Sql.Condition Value)) (column : String) :
    recipePlan std feature document conditions (some column) predictionTime =
      .ok (.ask (selectFrom document (.maximum column) conditions)
        fun compare rows => recencyDays std (Sql.maximum compare column rows) predictionTime) :=
  recipePlan_iff.2 (.recency column hk rfl)

theorem latestPlan (hk : feature.kind = .RELATED_LATEST_VALUE) {f column : String}
    (hf : feature.relatedValueField = some f) (hcol : columnOf document f = some column)
    (conditions : List (Sql.Condition Value)) (time : Option String) :
    recipePlan std feature document conditions time predictionTime =
      .ok (.ask (selectFrom document (.columns [column]) conditions (mostRecentFirst time)
        (some relatedRowLimit)) fun _ rows => .ok (rows.head?.bind (· column))) := by
  exact recipePlan_iff.2 (.latest column hk (assertedColumn_some.2 ⟨f, hf, hcol⟩))

theorem yields_of_ask {select : Sql.Select Value}
    {answer : Sql.Comparison Value → List (Sql.Row Value) → Except PyError (Option Value)}
    {selected : List (Sql.Row Value)} {raw : Option Value}
    (hplan : recipePlan std feature document
      (⟨joinColumn, .eq, joinValue⟩ :: timesOf feature timeColumn predictionTime)
      (some timeColumn) predictionTime = .ok (.ask select answer))
    (hrun : database.run select = .ok selected)
    (hanswer : answer database.compare selected = .ok raw)
    (hmeets : RecipeMeets std database.compare document feature predictionTime
      (recipeRows std database.compare document feature joinValue predictionTime rows) raw) :
    RecipeYields std database document feature joinValue predictionTime joinColumn timeColumn
      rows := by
  refine ⟨raw, ?_, hmeets⟩
  rw [hplan, except_ok_bind]
  show (do answer database.compare (← database.run select)) = _
  rw [hrun, except_ok_bind, hanswer]

theorem recipe_count (h : Answers database document relation)
    (hc : Chronological std database.compare timeColumn relation.rows)
    (hj : feature.relatedFkFieldOnTarget.bind (columnOf document) = some joinColumn)
    (ht : feature.relatedTimestampField.bind (columnOf document) = some timeColumn)
    (hk : feature.kind = .RELATED_COUNT)
    (hm : ∀ f v, given feature.relatedFilterField = some f → feature.relatedFilterEquals = some v →
      Mapped document f) :
    RecipeYields std database document feature joinValue predictionTime joinColumn timeColumn
      relation.rows := by
  have hrun := recipe_run h hc hj ht joinValue predictionTime .count
    (feature.relatedFilterEquals.toList.flatMap fun value =>
      compareField document (given feature.relatedFilterField) .eq (.str value)) none none
  rw [filter_filteredRows hm] at hrun
  refine yields_of_ask (countPlan hk hm _ _) hrun rfl ?_
  simp only [RecipeMeets, hk]
  rfl

/-- The ratio of some rows. -/
theorem ratio_meets (hk : feature.kind = RELATED_RATIO) {f v column : String}
    (hf : feature.relatedFilterField = some f) (hv : feature.relatedFilterEquals = some v)
    (hcol : columnOf document f = some column) (rows : List (Sql.Row Value)) :
    RecipeMeets std compare document feature predictionTime rows (if rows.length = 0 then none
      else some (.float ((Sql.countWhere compare ⟨column, .eq, .str v⟩ rows : ℚ) /
        rows.length))) := by
  have hcount : Sql.countWhere compare ⟨column, .eq, .str v⟩ rows =
      (filteredRows compare document feature.relatedFilterField feature.relatedFilterEquals
        rows).length := by
    rw [Sql.countWhere, List.countP_eq_length_filter, hf, hv, filteredRows_some]
    congr 1
    refine List.filter_congr fun row _ => ?_
    rw [holds_eq, fieldValue_of (show (some f).bind (columnOf document) = _ from hcol)]
  simp only [RecipeMeets, hk, hcount]
  by_cases hempty : rows = []
  · simp [hempty]
  · have hpos : 0 < rows.length := List.length_pos_iff.2 hempty
    have hle := filteredRows_length_le compare document feature.relatedFilterField
      feature.relatedFilterEquals rows
    rw [if_neg hempty, if_neg hpos.ne']
    refine ⟨_, rfl, by positivity, ?_, rfl⟩
    rw [div_le_one (by exact_mod_cast hpos)]
    exact_mod_cast hle

theorem recipe_ratio (h : Answers database document relation)
    (hc : Chronological std database.compare timeColumn relation.rows)
    (hj : feature.relatedFkFieldOnTarget.bind (columnOf document) = some joinColumn)
    (ht : feature.relatedTimestampField.bind (columnOf document) = some timeColumn)
    (hk : feature.kind = RELATED_RATIO)
    (hm : ∀ f, feature.relatedFilterField = some f → Mapped document f) :
    RecipeYields std database document feature joinValue predictionTime joinColumn timeColumn
      relation.rows := by
  obtain ⟨hfield, hequals⟩ := feature.filter_field hk
  obtain ⟨f, hf⟩ := Option.isSome_iff_exists.1 hfield
  obtain ⟨v, hv⟩ := Option.isSome_iff_exists.1 hequals
  obtain ⟨column, hcol⟩ := Option.isSome_iff_exists.1 (hm f hf)
  have hrun := recipe_run_all h hc hj ht joinValue predictionTime
    (.countWhere ⟨column, .eq, .str v⟩) none none
  exact yields_of_ask (ratioPlan hk hf hv hcol _ _) hrun rfl (ratio_meets hk hf hv hcol _)

/-- The latest timestamp of a recipe's rows. -/
theorem recency_meets (joinValue : Value) (predictionTime : DateTime)
    (hk : feature.kind = .RELATED_RECENCY_DAYS)
    (hc : Chronological std compare timeColumn rows)
    (ht : feature.relatedTimestampField.bind (columnOf document) = some timeColumn) :
    ∃ raw, recencyDays std (Sql.maximum compare timeColumn
        (recipeRows std compare document feature joinValue predictionTime rows)) predictionTime =
          .ok raw ∧
      RecipeMeets std compare document feature predictionTime
        (recipeRows std compare document feature joinValue predictionTime rows) raw := by
  have htime := fun row => @recipeRows_time std document feature joinValue predictionTime compare
    rows timeColumn ht row
  generalize recipeRows std compare document feature joinValue predictionTime rows = selected at *
  simp only [RecipeMeets, hk, fieldValue_of ht]
  have hvalue : ∀ v ∈ selected.filterMap (· timeColumn), ∃ row ∈ selected, row ∈ rows ∧
      row timeColumn = some v ∧ ∃ time, instantOf std (some v) = some time ∧
        time < predictionTime := by
    intro v hv
    obtain ⟨row, hrow, hv⟩ := List.mem_filterMap.1 hv
    obtain ⟨hmem, w, time, hw, hi, hlt⟩ := htime row hrow
    rw [hv] at hw
    cases hw
    exact ⟨row, hrow, hmem, hv, time, hi, hlt⟩
  have hrank : ∀ v ∈ selected.filterMap (· timeColumn), ∀ w ∈ selected.filterMap (· timeColumn),
      compare.lt v w = true ↔ rankOf std (some v) < rankOf std (some w) := by
    intro v hv w hw
    obtain ⟨row, -, hrow, hrv, t, hit, -⟩ := hvalue v hv
    obtain ⟨other, -, hother, how, u, hiu, -⟩ := hvalue w hw
    rw [hc.lt v w ⟨row, hrow, hrv⟩ (.inl ⟨other, hother, how⟩) t u hit hiu, rankOf_eq hit,
      rankOf_eq hiu]
    rfl
  rcases Sql.maximum_spec hrank with ⟨hempty, hmax⟩ | ⟨top, htop, hbest, hmax⟩
  · have hnil : selected = [] := by
      cases selected with
      | nil => rfl
      | cons row rest =>
        obtain ⟨-, v, _, hv, -, -⟩ := htime row (by simp)
        simp [hv] at hempty
    exact ⟨none, by rw [hmax]; rfl, by rw [if_pos hnil]⟩
  · obtain ⟨row, hrow, -, hrv, latest, hlatest, hlt⟩ := hvalue top htop
    refine ⟨some (.float (predictionTime.secondsSince latest / 86400)), ?_, ?_⟩
    · rw [hmax, recencyDays, instantOf_iff.1 hlatest]
      rfl
    · rw [if_neg (List.ne_nil_of_mem hrow)]
      refine ⟨latest, _, ⟨row, hrow, by rw [hrv]; exact hlatest⟩, fun other hother t hit => ?_, rfl,
        div_pos (secondsSince_pos hlt) (by norm_num), rfl⟩
      obtain ⟨-, w, u, hw, hiu, -⟩ := htime other hother
      rw [hw, hiu] at hit
      cases hit
      have hle := hbest w (List.mem_filterMap.2 ⟨other, hother, hw⟩)
      rw [rankOf_eq hiu, rankOf_eq hlatest] at hle
      exact hle

theorem recipe_recency (h : Answers database document relation)
    (hc : Chronological std database.compare timeColumn relation.rows)
    (hj : feature.relatedFkFieldOnTarget.bind (columnOf document) = some joinColumn)
    (ht : feature.relatedTimestampField.bind (columnOf document) = some timeColumn)
    (hk : feature.kind = .RELATED_RECENCY_DAYS) :
    RecipeYields std database document feature joinValue predictionTime joinColumn timeColumn
      relation.rows := by
  have hrun := recipe_run_all h hc hj ht joinValue predictionTime (.maximum timeColumn) none none
  obtain ⟨raw, hraw, hmeets⟩ := recency_meets joinValue predictionTime hk hc ht
  exact yields_of_ask (recencyPlan hk _ _) hrun hraw hmeets

/-- The first row in descending order of time. -/
theorem latest_meets (hk : feature.kind = .RELATED_LATEST_VALUE)
    (hc : Chronological std compare timeColumn rows)
    (ht : feature.relatedTimestampField.bind (columnOf document) = some timeColumn)
    {column : String} (hv : feature.relatedValueField.bind (columnOf document) = some column) :
    RecipeMeets std compare document feature predictionTime
      (recipeRows std compare document feature joinValue predictionTime rows)
      ((Sql.takeLimit (some relatedRowLimit) (Sql.sortRows compare (mostRecentFirst timeColumn)
        (recipeRows std compare document feature joinValue predictionTime rows))).head?.bind
          (· column)) := by
  have htime := fun row => @recipeRows_time std document feature joinValue predictionTime compare
    rows timeColumn ht row
  generalize recipeRows std compare document feature joinValue predictionTime rows = selected at *
  simp only [RecipeMeets, hk, fieldValue_of ht, fieldValue_of hv]
  have hhead : (Sql.takeLimit (some relatedRowLimit) (Sql.sortRows compare
      (mostRecentFirst timeColumn) selected)).head? =
        (Sql.sortRows compare (mostRecentFirst timeColumn) selected).head? := by
    cases Sql.sortRows compare (mostRecentFirst timeColumn) selected <;> rfl
  rw [hhead]
  cases hs : (Sql.sortRows compare (mostRecentFirst timeColumn) selected).head? with
  | none =>
    have hnil : selected = [] := by
      refine List.eq_nil_iff_forall_not_mem.2 fun row hrow => ?_
      rw [List.head?_eq_none_iff] at hs
      have hmem : row ∈ Sql.sortRows compare (mostRecentFirst timeColumn) selected :=
        Sql.mem_sortRows.2 hrow
      rw [hs] at hmem
      cases hmem
    rw [if_pos hnil]
    rfl
  | some first =>
    have hfirst : first ∈ selected := Sql.mem_sortRows.1 (List.mem_of_mem_head? hs)
    have hbest : ∀ row ∈ selected, rankOf std (row timeColumn) ≤ rankOf std (first timeColumn) := by
      refine Sql.sortRows_head ?_ hs
      intro a ha b hb
      obtain ⟨hrow, v, t, hv, hit, -⟩ := htime a ha
      obtain ⟨hother, w, u, hw, hiu, -⟩ := htime b hb
      refine ⟨v, w, hv, hw, ?_⟩
      rw [hc.lt v w ⟨a, hrow, hv⟩ (.inl ⟨b, hother, hw⟩) t u hit hiu, hv, hw, rankOf_eq hit,
        rankOf_eq hiu]
      rfl
    obtain ⟨-, v, latest, hfv, hlatest, -⟩ := htime first hfirst
    rw [if_neg (List.ne_nil_of_mem hfirst)]
    refine ⟨first, hfirst, latest, by rw [hfv]; exact hlatest, fun other hother t hit => ?_, rfl⟩
    obtain ⟨-, w, u, hw, hiu, -⟩ := htime other hother
    rw [hw, hiu] at hit
    cases hit
    have hle := hbest other hother
    rw [hw, hfv, rankOf_eq hiu, rankOf_eq hlatest] at hle
    exact hle

theorem recipe_latest (h : Answers database document relation)
    (hc : Chronological std database.compare timeColumn relation.rows)
    (hj : feature.relatedFkFieldOnTarget.bind (columnOf document) = some joinColumn)
    (ht : feature.relatedTimestampField.bind (columnOf document) = some timeColumn)
    (hk : feature.kind = .RELATED_LATEST_VALUE)
    (hm : ∀ f, feature.relatedValueField = some f → Mapped document f) :
    RecipeYields std database document feature joinValue predictionTime joinColumn timeColumn
      relation.rows := by
  obtain ⟨f, hf⟩ := Option.isSome_iff_exists.1 (feature.value_field hk)
  obtain ⟨column, hcol⟩ := Option.isSome_iff_exists.1 (hm f hf)
  have hrun := recipe_run_all h hc hj ht joinValue predictionTime (.columns [column])
    (mostRecentFirst timeColumn) (some relatedRowLimit)
  exact yields_of_ask (latestPlan hk hf hcol _ _) hrun rfl
    (latest_meets hk hc ht (by rw [hf]; exact hcol))

end

namespace Sample

open HermesRpt.Sample (plain)

/-- Maintenance events with `completed_at`. -/
def completedEvents : MappingDocument :=
  { events with
    fields := ⟨events.fields.rows ++ [("completed_at", plain "completed")], by decide⟩ }

/-- An event that is completed at an instant. -/
def completedAt (time : DateTime) : Sql.Row Value := fun column =>
  if column = "vehicle_no" then some (.str "v1")
  else if column = "completed" then some (.datetime time)
  else none

def completions : List (Sql.Row Value) := [completedAt ⟨100, 0⟩, completedAt ⟨700, 0⟩]

/-- Times are compared by their instants. -/
theorem chronological_of_times {column : String} {rows : List (Sql.Row Value)}
    (h : ∀ row ∈ rows, ∀ v, row column = some v → ∃ time, v = .datetime time) :
    Chronological HermesRpt.Sample.std compare column rows where
  denotes := by
    intro row hrow v hv
    obtain ⟨time, rfl⟩ := h row hrow v hv
    exact ⟨time, rfl⟩
  lt := by
    intro v w hv hw t u ht hu
    obtain ⟨row, hrow, hv⟩ := hv
    obtain ⟨t', rfl⟩ := h row hrow v hv
    obtain ⟨u', rfl⟩ : ∃ time, w = .datetime time :=
      hw.elim (fun ⟨row, hrow, hw⟩ => h row hrow w hw) id
    cases ht
    cases hu
    simp [compare]

theorem completions_chronological :
    Chronological HermesRpt.Sample.std compare "completed" completions := by
  refine chronological_of_times fun row hrow v hv => ?_
  simp only [completions, List.mem_cons, List.not_mem_nil, or_false] at hrow
  rcases hrow with rfl | rfl <;> cases hv <;> exact ⟨_, rfl⟩

end Sample

end Extraction

end HermesRpt
