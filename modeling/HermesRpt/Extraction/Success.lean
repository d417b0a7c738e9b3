import HermesRpt.Extraction.Degradation

/-!
# HermesRpt.Extraction.Success

When an extraction succeeds, read off the mappings, the contract and the databases.

* `Finishes`           : a value can be derived and brought to the data type.
* `RecipeSucceeds`     : the recipe of a related feature has such a value, or none to ask for.
* `FeatureSucceeds`    : a feature of the target row, or of a related entity.
* `extractOf_succeeds` : a call gives a batch exactly if the target row can be read and each
  feature succeeds.
-/

namespace HermesRpt

namespace Extraction

open Effect Connectors Mappings Features
open Keyed (Dict)
open FeatureKind ( RELATED_RATIO)

/-! ## One value -/

/-- `int`, `float` or `bool` takes the value. -/
def Converts (std : Stdlib) (dataType : FeatureDataType) (v : Value) : Prop :=
  match dataType with
  | .INTEGER => v.number?.isSome ∨ ∃ s, v = .str s ∧ (std.intOfStr s).isSome
  | .FLOAT => v.number?.isSome ∨ ∃ s, v = .str s ∧ (std.floatOfStr s).isSome
  | .BOOLEAN => True

/-- A datetime, or a text that spells one. -/
def Dated (std : Stdlib) : Value → Prop
  | .datetime _ => True
  | .str s => (std.fromisoformat s).isSome
  | _ => False

/-- The names in `_REGISTRY`. -/
def deriveFunctions : List String :=
  ["hour_of_day", "day_of_week", "age_years_at_prediction", "loading_start_delay_minutes"]

/-- What the function of that name gives. -/
def derived (name : String) (value secondary : Option DateTime) (predictionTime : DateTime) :
    Option Value :=
  match name with
  | "hour_of_day" => hourOfDay value
  | "day_of_week" => dayOfWeek value
  | "age_years_at_prediction" => ageYearsAtPrediction value predictionTime
  | "loading_start_delay_minutes" => loadingStartDelayMinutes value secondary predictionTime
  | _ => none

section

variable {std : Stdlib} {feature : FeatureSpec} {predictionTime : DateTime}

theorem normalize_succeeds {raw : Option Value} :
    (∃ value, Features.normalize std feature raw = .ok value) ↔
      ∀ v, raw = some v → Converts std feature.dataType v := by
  cases raw with
  | none => simp [Features.normalize]
  | some v =>
    simp only [Features.normalize, Option.some.injEq, forall_eq', Converts]
    cases feature.dataType with
    | INTEGER =>
      cases v with
      | str s => cases h : std.intOfStr s <;>
          simp [Value.toInt, Value.number?, h, bind, Except.bind, pure, Except.pure]
      | _ => simp [Value.toInt, Value.number?, bind, Except.bind, pure, Except.pure]
    | FLOAT =>
      cases v with
      | str s => cases h : std.floatOfStr s <;>
          simp [Value.toFloat, Value.number?, h, bind, Except.bind, pure, Except.pure]
      | _ => simp [Value.toFloat, Value.number?, bind, Except.bind, pure, Except.pure]
    | BOOLEAN => simp

theorem coerceDatetime_succeeds {raw : Option Value} :
    (∃ t, coerceDatetime std raw = .ok t) ↔ ∀ v, raw = some v → Dated std v := by
  cases raw with
  | none => simp [coerceDatetime]
  | some v =>
    cases v with
    | str s => cases h : std.fromisoformat s <;>
        simp [coerceDatetime, parseDatetime, Dated, h, bind, Except.bind, pure, Except.pure]
    | _ => simp [coerceDatetime, Dated]

theorem coerceDatetime_ne_none (v : Value) : coerceDatetime std (some v) ≠ .ok none := by
  cases v with
  | str s => cases h : std.fromisoformat s <;>
      simp [coerceDatetime, parseDatetime, h, bind, Except.bind, pure, Except.pure]
  | _ => simp [coerceDatetime]

theorem applyDerive_ok {name : String} {value secondary raw : Option Value} :
    applyDerive std name value secondary predictionTime = .ok raw ↔
      name ∈ deriveFunctions ∧ ∃ t u, coerceDatetime std value = .ok t ∧
        coerceDatetime std secondary = .ok u ∧ raw = derived name t u predictionTime := by
  have hcoerced (fn : Option DateTime → Option DateTime → Option Value) :
      (do return fn (← coerceDatetime std value) (← coerceDatetime std secondary)) =
          Except.ok raw ↔
        ∃ t u, coerceDatetime std value = .ok t ∧ coerceDatetime std secondary = .ok u ∧
          raw = fn t u := by
    simp only [except_bind_ok, except_pure_ok]
    constructor
    · rintro ⟨t, ht, u, hu, rfl⟩
      exact ⟨t, u, ht, hu, rfl⟩
    · rintro ⟨t, u, ht, hu, rfl⟩
      exact ⟨t, ht, u, hu, rfl⟩
  unfold applyDerive
  dsimp only
  split
  · rw [except_ok_bind, hcoerced]
    simp [deriveFunctions, derived]
  · rw [except_ok_bind, hcoerced]
    simp [deriveFunctions, derived]
  · rw [except_ok_bind, hcoerced]
    simp [deriveFunctions, derived]
  · rw [except_ok_bind, hcoerced]
    simp [deriveFunctions, derived]
  · rename_i h₁ h₂ h₃ h₄
    have hunknown : name ∉ deriveFunctions := by
      simp only [deriveFunctions, List.mem_cons, List.not_mem_nil, or_false, not_or]
      exact ⟨h₁, h₂, h₃, h₄⟩
    simp only [hunknown, false_and, iff_false]
    intro h
    cases h

/-- A function is applied exactly to datetimes, or to texts of them. -/
theorem applyDerive_succeeds {name : String} {value secondary : Option Value} :
    (∃ raw, applyDerive std name value secondary predictionTime = .ok raw) ↔
      name ∈ deriveFunctions ∧ (∀ v, value = some v → Dated std v) ∧
        ∀ v, secondary = some v → Dated std v := by
  simp only [applyDerive_ok, ← coerceDatetime_succeeds]
  constructor
  · rintro ⟨raw, hname, t, u, ht, hu, -⟩
    exact ⟨hname, ⟨t, ht⟩, u, hu⟩
  · rintro ⟨hname, ⟨t, ht⟩, u, hu⟩
    exact ⟨_, hname, t, u, ht, hu, rfl⟩

/-- What is derived is a number. -/
theorem derived_number {name : String} {t u : Option DateTime} {v : Value}
    (h : derived name t u predictionTime = some v) : v.number?.isSome := by
  unfold derived at h
  split at h
  · obtain ⟨d, -, rfl⟩ := Option.map_eq_some_iff.1 h
    rfl
  · obtain ⟨d, -, rfl⟩ := Option.map_eq_some_iff.1 h
    rfl
  · obtain ⟨d, -, rfl⟩ := Option.map_eq_some_iff.1 h
    rfl
  · unfold loadingStartDelayMinutes at h
    split at h
    · split at h <;> cases h <;> rfl
    · cases h
      rfl
  · cases h

theorem converts_number {v : Value} (h : v.number?.isSome) (dataType : FeatureDataType) :
    Converts std dataType v := by
  cases dataType with
  | INTEGER => exact .inl h
  | FLOAT => exact .inl h
  | BOOLEAN => trivial

theorem not_dated_number {v : Value} (h : v.number?.isSome) : ¬Dated std v := by
  cases v <;> simp [Value.number?, Dated] at *

/-- What is derived has every data type. -/
theorem applyDerive_normalizes {name : String} {value secondary raw : Option Value}
    (h : applyDerive std name value secondary predictionTime = .ok raw) (feature : FeatureSpec) :
    ∃ value, Features.normalize std feature raw = .ok value := by
  obtain ⟨-, t, u, -, -, rfl⟩ := applyDerive_ok.1 h
  refine normalize_succeeds.2 fun v hv => ?_
  exact converts_number (derived_number hv) feature.dataType

/-- Without a value nothing is derived, but for the delay, which is 0 without a departure. -/
theorem applyDerive_missing {name : String} {secondary raw : Option Value}
    (h : applyDerive std name none secondary predictionTime = .ok raw) :
    raw = if name = "loading_start_delay_minutes" then some (.float 0) else none := by
  split
  · rename_i hname
    obtain ⟨-, t, u, ht, -, rfl⟩ := applyDerive_ok.1 h
    cases ht
    rw [hname]
    rfl
  · rename_i hname
    exact applyDerive_none hname h

/-- The value can be derived, if the feature asks for it, and brought to the data type. -/
def Finishes (std : Stdlib) (feature : FeatureSpec) (raw : Option Value) : Prop :=
  match feature.derive with
  | none => ∀ v, raw = some v → Converts std feature.dataType v
  | some name => name ∈ deriveFunctions ∧ ∀ v, raw = some v → Dated std v

theorem finishes_iff {raw : Option Value} :
    Finishes std feature raw ↔ ∃ r value, deriveRelated std feature raw predictionTime = .ok r ∧
      Features.normalize std feature r = .ok value := by
  unfold Finishes deriveRelated
  cases hd : feature.derive with
  | none =>
    simp only [Except.ok.injEq, exists_and_left, exists_eq_left', normalize_succeeds]
  | some name =>
    dsimp only
    constructor
    · intro h
      obtain ⟨r, hr⟩ : ∃ r, applyDerive std name raw none predictionTime = .ok r :=
        applyDerive_succeeds.2 ⟨h.1, h.2, by simp⟩
      obtain ⟨value, hvalue⟩ := applyDerive_normalizes hr feature
      exact ⟨r, value, hr, hvalue⟩
    · rintro ⟨r, value, hr, -⟩
      obtain ⟨hname, hdated, -⟩ := applyDerive_succeeds.1 ⟨r, hr⟩
      exact ⟨hname, hdated⟩

theorem finishes_none (h : feature.derive = none) : Finishes std feature none := by
  unfold Finishes
  rw [h]
  intro v hv
  cases hv

/-- Nothing can be derived from a number. -/
theorem finishes_number {v : Value} (h : v.number?.isSome) :
    Finishes std feature (some v) ↔ feature.derive = none := by
  unfold Finishes
  cases feature.derive with
  | none => simp [converts_number h]
  | some name => simp [not_dated_number h]

end

/-! ## One recipe -/

section

variable {std : Stdlib} {database : CustomerDatabase} {document : MappingDocument}
  {connection : CustomerDatabaseConnection} {feature : FeatureSpec} {joinValue : Value}
  {predictionTime : DateTime}

/-- The timestamp can be read, and where it has a column the window is in bounds. -/
def TimestampReads (document : MappingDocument) (feature : FeatureSpec) : Prop :=
  ∀ f, given feature.relatedTimestampField = some f → Readable document f ∧
    (Mapped document f → ∀ days, feature.historicalWindowDays = some days →
      days ≤ maxHistoricalWindowDays)

/-- What every recipe compares. -/
def recipeConditions (document : MappingDocument) (feature : FeatureSpec) (joinValue : Value)
    (predictionTime : DateTime) : List (Sql.Condition Value) :=
  (Query.relatedFeature feature joinValue predictionTime).comparisons document

/-- The recipe has the fields that it reads, the server answers its statement, and the answer is a
value that the feature can take. -/
inductive RecipeAnswered (std : Stdlib) (database : CustomerDatabase) (document : MappingDocument)
    (feature : FeatureSpec) (joinValue : Value) (predictionTime : DateTime) : Prop where
  | count (rows : List (Sql.Row Value)) (hkind : feature.kind = .RELATED_COUNT)
      (hfilter : ∀ f v, given feature.relatedFilterField = some f →
        feature.relatedFilterEquals = some v → Readable document f)
      (hrun : database.run (selectFrom document .count
        (recipeConditions document feature joinValue predictionTime)) = .ok rows)
      (hderive : feature.derive = none)
  | ratio (f column v : String) (rows : List (Sql.Row Value)) (hkind : feature.kind = RELATED_RATIO)
      (hfield : feature.relatedFilterField = some f) (hcolumn : columnOf document f = some column)
      (hvalue : feature.relatedFilterEquals = some v)
      (hrun : database.run (selectFrom document (.countWhere ⟨column, .eq, .str v⟩)
        (recipeConditions document feature joinValue predictionTime)) = .ok rows)
      (hfinish : Finishes std feature none) (hderive : rows ≠ [] → feature.derive = none)
  | recency (f column : String) (rows : List (Sql.Row Value))
      (hkind : feature.kind = .RELATED_RECENCY_DAYS)
      (hfield : given feature.relatedTimestampField = some f)
      (hcolumn : columnOf document f = some column)
      (hrun : database.run (selectFrom document (.maximum column)
        (recipeConditions document feature joinValue predictionTime)) = .ok rows)
      (hfinish : Finishes std feature none)
      (hdated : ∀ v, Sql.maximum database.compare column rows = some v →
        Dated std v ∧ feature.derive = none)
  | latest (f column : String) (rows : List (Sql.Row Value))
      (hkind : feature.kind = .RELATED_LATEST_VALUE)
      (hfield : feature.relatedValueField = some f) (hcolumn : columnOf document f = some column)
      (hrun : database.run (selectFrom document (.columns [column])
        (recipeConditions document feature joinValue predictionTime)
        (mostRecentFirst ((given feature.relatedTimestampField).bind (columnOf document)))
        (some relatedRowLimit)) = .ok rows)
      (hfinish : Finishes std feature (rows.head?.bind (· column)))

/-- The recipe is answered, or it lacks a field without which it has no value. -/
inductive RecipeSucceeds (std : Stdlib) (database : CustomerDatabase) (document : MappingDocument)
    (feature : FeatureSpec) (joinValue : Value) (predictionTime : DateTime) : Prop where
  | unjoined (f : String) (hjoin : feature.relatedFkFieldOnTarget = some f)
      (hunmapped : Unmapped document f) (hfinish : Finishes std feature none)
  | unread (join f : String) (hjoin : feature.relatedFkFieldOnTarget = some join)
      (hmapped : Mapped document join) (htimestamp : TimestampReads document feature)
      (hfield : some f ∈ recipeFields feature) (hunmapped : Unmapped document f)
      (hfinish : Finishes std feature none)
  | answered (join : String) (hjoin : feature.relatedFkFieldOnTarget = some join)
      (hmapped : Mapped document join) (htimestamp : TimestampReads document feature)
      (hanswered : RecipeAnswered std database document feature joinValue predictionTime)

theorem recipeConditions_eq {f column : String}
    (hjoin : feature.relatedFkFieldOnTarget = some f) (hcolumn : columnOf document f = some column) :
    recipeConditions document feature joinValue predictionTime =
      ⟨column, .eq, joinValue⟩ :: (compareField document (given feature.relatedTimestampField) .lt
          (.datetime predictionTime) ++
        feature.historicalWindowDays.toList.flatMap fun days =>
          compareField document (given feature.relatedTimestampField) .ge
            (.datetime (predictionTime.minusDays days))) ++
      if feature.kind = .RELATED_COUNT then
        feature.relatedFilterEquals.toList.flatMap fun value =>
          compareField document (given feature.relatedFilterField) .eq (.str value)
      else [] := by
  rw [recipeConditions, Query.comparisons, hjoin, compareField_some hcolumn]
  rfl

/-- A recipe with the fields it reads and its timestamp: its plan is that of the recipe. -/
theorem relatedFeaturePlan_eq {f column : String}
    (hjoin : feature.relatedFkFieldOnTarget = some f) (hcolumn : columnOf document f = some column)
    (htimestamp : TimestampReads document feature) (hallowed : Allowlisted document connection) :
    ∃ times, recipeConditions document feature joinValue predictionTime =
        (⟨column, .eq, joinValue⟩ :: times) ++ (if feature.kind = .RELATED_COUNT then
          feature.relatedFilterEquals.toList.flatMap fun value =>
            compareField document (given feature.relatedFilterField) .eq (.str value) else []) ∧
      relatedFeaturePlan std feature document joinValue predictionTime connection =
        recipePlan std feature document (⟨column, .eq, joinValue⟩ :: times)
          ((given feature.relatedTimestampField).bind (columnOf document)) predictionTime := by
  have htime : timestampColumn document feature.relatedTimestampField =
      .ok ((given feature.relatedTimestampField).bind (columnOf document)) :=
    timestampColumn_iff.2 ⟨fun f hf => (htimestamp f hf).1, rfl⟩
  have htimes := (@timeConditions_iff document feature predictionTime _).2
    ⟨fun f hf => (htimestamp f hf).2, rfl⟩
  refine ⟨_, recipeConditions_eq hjoin hcolumn, ?_⟩
  unfold relatedFeaturePlan
  rw [checkAllowlisted_ok.2 hallowed, assertedColumn_some.2 ⟨f, hjoin, hcolumn⟩]
  simp only [except_ok_bind, htime, htimes]

/-- What an asked recipe gives. -/
theorem ask_result {α : Type} {select : Sql.Select Value} {a : α}
    {answer : Sql.Comparison Value → List (Sql.Row Value) → Except PyError α} :
    Plan.result database (.ask select answer) = .ok a ↔
      ∃ rows, database.run select = .ok rows ∧ answer database.compare rows = .ok a :=
  except_bind_ok

theorem result_of_ask {conditions : List (Sql.Condition Value)} {time : Option String}
    {select : Sql.Select Value} {rows : List (Sql.Row Value)} {raw : Option Value}
    {answer : Sql.Comparison Value → List (Sql.Row Value) → Except PyError (Option Value)}
    (hplan : RecipePlan std document feature conditions time predictionTime (.ask select answer))
    (hrun : database.run select = .ok rows) (hanswer : answer database.compare rows = .ok raw) :
    recipePlan std feature document conditions time predictionTime >>= Plan.result database =
      .ok raw :=
  except_bind_ok.2 ⟨_, recipePlan_iff.2 hplan, ask_result.2 ⟨rows, hrun, hanswer⟩⟩

theorem assertedColumn_none {field : Option String} :
    assertedColumn document field = .ok none ↔ ∃ f, field = some f ∧ Unmapped document f := by
  cases field with
  | none => simp [assertedColumn]
  | some f => simp [assertedColumn, resolveColumn_unmapped, Unmapped]

/-- A recipe gives a value that the feature can take when it is answered with one, or has nothing
to ask for. -/
theorem recipe_of_plan {conditions : List (Sql.Condition Value)} {raw : Option Value}
    (hconditions : recipeConditions document feature joinValue predictionTime =
      conditions ++ (if feature.kind = .RELATED_COUNT then
        feature.relatedFilterEquals.toList.flatMap fun value =>
          compareField document (given feature.relatedFilterField) .eq (.str value) else []))
    (h : recipePlan std feature document conditions
      ((given feature.relatedTimestampField).bind (columnOf document)) predictionTime >>=
        Plan.result database = .ok raw) (hfinish : Finishes std feature raw) :
    RecipeAnswered std database document feature joinValue predictionTime ∨
      ∃ f, some f ∈ recipeFields feature ∧ Unmapped document f ∧ Finishes std feature none := by
  obtain ⟨plan, hplan, h⟩ := except_bind_ok.1 h
  cases recipePlan_iff.1 hplan with
  | count filter hkind hfilter =>
    obtain ⟨hread, rfl⟩ := filterCondition_iff.1 hfilter
    obtain ⟨rows, hrun, hraw⟩ := ask_result.1 h
    cases hraw
    rw [if_pos hkind] at hconditions
    rw [← hconditions] at hrun
    exact .inl (.count rows hkind hread hrun ((finishes_number rfl).1 hfinish))
  | ratio column v hkind hcolumn hvalue =>
    rw [hkind, if_neg (by decide), List.append_nil] at hconditions
    obtain ⟨f, hf, hc⟩ := assertedColumn_some.1 hcolumn
    obtain ⟨rows, hrun, hraw⟩ := ask_result.1 h
    rw [← hconditions] at hrun
    cases rows with
    | nil =>
      cases hraw
      exact .inl (.ratio f column v [] hkind hf hc hvalue hrun hfinish (by simp))
    | cons row rows =>
      cases hraw
      have hderive := (finishes_number rfl).1 hfinish
      exact .inl (.ratio f column v _ hkind hf hc hvalue hrun (finishes_none hderive) fun _ =>
        hderive)
  | unfiltered hkind hcolumn =>
    cases h
    obtain ⟨f, hf, hunmapped⟩ := assertedColumn_none.1 hcolumn
    exact .inr ⟨f, by simp [recipeFields, hkind, hf], hunmapped, hfinish⟩
  | recency column hkind htime =>
    rw [hkind, if_neg (by decide), List.append_nil] at hconditions
    obtain ⟨f, hf, hc⟩ := Option.bind_eq_some_iff.1 htime
    obtain ⟨rows, hrun, hraw⟩ := ask_result.1 h
    rw [← hconditions] at hrun
    obtain ⟨latest, hlatest, hraw⟩ := except_bind_ok.1 hraw
    have hdated := coerceDatetime_succeeds.1 ⟨latest, hlatest⟩
    cases hmax : Sql.maximum database.compare column rows with
    | none =>
      rw [hmax] at hlatest
      cases hlatest
      cases hraw
      exact .inl (.recency f column rows hkind hf hc hrun hfinish (by simp [hmax]))
    | some w =>
      have hderive : feature.derive = none := by
        cases latest with
        | none =>
          rw [hmax] at hlatest
          exact absurd hlatest (coerceDatetime_ne_none w)
        | some t =>
          cases hraw
          exact (finishes_number rfl).1 hfinish
      exact .inl (.recency f column rows hkind hf hc hrun (finishes_none hderive) fun v hv =>
        ⟨hdated v hv, hderive⟩)
  | latest column hkind hcolumn =>
    rw [hkind, if_neg (by decide), List.append_nil] at hconditions
    obtain ⟨f, hf, hc⟩ := assertedColumn_some.1 hcolumn
    obtain ⟨rows, hrun, hraw⟩ := ask_result.1 h
    cases hraw
    rw [← hconditions] at hrun
    exact .inl (.latest f column rows hkind hf hc hrun hfinish)
  | valueless hkind hcolumn =>
    cases h
    obtain ⟨f, hf, hunmapped⟩ := assertedColumn_none.1 hcolumn
    exact .inr ⟨f, by simp [recipeFields, hkind, hf], hunmapped, hfinish⟩

theorem plan_of_answered {conditions : List (Sql.Condition Value)}
    (hconditions : recipeConditions document feature joinValue predictionTime =
      conditions ++ (if feature.kind = .RELATED_COUNT then
        feature.relatedFilterEquals.toList.flatMap fun value =>
          compareField document (given feature.relatedFilterField) .eq (.str value) else []))
    (h : RecipeAnswered std database document feature joinValue predictionTime) :
    ∃ raw, recipePlan std feature document conditions
      ((given feature.relatedTimestampField).bind (columnOf document)) predictionTime >>=
        Plan.result database = .ok raw ∧ Finishes std feature raw := by
  cases h with
  | count rows hkind hfilter hrun hderive =>
    rw [hkind, if_pos rfl] at hconditions
    rw [hconditions] at hrun
    exact ⟨_, result_of_ask (.count _ hkind (filterCondition_iff.2 ⟨hfilter, rfl⟩)) hrun rfl,
      (finishes_number rfl).2 hderive⟩
  | ratio f column v rows hkind hfield hcolumn hvalue hrun hfinish hderive =>
    rw [hkind, if_neg (by decide), List.append_nil] at hconditions
    rw [hconditions] at hrun
    have hasserted := assertedColumn_some.2 ⟨f, hfield, hcolumn⟩
    refine ⟨_, result_of_ask (.ratio column v hkind hasserted hvalue) hrun rfl, ?_⟩
    by_cases hrows : rows = []
    · simpa [hrows] using hfinish
    · rw [if_neg (by simpa using hrows)]
      exact (finishes_number rfl).2 (hderive hrows)
  | recency f column rows hkind hfield hcolumn hrun hfinish hdated =>
    rw [hkind, if_neg (by decide), List.append_nil] at hconditions
    rw [hconditions] at hrun
    have htime : (given feature.relatedTimestampField).bind (columnOf document) = some column := by
      rw [hfield, Option.bind_some, hcolumn]
    obtain ⟨latest, hlatest⟩ := coerceDatetime_succeeds.2 fun v hv => (hdated v hv).1
    cases latest with
    | none =>
      exact ⟨none, result_of_ask (.recency column hkind htime) hrun
        (except_bind_ok.2 ⟨none, hlatest, rfl⟩), hfinish⟩
    | some t =>
      refine ⟨some (.float (predictionTime.secondsSince t / 86400)),
        result_of_ask (.recency column hkind htime) hrun
          (except_bind_ok.2 ⟨some t, hlatest, rfl⟩), (finishes_number rfl).2 ?_⟩
      cases hmax : Sql.maximum database.compare column rows with
      | none => rw [hmax] at hlatest; cases hlatest
      | some v => exact (hdated v hmax).2
  | latest f column rows hkind hfield hcolumn hrun hfinish =>
    rw [hkind, if_neg (by decide), List.append_nil] at hconditions
    rw [hconditions] at hrun
    have hasserted := assertedColumn_some.2 ⟨f, hfield, hcolumn⟩
    exact ⟨_, result_of_ask (.latest column hkind hasserted) hrun rfl, hfinish⟩

theorem not_unmapped {f : String} (h : Mapped document f) : ¬Unmapped document f := by
  intro hunmapped
  obtain ⟨c, hc⟩ := mapped_iff.1 h
  rw [resolveColumn_unmapped.2 hunmapped] at hc
  cases hc

/-- A recipe without a field of its own has nothing to ask for. -/
theorem plan_of_unread {conditions : List (Sql.Condition Value)} {time : Option String} {f join : String}
    (hjoin : feature.relatedFkFieldOnTarget = some join) (hmapped : Mapped document join)
    (hfield : some f ∈ recipeFields feature) (hunmapped : Unmapped document f) :
    recipePlan std feature document conditions time predictionTime = .ok (.done none) := by
  have hne : join ≠ f := by
    rintro rfl
    exact not_unmapped hmapped hunmapped
  rw [recipeFields, hjoin, List.mem_cons] at hfield
  rcases hfield with hfield | hfield
  · exact absurd (Option.some.inj hfield).symm hne
  cases hk : feature.kind with
  | RELATED_RATIO =>
    rw [hk, List.mem_singleton] at hfield
    exact recipePlan_iff.2 (.unfiltered hk (assertedColumn_none.2 ⟨f, hfield.symm, hunmapped⟩))
  | RELATED_LATEST_VALUE =>
    rw [hk, List.mem_singleton] at hfield
    exact recipePlan_iff.2 (.valueless hk (assertedColumn_none.2 ⟨f, hfield.symm, hunmapped⟩))
  | RELATED_COUNT => rw [hk] at hfield; cases hfield
  | RELATED_RECENCY_DAYS => rw [hk] at hfield; cases hfield
  | DIRECT_FIELD => rw [hk] at hfield; cases hfield
  | DERIVED_FROM_TARGET => rw [hk] at hfield; cases hfield

/-- `compile_and_run_related_feature` gives a value that the feature can take exactly when the table
is approved and the recipe succeeds. -/
theorem recipe_succeeds :
    (∃ raw, (relatedFeaturePlan std feature document joinValue predictionTime connection >>=
        Plan.result database) = .ok raw ∧ Finishes std feature raw) ↔
      Allowlisted document connection ∧
        RecipeSucceeds std database document feature joinValue predictionTime := by
  constructor
  · rintro ⟨raw, h, hfinish⟩
    obtain ⟨plan, hplan, hresult⟩ := except_bind_ok.1 h
    obtain ⟨hallowed, ⟨hjoin, rfl⟩ | ⟨column, time, times, hjoin, htime, htimes, hrecipe⟩⟩ :=
      relatedFeaturePlan_ok hplan
    · obtain ⟨f, hf, hunmapped⟩ := assertedColumn_none.1 hjoin
      cases hresult
      exact ⟨checkAllowlisted_ok.1 hallowed, .unjoined f hf hunmapped hfinish⟩
    · obtain ⟨f, hf, hcolumn⟩ := assertedColumn_some.1 hjoin
      have hmapped : Mapped document f := Option.isSome_iff_exists.2 ⟨column, hcolumn⟩
      obtain ⟨hread, rfl⟩ := timestampColumn_iff.1 htime
      obtain ⟨hwindow, rfl⟩ := timeConditions_iff.1 htimes
      have htimestamp : TimestampReads document feature := fun g hg => ⟨hread g hg, hwindow g hg⟩
      refine ⟨checkAllowlisted_ok.1 hallowed, ?_⟩
      have hresult' := except_bind_ok.2 ⟨plan, hrecipe, hresult⟩
      rcases recipe_of_plan (recipeConditions_eq hf hcolumn) hresult' hfinish with h | ⟨g, hg, hu, h⟩
      · exact .answered f hf hmapped htimestamp h
      · exact .unread f g hf hmapped htimestamp hg hu h
  · rintro ⟨hallowed, h⟩
    cases h with
    | unjoined f hjoin hunmapped hfinish =>
      refine ⟨none, ?_, hfinish⟩
      unfold relatedFeaturePlan
      rw [checkAllowlisted_ok.2 hallowed, assertedColumn_none.2 ⟨f, hjoin, hunmapped⟩]
      rfl
    | unread join f hjoin hmapped htimestamp hfield hunmapped hfinish =>
      obtain ⟨column, hcolumn⟩ := Option.isSome_iff_exists.1 hmapped
      obtain ⟨times, -, hplan⟩ := relatedFeaturePlan_eq hjoin hcolumn htimestamp hallowed
      exact ⟨none, by rw [hplan, plan_of_unread hjoin hmapped hfield hunmapped]; rfl, hfinish⟩
    | answered join hjoin hmapped htimestamp hanswered =>
      obtain ⟨column, hcolumn⟩ := Option.isSome_iff_exists.1 hmapped
      obtain ⟨times, hconditions, hplan⟩ := relatedFeaturePlan_eq hjoin hcolumn htimestamp hallowed
      rw [hplan]
      exact plan_of_answered hconditions hanswered

end

/-! ## One feature -/

/-- The connection of a mapping is there with its engine, and its table is approved. -/
structure Reached (env : Environment) (db : ControlPlane) (ctx : TenantContext)
    (pool : PoolRegistry) (resolved : ResolvedMapping) (connection : CustomerDatabaseConnection)
    (engine : Engine) : Prop where
  connected : ∃ snapshot, connectionAndSnapshotFor db resolved ctx = .ok (connection, snapshot)
  routed : routeOf env db ctx pool connection.id = .ok engine
  allowed : Allowlisted resolved.document connection

/-- What a row has in the column of a field. -/
def rowValue (document : MappingDocument) (row : Sql.Row Value) (fieldName : String) : ScalarValue :=
  (columnOf document fieldName).bind row

inductive FeatureSucceeds (env : Environment) (db : ControlPlane) (ctx : TenantContext)
    (pool : PoolRegistry) (target : MappingDocument) (row : Sql.Row Value)
    (predictionTime : DateTime) (feature : FeatureSpec) : Prop where
  | direct (f : String) (hkind : feature.kind = .DIRECT_FIELD) (hfield : feature.targetField = some f)
      (hvalue : ∀ v, rowValue target row f = some v → Converts env.std feature.dataType v)
  | derived (f name : String) (hkind : feature.kind = .DERIVED_FROM_TARGET)
      (hfield : feature.targetField = some f) (hderive : feature.derive = some name)
      (hname : name ∈ deriveFunctions)
      (hvalue : ∀ v, rowValue target row f = some v → Dated env.std v)
      (hsecondary : ∀ g v, given feature.targetFieldSecondary = some g →
        rowValue target row g = some v → Dated env.std v)
  | unresolved (name : String) (hkind : ¬feature.kind.onTarget)
      (hentity : feature.relatedEntity = some name) (hresolve : resolve db name ctx = .ok none)
  | unjoined (f : String) (hkind : ¬feature.kind.onTarget)
      (hjoin : feature.relatedFkFieldOnTarget = some f) (hvalue : rowValue target row f = none)
  | recipe (name f : String) (related : ResolvedMapping) (joinValue : Value)
      (connection : CustomerDatabaseConnection) (engine : Engine) (hkind : ¬feature.kind.onTarget)
      (hentity : feature.relatedEntity = some name)
      (hresolve : resolve db name ctx = .ok (some related))
      (hjoin : feature.relatedFkFieldOnTarget = some f)
      (hvalue : rowValue target row f = some joinValue)
      (hreached : Reached env db ctx pool related connection engine)
      (hrecipe : RecipeSucceeds env.std (env.world engine) related.document feature joinValue
        predictionTime)

section

variable {env : Environment} {db : ControlPlane} {ctx : TenantContext} {pool : PoolRegistry}
  {target : MappingDocument} {row : Sql.Row Value} {targetRow : FieldRow}
  {relatedCache : Dict String (Option ResolvedMapping)} {predictionTime : DateTime}
  {feature : FeatureSpec}

/-- The target row of the call has the values of the row, in the fields that the feature reads. -/
def ReadsRow (target : MappingDocument) (row : Sql.Row Value) (targetRow : FieldRow)
    (feature : FeatureSpec) : Prop :=
  ∀ f ∈ [feature.targetField, feature.targetFieldSecondary,
    feature.relatedFkFieldOnTarget].filterMap given, targetRow.value f = rowValue target row f

/-- The cache of the call has the mapping that the feature's entity resolves to. -/
def CachedFor (db : ControlPlane) (ctx : TenantContext)
    (relatedCache : Dict String (Option ResolvedMapping)) (feature : FeatureSpec) : Prop :=
  ∀ name, given feature.relatedEntity = some name →
    resolve db name ctx = .ok ((relatedCache.get? name).getD none)

theorem succeeds_direct_iff {f : String} (hkind : feature.kind = .DIRECT_FIELD)
    (hf : feature.targetField = some f) :
    FeatureSucceeds env db ctx pool target row predictionTime feature ↔
      ∀ v, rowValue target row f = some v → Converts env.std feature.dataType v := by
  refine ⟨fun h => ?_, .direct f hkind hf⟩
  have honTarget : feature.kind.onTarget := by simp [FeatureKind.onTarget, hkind]
  cases h with
  | direct f' _ hf' hconverts =>
    obtain rfl := Option.some.inj (hf.symm.trans hf')
    exact hconverts
  | derived _ _ hderived => rw [hkind] at hderived; cases hderived
  | unresolved _ hrelated => exact absurd honTarget hrelated
  | unjoined _ hrelated => exact absurd honTarget hrelated
  | recipe _ _ _ _ _ _ hrelated => exact absurd honTarget hrelated

theorem succeeds_derived_iff {f name : String} (hkind : feature.kind = .DERIVED_FROM_TARGET)
    (hf : feature.targetField = some f) (hname : feature.derive = some name) :
    FeatureSucceeds env db ctx pool target row predictionTime feature ↔
      name ∈ deriveFunctions ∧ (∀ v, rowValue target row f = some v → Dated env.std v) ∧
        ∀ g v, given feature.targetFieldSecondary = some g → rowValue target row g = some v →
          Dated env.std v := by
  constructor
  · intro h
    have honTarget : feature.kind.onTarget := by simp [FeatureKind.onTarget, hkind]
    cases h with
    | derived f' name' _ hf' hname' hknown hdated hdated' =>
      obtain rfl := Option.some.inj (hf.symm.trans hf')
      obtain rfl := Option.some.inj (hname.symm.trans hname')
      exact ⟨hknown, hdated, hdated'⟩
    | direct _ hdirect => rw [hkind] at hdirect; cases hdirect
    | unresolved _ hrelated => exact absurd honTarget hrelated
    | unjoined _ hrelated => exact absurd honTarget hrelated
    | recipe _ _ _ _ _ _ hrelated => exact absurd honTarget hrelated
  · rintro ⟨hknown, hdated, hdated'⟩
    exact .derived f name hkind hf hname hknown hdated hdated'

theorem succeeds_joined_iff {name f : String} {related : ResolvedMapping} {joinValue : Value}
    (hkind : ¬feature.kind.onTarget) (hname : feature.relatedEntity = some name)
    (hresolve : resolve db name ctx = .ok (some related))
    (hf : feature.relatedFkFieldOnTarget = some f) (hjoin : rowValue target row f = some joinValue) :
    FeatureSucceeds env db ctx pool target row predictionTime feature ↔
      ∃ connection engine, Reached env db ctx pool related connection engine ∧
        RecipeSucceeds env.std (env.world engine) related.document feature joinValue
          predictionTime := by
  constructor
  · intro h
    cases h with
    | recipe name' f' related' joinValue' connection engine _ hname' hresolve' hf' hjoin' hreached
        hrecipe =>
      obtain rfl := Option.some.inj (hname.symm.trans hname')
      obtain rfl := Option.some.inj (hf.symm.trans hf')
      obtain rfl := Option.some.inj (Except.ok.inj (hresolve.symm.trans hresolve'))
      obtain rfl := Option.some.inj (hjoin.symm.trans hjoin')
      exact ⟨connection, engine, hreached, hrecipe⟩
    | direct _ hdirect => rw [hdirect] at hkind; exact absurd rfl hkind
    | derived _ _ hderived => rw [hderived] at hkind; exact absurd rfl hkind
    | unresolved name' _ hname' hresolve' =>
      obtain rfl := Option.some.inj (hname.symm.trans hname')
      rw [hresolve] at hresolve'
      cases hresolve'
    | unjoined f' _ hf' hjoin' =>
      obtain rfl := Option.some.inj (hf.symm.trans hf')
      rw [hjoin] at hjoin'
      cases hjoin'
  · rintro ⟨connection, engine, hreached, hrecipe⟩
    exact .recipe name f related joinValue connection engine hkind hname hresolve hf hjoin hreached
      hrecipe

theorem targetOutcome_succeeds (hrow : ReadsRow target row targetRow feature)
    (hkind : feature.kind.onTarget) :
    (∃ outcome value, targetOutcome env.std feature targetRow predictionTime = .ok outcome ∧
        Features.normalize env.std feature outcome.raw = .ok value) ↔
      FeatureSucceeds env db ctx pool target row predictionTime feature := by
  obtain ⟨f, hf, hgiven⟩ := given_of_truthy (feature.target_field hkind)
  have hvalue : targetRow.value f = rowValue target row f := hrow f (by simp [hgiven])
  have hsecondary : ((given feature.targetFieldSecondary).map targetRow.value).getD none =
      (given feature.targetFieldSecondary).bind (rowValue target row) := by
    cases hg : given feature.targetFieldSecondary with
    | none => rfl
    | some g => exact hrow g (by simp [hg])
  unfold targetOutcome
  simp only [hf, hvalue, hsecondary]
  by_cases hderived : feature.kind = .DERIVED_FROM_TARGET
  · obtain ⟨name, hname, -⟩ := given_of_truthy (feature.derive_named hderived)
    rw [if_pos hderived, hname, succeeds_derived_iff hderived hf hname]
    dsimp only
    constructor
    · rintro ⟨outcome, value, h, -⟩
      obtain ⟨raw, hraw, -⟩ := except_bind_ok.1 h
      obtain ⟨hknown, hdated, hdated'⟩ := applyDerive_succeeds.1 ⟨raw, hraw⟩
      exact ⟨hknown, hdated, fun g v hg hv => hdated' v (by rw [hg]; exact hv)⟩
    · rintro ⟨hknown, hdated, hdated'⟩
      obtain ⟨raw, hraw⟩ : ∃ raw, applyDerive env.std name (rowValue target row f)
          ((given feature.targetFieldSecondary).bind (rowValue target row)) predictionTime =
            .ok raw := by
        refine applyDerive_succeeds.2 ⟨hknown, hdated, fun v hv => ?_⟩
        obtain ⟨g, hg, hv⟩ := Option.bind_eq_some_iff.1 hv
        exact hdated' g v hg hv
      obtain ⟨value, hvalue⟩ := applyDerive_normalizes hraw feature
      rw [hraw]
      exact ⟨_, value, rfl, hvalue⟩
  · have hdirect : feature.kind = .DIRECT_FIELD := by
      simpa [FeatureKind.onTarget, hderived] using hkind
    rw [if_neg hderived, succeeds_direct_iff hdirect hf]
    constructor
    · rintro ⟨outcome, value, h, hvalue⟩
      cases h
      exact normalize_succeeds.1 ⟨value, hvalue⟩
    · intro hconverts
      obtain ⟨value, hvalue⟩ := normalize_succeeds.2 hconverts
      exact ⟨_, value, rfl, hvalue⟩

/-- What a related feature gives, once its join value is known. -/
theorem relatedOutcome_joined {name f : String} {related : ResolvedMapping} {joinValue : Value}
    (hentity : feature.relatedEntity = some name) (hjoin : feature.relatedFkFieldOnTarget = some f)
    (hcached : (relatedCache.get? name).getD none = some related)
    (hresolve : resolve db name ctx = .ok (some related))
    (hvalue : targetRow.value f = some joinValue) :
    ∃ version, relatedOutcome env db ctx pool relatedCache targetRow predictionTime feature = do
      let (connection, _) ← connectionAndSnapshotFor db related ctx
      let engine ← routeOf env db ctx pool connection.id
      let raw ← relatedFeaturePlan env.std feature related.document joinValue predictionTime
        connection >>= Plan.result (env.world engine)
      return { raw := ← deriveRelated env.std feature raw predictionTime,
               version := some (name, version) } := by
  obtain ⟨version, -, -, hversion, -⟩ := resolve_some hresolve
  refine ⟨version.id, ?_⟩
  unfold relatedOutcome
  simp only [hentity, hjoin, hcached, Option.bind_some, hversion, hvalue]

theorem relatedOutcome_succeeds (hrow : ReadsRow target row targetRow feature)
    (hcache : CachedFor db ctx relatedCache feature) (hkind : ¬feature.kind.onTarget) :
    (∃ outcome value, relatedOutcome env db ctx pool relatedCache targetRow predictionTime feature =
        .ok outcome ∧ Features.normalize env.std feature outcome.raw = .ok value) ↔
      FeatureSucceeds env db ctx pool target row predictionTime feature := by
  obtain ⟨name, hname, hgname⟩ := given_of_truthy (feature.related_fields hkind).1
  obtain ⟨f, hf, hgiven⟩ := given_of_truthy (feature.related_fields hkind).2
  have hvalue : targetRow.value f = rowValue target row f := hrow f (by simp [hgiven])
  have hresolve := hcache name hgname
  cases hcached : (relatedCache.get? name).getD none with
  | none =>
    rw [hcached] at hresolve
    refine ⟨fun _ => .unresolved name hkind hname hresolve, fun _ => ?_⟩
    refine ⟨{ raw := none, skipped := some ("No active mapping for " ++ name) },
      missingValue feature, ?_, normalize_none env.std feature⟩
    unfold relatedOutcome
    simp only [hname, hf, hcached]
  | some related =>
    rw [hcached] at hresolve
    obtain ⟨version, -, -, hversion, -⟩ := resolve_some hresolve
    cases hjoin : rowValue target row f with
    | none =>
      refine ⟨fun _ => .unjoined f hkind hf hjoin, fun _ => ?_⟩
      refine ⟨{ raw := none, skipped := some "Join field has no value on target row",
                version := some (name, version.id) },
        missingValue feature, ?_, normalize_none env.std feature⟩
      unfold relatedOutcome
      simp only [hname, hf, hcached, Option.bind_some, hversion, hvalue, hjoin]
    | some joinValue =>
      obtain ⟨version, houtcome⟩ := relatedOutcome_joined hname hf hcached hresolve
        (hvalue.trans hjoin)
      rw [houtcome, succeeds_joined_iff hkind hname hresolve hf hjoin]
      constructor
      · rintro ⟨outcome, value, h, hnormalize⟩
        obtain ⟨⟨connection, snapshot⟩, hconnection, h⟩ := except_bind_ok.1 h
        obtain ⟨engine, hengine, h⟩ := except_bind_ok.1 h
        obtain ⟨raw, hraw, h⟩ := except_bind_ok.1 h
        obtain ⟨r, hderive, h⟩ := except_bind_ok.1 h
        cases h
        obtain ⟨hallowed, hrecipe⟩ :=
          recipe_succeeds.1 ⟨raw, hraw, finishes_iff.2 ⟨r, value, hderive, hnormalize⟩⟩
        exact ⟨connection, engine, ⟨⟨snapshot, hconnection⟩, hengine, hallowed⟩, hrecipe⟩
      · rintro ⟨connection, engine, ⟨⟨snapshot, hconnection⟩, hengine, hallowed⟩, hrecipe⟩
        obtain ⟨raw, hraw, hfinish⟩ := recipe_succeeds.2 ⟨hallowed, hrecipe⟩
        obtain ⟨r, value, hderive, hnormalize⟩ := finishes_iff.1 hfinish
        refine ⟨{ raw := r, version := some (name, version) }, value, ?_, hnormalize⟩
        rw [hconnection, except_ok_bind]
        dsimp only
        rw [hengine, except_ok_bind, hraw, except_ok_bind, hderive]
        rfl

/-- A feature gives a value of its data type exactly when it succeeds. -/
theorem featureOutcome_succeeds (hrow : ReadsRow target row targetRow feature)
    (hcache : CachedFor db ctx relatedCache feature) :
    (∃ outcome value, featureOutcome env db ctx pool relatedCache targetRow predictionTime feature =
        .ok outcome ∧ Features.normalize env.std feature outcome.raw = .ok value) ↔
      FeatureSucceeds env db ctx pool target row predictionTime feature := by
  unfold featureOutcome
  by_cases hkind : feature.kind.onTarget
  · rw [if_pos hkind]
    exact targetOutcome_succeeds hrow hkind
  · rw [if_neg hkind]
    exact relatedOutcome_succeeds hrow hcache hkind

end

/-! ## The call -/

/-- The statement for the row of that reference. -/
def AsksForTarget (std : Stdlib) (document : MappingDocument) (businessReference : String)
    (fieldNames : List String) (select : Sql.Select Value) : Prop :=
  ∃ identity columns, identityColumn document = .ok identity ∧
    addColumns document (Dict.ofList [identity]) (std.setOrder fieldNames) = .ok columns ∧
    select = targetSelect document columns identity.2 businessReference

/-- The identity is one column, no needed field is static or derived, and the server answers. -/
structure TargetReads (std : Stdlib) (database : CustomerDatabase) (document : MappingDocument)
    (businessReference : String) (fieldNames : List String) : Prop where
  identity : HasIdentity document
  fields : ∀ f ∈ fieldNames, Readable document f
  answered : ∀ select, AsksForTarget std document businessReference fieldNames select →
    ∃ rows, database.run select = .ok rows

section

variable {std : Stdlib} {database : CustomerDatabase} {document : MappingDocument}
  {connection : CustomerDatabaseConnection} {businessReference : String} {fieldNames : List String}
  {row : Sql.Row Value} {record : FieldRow}

/-- A record that is fetched has the values of the row that the server gives first. -/
theorem targetRow_found
    (hfound : ∀ select rows, AsksForTarget std document businessReference fieldNames select →
      database.run select = .ok rows → rows.head? = some row)
    (h : targetRowPlan std document businessReference fieldNames connection >>=
      Plan.result database = .ok (some record)) :
    Allowlisted document connection ∧
      TargetReads std database document businessReference fieldNames ∧
      ∀ f ∈ fieldNames, record.value f = rowValue document row f := by
  obtain ⟨plan, hplan, h⟩ := except_bind_ok.1 h
  obtain ⟨hallowed, identity, columns, hidentity, hcolumns, rfl⟩ := targetRowPlan_ok hplan
  obtain ⟨rows, hrun, h⟩ := ask_result.1 h
  have hasked : AsksForTarget std document businessReference fieldNames _ :=
    ⟨identity, columns, hidentity, hcolumns, rfl⟩
  rw [hfound _ rows hasked hrun] at h
  cases h
  obtain ⟨-, hresolved, -⟩ := addColumns_ok (resolved_identity hidentity) hcolumns
  refine ⟨checkAllowlisted_ok.1 hallowed, ⟨identityColumn_iff.2 ⟨identity, hidentity⟩, ?_, ?_⟩, ?_⟩
  · intro f hf
    exact readable_of_addColumns (resolved_identity hidentity) hcolumns f
      ((std.mem_setOrder _ _).2 hf)
  · rintro select ⟨identity', columns', hidentity', hcolumns', rfl⟩
    obtain rfl := Except.ok.inj (hidentity.symm.trans hidentity')
    obtain rfl := Except.ok.inj (hcolumns.symm.trans hcolumns')
    exact ⟨rows, hrun⟩
  · intro f hf
    have hcolumn := hresolved f ((std.mem_setOrder _ _).2 hf)
    rw [value_readRow, rowValue, (readable_of_ok hcolumn).2]

theorem targetRow_fetched (hallowed : Allowlisted document connection)
    (hreads : TargetReads std database document businessReference fieldNames)
    (hfound : ∀ select rows, AsksForTarget std document businessReference fieldNames select →
      database.run select = .ok rows → rows.head? = some row) :
    ∃ record, targetRowPlan std document businessReference fieldNames connection >>=
      Plan.result database = .ok (some record) := by
  obtain ⟨identity, hidentity⟩ := identityColumn_iff.1 hreads.identity
  obtain ⟨columns, hcolumns⟩ := addColumns_of_readable (Dict.ofList [identity])
    fun f hf => hreads.fields f ((std.mem_setOrder _ _).1 hf)
  have hasked : AsksForTarget std document businessReference fieldNames _ :=
    ⟨identity, columns, hidentity, hcolumns, rfl⟩
  obtain ⟨rows, hrun⟩ := hreads.answered _ hasked
  refine ⟨readRow columns row, ?_⟩
  unfold targetRowPlan
  rw [checkAllowlisted_ok.2 hallowed, except_ok_bind, hidentity, except_ok_bind]
  dsimp only
  rw [hcolumns, except_ok_bind, pure_bind]
  refine ask_result.2 ⟨rows, hrun, ?_⟩
  rw [hfound _ rows hasked hrun]
  rfl

end

section

variable {env : Environment} {db : ControlPlane} {ctx : TenantContext} {pool : PoolRegistry}
  {contract : FeatureContract} {relatedCache : Dict String (Option ResolvedMapping)}

/-- Every entity that the contract names is in the cache of a call. -/
theorem mem_relatedCache {names : List String} {cache : Dict String (Option ResolvedMapping)}
    (h : names.foldlM (fun related name => do return related.set name (← resolve db name ctx))
      cache = .ok relatedCache) {name : String} (hname : name ∈ names ∨ (cache.get? name).isSome) :
    (relatedCache.get? name).isSome := by
  induction names generalizing cache with
  | nil =>
    cases h
    simpa using hname
  | cons first rest ih =>
    rw [List.foldlM_cons] at h
    obtain ⟨cache', hstep, h⟩ := except_bind_ok.1 h
    obtain ⟨resolved, -, hstep⟩ := except_bind_ok.1 hstep
    cases hstep
    refine ih h ?_
    rw [Keyed.Dict.get?_set]
    by_cases hfirst : name = first
    · simp [hfirst]
    · rw [if_neg hfirst]
      simpa [hfirst] using hname

theorem cachedFor_of_resolved
    (h : resolveRelatedEntities env.std db contract ctx = .ok relatedCache) {feature : FeatureSpec}
    (hmem : feature ∈ contract.features) : CachedFor db ctx relatedCache feature := by
  intro name hname
  have hin : (relatedCache.get? name).isSome := by
    refine mem_relatedCache h (.inl ((env.std.mem_setOrder _ _).2 ?_))
    exact List.mem_filterMap.2 ⟨feature, hmem, hname⟩
  obtain ⟨resolved, hresolved⟩ := Option.isSome_iff_exists.1 hin
  rw [hresolved, Option.getD_some]
  exact resolve_of_relatedCache h hresolved

/-- The row that the reference selects, wherever it is asked for; it has a value for each needed
field that is mapped. -/
structure TargetRow (env : Environment) (db : ControlPlane) (ctx : TenantContext)
    (pool : PoolRegistry) (contract : FeatureContract) (businessReference : String)
    (target : ResolvedMapping) (row : Sql.Row Value) : Prop where
  found : ∀ connection engine select rows, Reached env db ctx pool target connection engine →
    AsksForTarget env.std target.document businessReference (neededTargetFields contract) select →
    (env.world engine).run select = .ok rows → rows.head? = some row
  nonNull : ∀ f ∈ neededTargetFields contract, Mapped target.document f →
    (rowValue target.document row f).isSome

variable {businessReference : String} {predictionTime : DateTime} {target : ResolvedMapping}
  {row : Sql.Row Value}

/-- The target row of the call has its values for every feature. -/
theorem readsRow_of_needed {targetRow : FieldRow} {feature : FeatureSpec}
    (h : ∀ f ∈ neededTargetFields contract, targetRow.value f = rowValue target.document row f)
    (hmem : feature ∈ contract.features) : ReadsRow target.document row targetRow feature :=
  fun f hf => h f (List.mem_flatMap.2 ⟨feature, hmem, hf⟩)

theorem features_succeed {outcomeOf : FeatureSpec → Except PyError Outcome}
    (features : List FeatureSpec) (extracted : Extracted) :
    (∃ extracted', features.foldlM (fun extracted feature => do
        recorded env.std extracted feature (← outcomeOf feature)) extracted = .ok extracted') ↔
      ∀ feature ∈ features, ∃ outcome value, outcomeOf feature = .ok outcome ∧
        Features.normalize env.std feature outcome.raw = .ok value := by
  refine except_foldlM_succeeds (fun extracted feature _ => ?_) extracted
  constructor
  · rintro ⟨extracted', h⟩
    obtain ⟨outcome, houtcome, h⟩ := except_bind_ok.1 h
    obtain ⟨value, hvalue, -⟩ := recorded_features h
    exact ⟨outcome, value, houtcome, hvalue⟩
  · rintro ⟨outcome, value, houtcome, hvalue⟩
    rw [houtcome, except_ok_bind]
    unfold recorded
    rw [hvalue]
    exact ⟨_, rfl⟩

/-- What is behind a batch. -/
theorem extractOf_batch (htarget : Features.resolveTarget db contract.targetEntity ctx = .ok target)
    (hcache : resolveRelatedEntities env.std db contract ctx = .ok relatedCache)
    (hrow : TargetRow env db ctx pool contract businessReference target row) {batch : FeatureBatch}
    (h : extractOf env db ctx pool contract businessReference predictionTime = .ok batch) :
    ∃ connection engine targetRow extracted, Reached env db ctx pool target connection engine ∧
      TargetReads env.std (env.world engine) target.document businessReference
        (neededTargetFields contract) ∧
      (∀ f ∈ neededTargetFields contract, targetRow.value f = rowValue target.document row f) ∧
      contract.features.foldlM (fun extracted feature => do
        recorded env.std extracted feature (← featureOutcome env db ctx pool relatedCache targetRow
          predictionTime feature)) {} = .ok extracted ∧
      batch.features = extracted.features := by
  unfold extractOf at h
  rw [htarget, hcache] at h
  simp only [except_ok_bind] at h
  obtain ⟨⟨connection, snapshot⟩, hconnection, h⟩ := except_bind_ok.1 h
  obtain ⟨engine, hengine, h⟩ := except_bind_ok.1 h
  obtain ⟨fetched, hfetched, h⟩ := except_bind_ok.1 h
  cases fetched with
  | none => cases h
  | some targetRow =>
    obtain ⟨extracted, hextracted, h⟩ := except_bind_ok.1 h
    have hallowed : Allowlisted target.document connection := by
      obtain ⟨plan, hplan, -⟩ := except_bind_ok.1 hfetched
      exact checkAllowlisted_ok.1 (targetRowPlan_ok hplan).1
    have hreached : Reached env db ctx pool target connection engine :=
      ⟨⟨snapshot, hconnection⟩, hengine, hallowed⟩
    obtain ⟨-, hreads, hvalues⟩ := targetRow_found
      (fun select rows => hrow.found connection engine select rows hreached) hfetched
    refine ⟨connection, engine, targetRow, extracted, hreached, hreads, hvalues, hextracted, ?_⟩
    cases hversion : target.schemaMapping.activeVersionId with
    | none => rw [hversion] at h; cases h
    | some version =>
      rw [hversion] at h
      cases h
      rfl

/-- A call gives a batch exactly if the target row can be read and every feature succeeds. -/
theorem extractOf_succeeds (htarget : Features.resolveTarget db contract.targetEntity ctx = .ok target)
    (hcache : resolveRelatedEntities env.std db contract ctx = .ok relatedCache)
    (hrow : TargetRow env db ctx pool contract businessReference target row) :
    (∃ batch, extractOf env db ctx pool contract businessReference predictionTime = .ok batch) ↔
      (∃ connection engine, Reached env db ctx pool target connection engine ∧
        TargetReads env.std (env.world engine) target.document businessReference
          (neededTargetFields contract)) ∧
      ∀ feature ∈ contract.features,
        FeatureSucceeds env db ctx pool target.document row predictionTime feature := by
  have hsucceeds {targetRow : FieldRow}
      (h : ∀ f ∈ neededTargetFields contract, targetRow.value f = rowValue target.document row f)
      (feature : FeatureSpec) (hmem : feature ∈ contract.features) :=
    @featureOutcome_succeeds env db ctx pool target.document row targetRow relatedCache
      predictionTime feature (readsRow_of_needed h hmem) (cachedFor_of_resolved hcache hmem)
  obtain ⟨version, hversion⟩ : ∃ version, target.schemaMapping.activeVersionId = some version := by
    obtain ⟨resolved, hresolved, htarget⟩ := except_bind_ok.1 htarget
    cases resolved with
    | none => cases htarget
    | some resolved =>
      cases htarget
      obtain ⟨version, -, -, hversion, -⟩ := resolve_some hresolved
      exact ⟨version.id, hversion⟩
  constructor
  · rintro ⟨batch, h⟩
    obtain ⟨connection, engine, targetRow, extracted, hreached, hreads, hvalues, hextracted, -⟩ :=
      extractOf_batch htarget hcache hrow h
    refine ⟨⟨connection, engine, hreached, hreads⟩, fun feature hmem => ?_⟩
    exact (hsucceeds hvalues feature hmem).1
      ((features_succeed contract.features {}).1 ⟨extracted, hextracted⟩ feature hmem)
  · rintro ⟨⟨connection, engine, hreached, hreads⟩, hfeatures⟩
    have hfound := fun select rows => hrow.found connection engine select rows hreached
    obtain ⟨⟨snapshot, hconnection⟩, hengine, hallowed⟩ := hreached
    obtain ⟨targetRow, hfetched⟩ := targetRow_fetched hallowed hreads hfound
    obtain ⟨-, -, hvalues⟩ := targetRow_found hfound hfetched
    obtain ⟨extracted, hextracted⟩ := (features_succeed contract.features {}).2
      fun feature hmem => (hsucceeds hvalues feature hmem).2 (hfeatures feature hmem)
    unfold extractOf
    rw [htarget, except_ok_bind, hconnection, except_ok_bind]
    dsimp only
    rw [hengine, except_ok_bind, hfetched, except_ok_bind]
    dsimp only
    rw [hcache, except_ok_bind, hextracted, except_ok_bind, hversion]
    exact ⟨_, rfl⟩

end

end Extraction

end HermesRpt
