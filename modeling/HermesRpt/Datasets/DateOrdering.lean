import HermesRpt.Extraction.OwnLabel

/-!
# HermesRpt.Datasets.DateOrdering

The rows that a build drops for their own timestamps, and the quality issue that should count them.
A row is dropped unless its arrival is after its prediction time; the check flags it only when the
arrival is before it.

* `invalidDates`       : the check, as a build makes it.
* `Dropped`            : a computed label that is not used.
* `counted_split`      : what one row adds to the count of the issue.
* `drops_flagged_iff`  : the dropped rows are counted when no two timestamps are of one instant.
-/

namespace HermesRpt

namespace Datasets

open Effect Features

/-- The `invalid_dates` issue of a build. -/
def invalidDates (env : Environment) (rows : List FieldRow) (identityField : String)
    (label : LabelDefinition) : Option QualityIssue :=
  if "actual_arrival_at" ∈ label.sourceFields then
    checkInvalidDateOrdering env.std rows identityField label.timeField "actual_arrival_at"
      "invalid_dates"
  else none

/-- The rows that an issue counts; no issue counts none. -/
def rowsCounted (issue : Option QualityIssue) : Nat := (issue.map (·.count)).getD 0

/-- The row has a label, but its timestamps are invalid. -/
structure Dropped (label : LabelDefinition) (row : FieldRow) : Prop where
  computed : ∃ value, computeLabel label.functionName row label.kwargs = .ok (some value)
  invalid : isPointInTimeValid row label = false

/-- Every dropped row is counted: without it the issue counts one row less. -/
def DropsFlagged (env : Environment) (identityField : String) (label : LabelDefinition)
    (rows : List FieldRow) : Prop :=
  ∀ before row after, rows = before ++ row :: after → Dropped label row →
    rowsCounted (invalidDates env rows identityField label) =
      rowsCounted (invalidDates env (before ++ after) identityField label) + 1

/-- Both timestamps of the row are there and of one instant. -/
def SameInstant (label : LabelDefinition) (row : FieldRow) : Prop :=
  ∃ predictionTime arrival, row.value label.timeField = some (.datetime predictionTime) ∧
    row.value "actual_arrival_at" = some (.datetime arrival) ∧
    arrival.micros = predictionTime.micros

section

variable {env : Environment} {rows before after : List FieldRow} {row : FieldRow}
  {identityField : String} {label : LabelDefinition}

/-- The issue is among those of the build. -/
theorem invalidDates_mem {issues : List (Option QualityIssue)}
    (h : rowIssues env rows identityField label = .ok issues) :
    invalidDates env rows identityField label ∈ issues := by
  obtain ⟨duplicates, -, h⟩ := except_bind_ok.1 h
  dsimp only at h
  split at h
  · obtain ⟨statuses, -, h⟩ := except_bind_ok.1 h
    cases h
    simp [invalidDates]
  · cases h
    simp [invalidDates]

/-- A dropped row has no label in the dataset. -/
theorem Dropped.labelOf (h : Dropped label row) : labelOf label row = .ok none := by
  obtain ⟨value, hvalue⟩ := h.computed
  rw [Datasets.labelOf, hvalue, except_ok_bind]
  simp [h.invalid]
  rfl

theorem rowsCounted_issueAbout {check message : String} {severity : QualitySeverity}
    {ids : List String} : rowsCounted (issueAbout check severity ids message) = ids.length := by
  rw [issueAbout]
  by_cases h : ids = []
  · simp [h, rowsCounted]
  · simp [h, rowsCounted]

/-- The row's arrival is before its prediction time. -/
def arrivesBefore (label : LabelDefinition) (row : FieldRow) : Bool :=
  match row.value label.timeField, row.value "actual_arrival_at" with
  | some (.datetime earlier), some (.datetime later) => later < earlier
  | _, _ => false

theorem rowsCounted_invalidDates (hfield : "actual_arrival_at" ∈ label.sourceFields) :
    rowsCounted (invalidDates env rows identityField label) =
      (rows.filter (arrivesBefore label)).length := by
  rw [invalidDates, if_pos hfield, checkInvalidDateOrdering, rowsCounted_issueAbout, badIds,
    List.length_map]
  rfl

/-- One row adds one to the count exactly when it is flagged. -/
theorem counted_split (hfield : "actual_arrival_at" ∈ label.sourceFields) :
    rowsCounted (invalidDates env (before ++ row :: after) identityField label) =
        rowsCounted (invalidDates env (before ++ after) identityField label) + 1 ↔
      arrivesBefore label row = true := by
  rw [rowsCounted_invalidDates hfield, rowsCounted_invalidDates hfield]
  simp only [List.filter_append, List.filter_cons, List.length_append]
  cases arrivesBefore label row with
  | true => simp; omega
  | false => simp

/-- A row with invalid timestamps is flagged unless they are of one instant. -/
theorem arrivesBefore_iff (h : isPointInTimeValid row label = false) :
    arrivesBefore label row = true ↔ ¬SameInstant label row := by
  unfold isPointInTimeValid at h
  unfold arrivesBefore SameInstant
  split at h
  · rename_i predictionTime arrival htime harrival
    have hle : ¬predictionTime.micros < arrival.micros := of_decide_eq_false h
    rw [htime, harrival]
    simp only [decide_eq_true_eq, Option.some.injEq, Value.datetime.injEq]
    constructor
    · rintro hlt ⟨_, _, rfl, rfl, heq⟩
      have hlt : arrival.micros < predictionTime.micros := hlt
      omega
    · intro hne
      have hne : arrival.micros ≠ predictionTime.micros := fun heq => hne ⟨_, _, rfl, rfl, heq⟩
      show arrival.micros < predictionTime.micros
      omega
  · cases h

/-- Timestamps of one instant are invalid. -/
theorem SameInstant.invalid (h : SameInstant label row) : isPointInTimeValid row label = false := by
  obtain ⟨predictionTime, arrival, htime, harrival, heq⟩ := h
  rw [isPointInTimeValid, htime, harrival]
  refine decide_eq_false fun hlt => ?_
  have hlt : predictionTime.micros < arrival.micros := hlt
  omega

end

/-- The dropped rows are counted exactly when no row with a label arrives at its prediction time. -/
theorem drops_flagged_iff (env : Environment) (definition : DatasetDefinition)
    (identityField : String) (rows : List FieldRow)
    (hfield : "actual_arrival_at" ∈ definition.label.sourceFields) :
    DropsFlagged env identityField definition.label rows ↔
      ∀ row ∈ rows, (∃ value, computeLabel definition.label.functionName row
        definition.label.kwargs = .ok (some value)) → ¬SameInstant definition.label row := by
  constructor
  · intro h row hrow hcomputed hsame
    obtain ⟨before, after, rfl⟩ := List.append_of_mem hrow
    have hcount := h before row after rfl ⟨hcomputed, hsame.invalid⟩
    exact (arrivesBefore_iff hsame.invalid).1 ((counted_split hfield).1 hcount) hsame
  · rintro h before row after rfl hdropped
    have hne : ¬SameInstant definition.label row :=
      h row (by simp) hdropped.computed
    exact (counted_split hfield).2 ((arrivesBefore_iff hdropped.invalid).2 hne)

namespace Sample

theorem tripArriving_keys :
    ["trip_id", "planned_departure_at", "status", "actual_arrival_at"].Nodup := by decide

/-- A cancelled trip with a recorded arrival. -/
def tripArriving (arrival : DateTime) : FieldRow :=
  ⟨[("trip_id", some (.str "t1")), ("planned_departure_at", some (.datetime ⟨2000, 0⟩)),
    ("status", some (.str "cancelled")), ("actual_arrival_at", some (.datetime arrival))],
    tripArriving_keys⟩

end Sample

theorem drops_flagged_iff_sample :
    DropsFlagged Extraction.Sample.planned "trip_id" Extraction.Sample.delays.label
        [Sample.tripArriving ⟨1000, 0⟩] ↔
      ∀ row ∈ [Sample.tripArriving ⟨1000, 0⟩], (∃ value, computeLabel
        Extraction.Sample.delays.label.functionName row Extraction.Sample.delays.label.kwargs =
          .ok (some value)) → ¬SameInstant Extraction.Sample.delays.label row :=
  drops_flagged_iff Extraction.Sample.planned Extraction.Sample.delays "trip_id"
    [Sample.tripArriving ⟨1000, 0⟩] (by decide)

/-- A trip that arrives at the instant of its departure is dropped, and nothing is flagged. -/
theorem instant_trip_unflagged :
    Dropped Extraction.Sample.delays.label (Sample.tripArriving ⟨2000, 0⟩) ∧
      invalidDates Extraction.Sample.planned [Sample.tripArriving ⟨2000, 0⟩] "trip_id"
        Extraction.Sample.delays.label = none ∧
      ¬DropsFlagged Extraction.Sample.planned "trip_id" Extraction.Sample.delays.label
        [Sample.tripArriving ⟨2000, 0⟩] := by
  have hdropped : Dropped Extraction.Sample.delays.label (Sample.tripArriving ⟨2000, 0⟩) :=
    ⟨⟨1, by decide⟩, by decide⟩
  refine ⟨hdropped, by decide, fun h => ?_⟩
  have hcount := h [] (Sample.tripArriving ⟨2000, 0⟩) [] rfl hdropped
  revert hcount
  decide

end Datasets

end HermesRpt
