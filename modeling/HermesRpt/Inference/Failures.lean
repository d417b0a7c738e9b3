import HermesRpt.Inference.FailureIsolation
import HermesRpt.Inference.Outline
import HermesRpt.Extraction.Sample

/-!
# HermesRpt.Inference.Failures

What a prediction that fails leaves in the database. The `except` branch of the service flushes the
status and the event into the session of the request; the endpoint raises before its commit.

* `FailsAfterLookup`             : the request found its task and did not answer with a prediction.
* `RowOnRecord`, `EventOnRecord` : what is committed of the failure.
* `failed_prediction_unrecorded` : neither of them, wherever the request fails.
-/

namespace HermesRpt

namespace Inference

namespace Service

open Registry Features
open Async Code

section

variable {libs : Libraries}

/-- A request that may be broken off before one of its effects. -/
def attend (predictors : Predictors libs) (fault : Trace (Reply libs) → Option PyError)
    (call : PredictCall) (s : Shared libs) :
    Except PyError Response × Trace (Reply libs) × Shared libs :=
  serve handle fault [] (program predictors call) s

def FailsAfterLookup (predictors : Predictors libs) (fault : Trace (Reply libs) → Option PyError)
    (call : PredictCall) (s : Shared libs) : Prop :=
  (∃ definition, ⟨.taskByKey deliveryDelayRiskContract.taskKey, some definition⟩ ∈
    (attend predictors fault call s).2.1) ∧
  ∀ response, (attend predictors fault call s).1 ≠ .ok (.success response)

/-- A row with the failure of the call. -/
def RowOnRecord (call : PredictCall) (db db' : Database) : Prop :=
  ∃ request ∈ db'.requests, request ∉ db.requests ∧ request.id = call.requestId ∧
    request.status = .FAILED

def EventOnRecord (call : PredictCall) (db db' : Database) : Prop :=
  ∃ events, db'.plane.audit = db.plane.audit ++ events ∧
    ∃ event ∈ events, event.action = "prediction.execute" ∧
      event.resourceId = some call.requestId ∧ event.outcome = .ERROR

/-- Only the handler of tenant mismatches has committed anything. -/
def Unsaved (call : PredictCall) (db db' : Database) : Prop :=
  db'.requests = db.requests ∧ db'.results = db.results ∧
    ∃ events, db'.plane.audit = db.plane.audit ++ events ∧
      ∀ event ∈ events, event = call.mismatchEvent

variable {predictors : Predictors libs} {call : PredictCall}
  {fault : Trace (Reply libs) → Option PyError} {s : Shared libs}

theorem unsaved_refl (call : PredictCall) (db : Database) : Unsaved call db db :=
  ⟨rfl, rfl, [], by simp⟩

theorem unsaved_log {db db' : Database} (h : Unsaved call db db') :
    Unsaved call db (db'.log [call.mismatchEvent]) := by
  obtain ⟨hrequests, hresults, events, haudit, hevents⟩ := h
  refine ⟨hrequests, hresults, events ++ [call.mismatchEvent], ?_, ?_⟩
  · simp [Database.log, haudit]
  · intro event hevent
    rcases List.mem_append.1 hevent with hevent | hevent
    · exact hevents event hevent
    · exact List.mem_singleton.1 hevent

theorem Unsaved.rowOnRecord {db db' : Database} (h : Unsaved call db db') :
    ¬RowOnRecord call db db' := by
  rintro ⟨request, hmem, hnew, -⟩
  rw [h.1] at hmem
  exact hnew hmem

theorem Unsaved.eventOnRecord {db db' : Database} (h : Unsaved call db db') :
    ¬EventOnRecord call db db' := by
  obtain ⟨-, -, events, haudit, hevents⟩ := h
  rintro ⟨events', haudit', event, hmem, haction, -⟩
  obtain rfl : events = events' := List.append_cancel_left (haudit.symm.trans haudit')
  rw [hevents event hmem] at haction
  simp [PredictCall.mismatchEvent] at haction

/-- Before the commit, one effect leaves the tables of predictions as they were. -/
theorem handle_unsaved {db : Database} {tr : Trace (Reply libs)} {e : Await libs} {r : Reply libs e}
    {s s' : Shared libs} (h : Unsaved call db s.db) (hok : Asserts call tr e) (hne : e ≠ .commit)
    (hr : handle tr e s = .ok (r, s')) : Unsaved call db s'.db := by
  cases e with
  | commit => exact absurd rfl hne
  | flush writes =>
    simp only [handle] at hr
    cases hw : applyWrites s.db (pending tr ++ writes) with
    | error err =>
      rw [hw] at hr
      cases hr
    | ok db' =>
      rw [hw] at hr
      cases hr
      exact h
  | recordDenied event =>
    cases hr
    rw [hok.2]
    exact unsaved_log h
  | _ =>
    cases hr
    exact h

/-- A request that does not answer with a prediction has not come to its commit. -/
theorem attend_clean {result : Except PyError Response} {tr : Trace (Reply libs)} {s' : Shared libs}
    (hr : attend predictors fault call s = (result, tr, s'))
    (h : ∀ response, result ≠ .ok (.success response)) : Clean tr := by
  rcases serve_ends (program_safe predictors call) hr with hend | ⟨err, rfl, e, hok⟩
  · rcases result with err | response | ⟨statusCode, detail⟩
    · exact hend
    · exact absurd rfl (h response)
    · exact hend
  · exact hok.1

theorem attend_unsaved
    (h : ∀ response, (attend predictors fault call s).1 ≠ .ok (.success response)) :
    Unsaved call s.db (attend predictors fault call s).2.2.db := by
  refine serve_invariant (I := fun tr s' => Clean tr → Unsaved call s.db s'.db)
    (fun tr e s₁ r s₂ hI hok _ hr hc => ?_) (program_safe predictors call) (fun _ => unsaved_refl call s.db)
    (attend_clean rfl h)
  rw [clean_append] at hc
  exact handle_unsaved (hI hc.1) hok (hc.2 _ (List.mem_singleton_self _)) hr

/-- Neither the row nor the event of a failed prediction is committed. -/
theorem failed_prediction_unrecorded (h : FailsAfterLookup predictors fault call s) :
    ¬RowOnRecord call s.db (attend predictors fault call s).2.2.db ∧
      ¬EventOnRecord call s.db (attend predictors fault call s).2.2.db := by
  have hunsaved := attend_unsaved h.2
  exact ⟨hunsaved.rowOnRecord, hunsaved.eventOnRecord⟩

end

namespace Sample

open Inference.Sample

/-- Nothing is computed of a model in these runs. -/
def predictors : Predictors libraries where
  sklearnPredictProba _ _ := .ok (1 / 2)
  coefficients _ := none
  torchPredictProba _ _ := .ok (1 / 2)
  maxRecordsPerRelation _ := 8
  categoricalVocabSize _ := 64

def definition : PredictionTaskDefinition := ⟨10, "delivery-delay-risk"⟩

/-- The task is registered and has no model. -/
def unserved : Shared libraries where
  db := { taskDefinitions := (Keyed.Indexed.empty.insert? definition).getD .empty }
  loading := start

def firstCall : PredictCall where
  ctx := HermesRpt.Sample.ctx
  businessReference := "T1"
  predictionTime := ⟨1000, 0⟩
  idempotencyKey := some "k"
  requestId := 50
  resultId := 60
  env := Extraction.Sample.serving (Extraction.Sample.oneTable "trips" [])
  around := answering fun _ => 0

theorem unserved_fails :
    FailsAfterLookup predictors (fun _ => none) firstCall unserved := by
  refine ⟨⟨definition, ?_⟩, fun response h => ?_⟩
  · exact List.mem_of_getElem? (i := 1) rfl
  · cases h

end Sample

theorem failed_prediction_unrecorded_sample :
    ¬RowOnRecord Sample.firstCall Sample.unserved.db
        (attend Sample.predictors (fun _ => none) Sample.firstCall Sample.unserved).2.2.db ∧
      ¬EventOnRecord Sample.firstCall Sample.unserved.db
        (attend Sample.predictors (fun _ => none) Sample.firstCall Sample.unserved).2.2.db :=
  failed_prediction_unrecorded Sample.unserved_fails

/-- Without a model the answer is a 503, and the request's row and event are rolled back. -/
theorem unserved_unrecorded :
    (attend Sample.predictors (fun _ => none) Sample.firstCall Sample.unserved).1 =
      .ok (.failure 503 "No PRODUCTION model version is available for task 'delivery-delay-risk'") ∧
    FailsAfterLookup Sample.predictors (fun _ => none) Sample.firstCall Sample.unserved ∧
    (attend Sample.predictors (fun _ => none) Sample.firstCall
      Sample.unserved).2.2.db.requests.table.rows = [] ∧
    (attend Sample.predictors (fun _ => none) Sample.firstCall
      Sample.unserved).2.2.db.plane.audit = [] :=
  ⟨rfl, Sample.unserved_fails, rfl, rfl⟩

end Service

end Inference

end HermesRpt
