import HermesRpt.Inference.Service

/-!
# HermesRpt.Inference.Outline

A proof outline of the prediction endpoint: what a request has read and written at each of its
effects.

* `savedWrites`  : what the session of a new prediction has flushed when it commits.
* `Replayed`     : the response was read from a completed request with the call's key.
* `Justified`    : a response that is replayed, with nothing to commit, or one that was saved.
* `program_safe` : the outline holds of every call.
-/

namespace HermesRpt

namespace Inference

namespace Service

open Registry Features
open Async Code

variable {libs : Libraries} {predictors : Predictors libs} {call : PredictCall}
  {tr : Trace (Reply libs)}

/-- The session has committed nothing. -/
def Clean (tr : Trace (Reply libs)) : Prop := ∀ x ∈ tr, x.1 ≠ .commit

/-- The events are those of the extraction. -/
def savedWrites (call : PredictCall) (definition : PredictionTaskDefinition)
    (modelVersion : ModelVersion) (score : Score) (events : List AuditEvent) : List Write :=
  .addRequest (call.request definition) :: events.map .audit ++
    [.addResult (call.result modelVersion score), .setStatus call.requestId .COMPLETED,
      .audit (call.successEvent modelVersion)]

def Saved (call : PredictCall) (writes : List Write) (response : PredictionResponse) : Prop :=
  ∃ definition modelVersion score events,
    writes = savedWrites call definition modelVersion score events ∧
      response = call.response modelVersion score

def Replayed (call : PredictCall) (tr : Trace (Reply libs)) (response : PredictionResponse) :
    Prop :=
  ∃ key request result modelVersion, call.key = some key ∧
    ⟨.requestByKey key call.ctx, some request⟩ ∈ tr ∧ request.status = .COMPLETED ∧
    ⟨.resultByRequest request.id call.ctx, some result⟩ ∈ tr ∧
    response = replay request result modelVersion

def Justified (call : PredictCall) (tr : Trace (Reply libs)) (response : PredictionResponse) :
    Prop :=
  pending tr = [] ∧ Replayed call tr response ∨ Saved call (pending tr) response

def Asserts (call : PredictCall) (tr : Trace (Reply libs)) (e : Await libs) : Prop :=
  Clean tr ∧ match e with
    | .commit => ∃ response, Justified call tr response
    | .recordDenied event => event = call.mismatchEvent
    | _ => True

def Ends (call : PredictCall) (tr : Trace (Reply libs)) : Except PyError Response → Prop
  | .ok (.success response) =>
    ∃ before, tr = before ++ [⟨.commit, ()⟩] ∧ Clean before ∧ Justified call before response
  | _ => Clean tr

/-! ## The trace grows -/

@[simp] theorem clean_nil : Clean ([] : Trace (Reply libs)) := by
  intro x hx
  cases hx

@[simp] theorem clean_cons {x : Σ e, Reply libs e} :
    Clean (x :: tr) ↔ x.1 ≠ .commit ∧ Clean tr := List.forall_mem_cons

@[simp] theorem clean_append {tr' : Trace (Reply libs)} :
    Clean (tr ++ tr') ↔ Clean tr ∧ Clean tr' := List.forall_mem_append

@[simp] theorem pending_nil : pending ([] : Trace (Reply libs)) = [] := rfl

@[simp] theorem pending_cons {x : Σ e, Reply libs e} :
    pending (x :: tr) = written x ++ pending tr := rfl

@[simp] theorem pending_append {tr' : Trace (Reply libs)} :
    pending (tr ++ tr') = pending tr ++ pending tr' := List.flatMap_append

/-- The session has flushed the row of its request and these events. -/
structure Opened (call : PredictCall) (definition : PredictionTaskDefinition)
    (events : List AuditEvent) (tr : Trace (Reply libs)) : Prop where
  clean : Clean tr
  pending : pending tr = .addRequest (call.request definition) :: events.map .audit

section

attribute [local simp] Asserts written

variable {definition : PredictionTaskDefinition}

theorem score_safe (h : Opened call definition [] tr) (loaded : AnyLoadedModel libs) :
    Safe (Asserts call) (fun tr' _ => ∃ events, Opened call definition events tr') tr
      (score predictors call loaded) := by
  cases loaded with
  | hermesRpt loaded =>
    simp only [score, ofEffect_bind, safe_await]
    refine ⟨by simp [h.clean], ?_⟩
    rintro ⟨ex, events⟩
    refine ⟨by simp [h.clean], fun _ => ?_⟩
    have hend : Opened call definition events (tr ++ [⟨.buildExample call
        (predictors.maxRecordsPerRelation loaded.config), (ex, events)⟩] ++
          [⟨.flush (events.map .audit), ()⟩]) := ⟨by simp [h.clean], by simp [h.pending]⟩
    cases ex with
    | error exc => exact ⟨events, hend⟩
    | ok ex => exact ⟨events, hend⟩
  | sklearn loaded =>
    simp only [score, ofEffect_bind, safe_await]
    refine ⟨by simp [h.clean], ?_⟩
    rintro ⟨batch, events⟩
    refine ⟨by simp [h.clean], fun _ => ?_⟩
    have hend : Opened call definition events (tr ++ [⟨.extract call, (batch, events)⟩] ++
        [⟨.flush (events.map .audit), ()⟩]) := ⟨by simp [h.clean], by simp [h.pending]⟩
    cases batch with
    | error exc => exact ⟨events, hend⟩
    | ok batch => exact ⟨events, hend⟩

/-- At the end of the `try` the session holds a whole prediction, unless something was raised. -/
theorem attempt_safe (h : Opened call definition [] tr) :
    Safe (Asserts call) (fun tr' result => Clean tr' ∧
      ∀ response, result = .ok response → Saved call (pending tr') response) tr
      (attempt predictors call definition) := by
  simp only [attempt, ofEffect_bind, safe_await]
  refine ⟨by simp [h.clean], fun modelVersion => ?_⟩
  cases modelVersion with
  | none => simp [h.clean]
  | some modelVersion =>
    simp only [safe_await]
    refine ⟨by simp [h.clean], fun loaded => ?_⟩
    have hloaded : Opened call definition []
        (tr ++ [⟨.productionModel definition.id call, some modelVersion⟩] ++
          [⟨.load modelVersion call, loaded⟩]) := by
      exact ⟨by simp [h.clean], by simp [h.pending]⟩
    cases loaded with
    | error exc => exact ⟨hloaded.clean, by simp⟩
    | ok loaded =>
      simp only [ofExcept_eq, ok_bind]
      refine Safe.bind ((score_safe hloaded loaded).mono ?_)
      rintro tr' (exc | score) ⟨events, hscored⟩
      · exact ⟨hscored.clean, by simp⟩
      · simp only [safe_await]
        refine ⟨by simp [hscored.clean], fun _ => ⟨by simp [hscored.clean], fun _ =>
          ⟨by simp [hscored.clean], fun _ => ⟨by simp [hscored.clean], ?_⟩⟩⟩⟩
        rintro response ⟨⟩
        refine ⟨definition, modelVersion, score, events, ?_, rfl⟩
        simp [hscored.pending, savedWrites]

theorem recordFailure_safe (h : Clean tr) (exc : PyError) :
    Safe (Asserts call) (fun tr' result => Clean tr' ∧
      ∀ response, result = .ok response → Justified call tr' response) tr
      (recordFailure call exc) := by
  simp [recordFailure, h]

theorem predictAnew_safe (h : Clean tr) (hnone : pending tr = []) :
    Safe (Asserts call) (fun tr' result => Clean tr' ∧
      ∀ response, result = .ok response → Justified call tr' response) tr
      (predictAnew predictors call) := by
  simp only [predictAnew, ofEffect_bind, safe_await]
  refine ⟨by simp [h], fun definition => ?_⟩
  cases definition with
  | none => simp [h]
  | some definition =>
    simp only [safe_await]
    refine ⟨by simp [h], fun _ => ?_⟩
    have hopened : Opened call definition []
        (tr ++ [⟨.taskByKey deliveryDelayRiskContract.taskKey, some definition⟩] ++
          [⟨.flush [.addRequest (call.request definition)], ()⟩]) := by
      exact ⟨by simp [h], by simp [hnone]⟩
    refine Safe.bind (Safe.caught ((attempt_safe hopened).mono ?_))
    rintro tr' (exc | response) ⟨hclean, hsaved⟩
    · exact recordFailure_safe hclean exc
    · refine ⟨hclean, ?_⟩
      rintro _ ⟨⟩
      exact .inr (hsaved response rfl)

theorem cachedResponse_safe {key : String} (hkey : call.key = some key) (h : Clean tr)
    (hnone : pending tr = []) :
    Safe (Asserts call) (fun tr' result => Clean tr' ∧ pending tr' = [] ∧
      ∀ response, result = .ok (some response) → Replayed call tr' response) tr
      (cachedResponse key call.ctx) := by
  simp only [cachedResponse, ofEffect_bind, safe_await]
  refine ⟨by simp [h], fun request => ?_⟩
  cases request with
  | none => simp [h, hnone]
  | some request =>
    simp only
    split
    · simp [h, hnone]
    · rename_i hstatus
      simp only [safe_await]
      refine ⟨by simp [h], fun result => ?_⟩
      cases result with
      | none => simp [h, hnone]
      | some result =>
        simp only [safe_await]
        refine ⟨by simp [h], fun modelVersion => ?_⟩
        refine ⟨by simp [h], by simp [hnone], ?_⟩
        rintro response ⟨⟩
        exact ⟨key, request, result, modelVersion, hkey, by simp, not_not.1 hstatus, by simp, rfl⟩

theorem predict_safe : Safe (Asserts call) (fun tr' result => Clean tr' ∧
      ∀ response, result = .ok response → Justified call tr' response) ([] : Trace (Reply libs))
      (predict predictors call) := by
  unfold predict
  cases hkey : call.key with
  | none => exact predictAnew_safe clean_nil rfl
  | some key =>
    refine Safe.bind ((cachedResponse_safe hkey clean_nil rfl).mono ?_)
    rintro tr' (exc | _ | response) ⟨hclean, hnone, hreplayed⟩
    · exact ⟨hclean, by simp⟩
    · exact predictAnew_safe hclean hnone
    · refine ⟨hclean, ?_⟩
      rintro _ ⟨⟩
      exact .inl ⟨hnone, hreplayed response rfl⟩

theorem handleException_safe (h : Clean tr) (exc : PyError) :
    Safe (Asserts call) (Ends call) tr (handleException call exc) := by
  have hfailed : ∀ tr : Trace (Reply libs), Clean tr → Ends call tr (.ok (failureOf exc)) := by
    intro tr h
    unfold failureOf
    split <;> exact h
  unfold handleException
  split
  · simp only [ofEffect_bind, safe_await]
    exact ⟨by simp [h], fun _ => hfailed _ (by simp [h])⟩
  · exact hfailed tr h

theorem program_safe (predictors : Predictors libs) (call : PredictCall) :
    Safe (Asserts call) (Ends call) ([] : Trace (Reply libs)) (program predictors call) := by
  refine Safe.bind (Safe.caught (predict_safe.mono ?_))
  rintro tr (exc | response) ⟨hclean, hjustified⟩
  · exact handleException_safe hclean exc
  · simp only [ofEffect_bind, safe_await]
    exact ⟨⟨hclean, response, hjustified response rfl⟩,
      fun _ => ⟨tr, rfl, hclean, hjustified response rfl⟩⟩

end

/-! ## What a commit stores -/

/-- A completed request of a tenant for the key, with its result. -/
def Stored (db : Database) (tenantId : Uuid) (idempotencyKey : Option String)
    (request : PredictionRequest) (result : PredictionResult) : Prop :=
  request ∈ db.requests ∧ request.tenantId = tenantId ∧ request.idempotencyKey = idempotencyKey ∧
    request.status = .COMPLETED ∧ result ∈ db.results ∧ result.predictionRequestId = request.id ∧
    result.tenantId = tenantId

/-- The call asks again what the stored request asked. -/
def Repeats (call : PredictCall) (request : PredictionRequest) : Prop :=
  request.businessReference = call.businessReference ∧
    request.predictionTime = inUtc call.predictionTime

/-- No row of a prediction is lost or changed. -/
structure Extends (db db' : Database) : Prop where
  requests : ∀ request ∈ db.requests, request ∈ db'.requests
  results : ∀ result ∈ db.results, result ∈ db'.results

theorem Extends.refl (db : Database) : Extends db db := ⟨fun _ h => h, fun _ h => h⟩

theorem Extends.trans {db₁ db₂ db₃ : Database} (h : Extends db₁ db₂) (h' : Extends db₂ db₃) :
    Extends db₁ db₃ :=
  ⟨fun r hr => h'.requests r (h.requests r hr), fun r hr => h'.results r (h.results r hr)⟩

theorem Stored.mono {db db' : Database} {tenantId : Uuid} {key : Option String}
    {request : PredictionRequest} {result : PredictionResult}
    (h : Stored db tenantId key request result) (hext : Extends db db') :
    Stored db' tenantId key request result := by
  obtain ⟨hrequest, htenant, hkey, hstatus, hresult, hof⟩ := h
  exact ⟨hext.requests _ hrequest, htenant, hkey, hstatus, hext.results _ hresult, hof⟩

/-- The writes of a prediction add its two rows. -/
theorem applyWrites_saved {db db' : Database} {definition : PredictionTaskDefinition}
    {modelVersion : ModelVersion} {score : Score} {events : List AuditEvent}
    (h : applyWrites db (savedWrites call definition modelVersion score events) = .ok db') :
    (∀ request, request ∈ db'.requests ↔ request ∈ db.requests ∨
      request = { call.request definition with status := .COMPLETED }) ∧
    ∀ result, result ∈ db'.results ↔ result ∈ db.results ∨
      result = call.result modelVersion score := by
  rw [savedWrites, applyWrites_append] at h
  obtain ⟨db₂, hopened, h⟩ := Effect.except_bind_ok.1 h
  obtain ⟨db₁, hadd, hevents⟩ := Effect.except_bind_ok.1 hopened
  obtain ⟨requests, hinsert, hdb₁⟩ := addRequest_ok hadd
  obtain rfl : db₂ = db₁.log events :=
    Except.ok.inj (hevents.symm.trans (applyWrites_audit db₁ events))
  obtain ⟨db₃, haddResult, h⟩ := Effect.except_bind_ok.1 h
  obtain ⟨results, hresult, hdb₃⟩ := addResult_ok haddResult
  obtain ⟨db₄, hset, h⟩ := Effect.except_bind_ok.1 h
  obtain rfl : db₄ = db₃.setStatus call.requestId .COMPLETED := updateStatus_ok hset
  obtain rfl : db' = (db₃.setStatus call.requestId .COMPLETED).log [call.successEvent modelVersion] :=
    Except.ok.inj h.symm
  have hrequests₃ : db₃.requests = requests := by rw [hdb₃, Database.log, hdb₁]
  have hresults : db.results.insert? (call.result modelVersion score) = some db₃.results := by
    rw [hdb₃, ← hresult, Database.log, hdb₁]
  exact ⟨mem_setStatus hrequests₃ hinsert .COMPLETED, fun _ => Keyed.Indexed.mem_insert? hresults⟩

end Service

end Inference

end HermesRpt
