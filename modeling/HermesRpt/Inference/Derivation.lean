import HermesRpt.Inference.Outline
import HermesRpt.Lib.CommitLog

/-!
# HermesRpt.Inference.Derivation

Where the score of a new prediction comes from: the task, the model, the loaded artifact and the
extraction that its request has read.

* `transaction` : what an effect commits; a request commits once, or has its denial recorded.
* `Derived`     : the reads of a trace that a score and its writes are computed from.
* `Outcome`     : how a request that is answered has ended.
* `program_derives` : the proof outline, with these assertions.
-/

namespace HermesRpt

namespace Inference

namespace Service

open Registry Features
open Async Code

variable {libs : Libraries} {predictors : Predictors libs} {call : PredictCall}
  {tr : Trace (Reply libs)}

/-- The statements that an effect commits. -/
def transaction : Entry (Reply libs) (List Write) := fun tr e =>
  match e with
  | .commit => some (pending tr)
  | .recordDenied event => some [.audit event]
  | _ => none

/-- Nothing was committed. -/
def Uncommitted (tr : Trace (Reply libs)) : Prop :=
  ∀ x ∈ tr, x.1 ≠ .commit ∧ ∀ event, x.1 ≠ .recordDenied event

/-- The extraction that the model's family needs, its events, and the score of what it gave. -/
def Scored (predictors : Predictors libs) (call : PredictCall) (tr : Trace (Reply libs))
    (score : Score) (events : List AuditEvent) : AnyLoadedModel libs → Prop
  | .hermesRpt loaded => ∃ ex,
    ⟨.buildExample call (predictors.maxRecordsPerRelation loaded.config), (.ok ex, events)⟩ ∈ tr ∧
      scoreExample call.env.std predictors loaded ex = .ok score
  | .sklearn loaded => ∃ batch, ⟨.extract call, (.ok batch, events)⟩ ∈ tr ∧
      scoreFeatures call.env.std predictors loaded batch = .ok score

structure Derived (predictors : Predictors libs) (call : PredictCall) (tr : Trace (Reply libs))
    (definition : PredictionTaskDefinition) (modelVersion : ModelVersion) (score : Score)
    (events : List AuditEvent) : Prop where
  task : ⟨.taskByKey deliveryDelayRiskContract.taskKey, some definition⟩ ∈ tr
  model : ⟨.productionModel definition.id call, some modelVersion⟩ ∈ tr
  scored : ∃ loaded, ⟨.load modelVersion call, .ok loaded⟩ ∈ tr ∧
    Scored predictors call tr score events loaded

/-- The session holds a whole prediction. -/
def Computed (predictors : Predictors libs) (call : PredictCall) (tr : Trace (Reply libs))
    (response : PredictionResponse) : Prop :=
  ∃ definition modelVersion score events,
    pending tr = savedWrites call definition modelVersion score events ∧
      response = call.response modelVersion score ∧
      Derived predictors call tr definition modelVersion score events

/-- A response that a commit may give: replayed with nothing to commit, or computed. -/
def Grounded (predictors : Predictors libs) (call : PredictCall) (tr : Trace (Reply libs))
    (response : PredictionResponse) : Prop :=
  pending tr = [] ∧ Replayed call tr response ∨ Computed predictors call tr response

def Awaits (predictors : Predictors libs) (call : PredictCall) (tr : Trace (Reply libs))
    (e : Await libs) : Prop :=
  Uncommitted tr ∧ match e with
    | .commit => ∃ response, Grounded predictors call tr response
    | .recordDenied event => event = call.mismatchEvent
    | _ => True

/-- How a request ends: it has committed its response, its denial was recorded, or neither. -/
def Outcome (predictors : Predictors libs) (call : PredictCall) (tr : Trace (Reply libs)) :
    Except PyError Response → Prop
  | .ok (.success response) =>
    ∃ before, tr = before ++ [⟨.commit, ()⟩] ∧ Uncommitted before ∧
      Grounded predictors call before response
  | .ok (.failure _ _) => Uncommitted tr ∨
    ∃ before, tr = before ++ [⟨.recordDenied call.mismatchEvent, ()⟩] ∧ Uncommitted before
  | .error _ => Uncommitted tr

@[simp] theorem uncommitted_nil : Uncommitted ([] : Trace (Reply libs)) := by
  intro x hx
  cases hx

@[simp] theorem uncommitted_cons {x : Σ e, Reply libs e} : Uncommitted (x :: tr) ↔
    (x.1 ≠ .commit ∧ ∀ event, x.1 ≠ .recordDenied event) ∧ Uncommitted tr := List.forall_mem_cons

@[simp] theorem uncommitted_append {tr' : Trace (Reply libs)} :
    Uncommitted (tr ++ tr') ↔ Uncommitted tr ∧ Uncommitted tr' := List.forall_mem_append

/-- A request that has read its task and flushed its row. -/
structure Begun (call : PredictCall) (definition : PredictionTaskDefinition)
    (tr : Trace (Reply libs)) : Prop where
  uncommitted : Uncommitted tr
  pending : pending tr = [.addRequest (call.request definition)]
  task : ⟨.taskByKey deliveryDelayRiskContract.taskKey, some definition⟩ ∈ tr

section

attribute [local simp] Awaits written

variable {definition : PredictionTaskDefinition}

/-- The events that were flushed are those of the extraction. -/
theorem score_derives (h : Begun call definition tr) (loaded : AnyLoadedModel libs) :
    Safe (Awaits predictors call) (fun tr' result => Uncommitted tr' ∧ tr <+: tr' ∧
      ∀ score, result = .ok score → ∃ events,
        pending tr' = .addRequest (call.request definition) :: events.map .audit ∧
          Scored predictors call tr' score events loaded) tr (score predictors call loaded) := by
  cases loaded with
  | hermesRpt loaded =>
    simp only [score, ofEffect_bind, safe_await]
    refine ⟨by simp [h.uncommitted], ?_⟩
    rintro ⟨ex, events⟩
    refine ⟨by simp [h.uncommitted], fun _ => ?_⟩
    cases ex with
    | error exc => exact ⟨by simp [h.uncommitted], ⟨_, (List.append_assoc ..).symm⟩, by simp⟩
    | ok ex =>
      refine ⟨by simp [h.uncommitted], ⟨_, (List.append_assoc ..).symm⟩, fun score hscore => ?_⟩
      exact ⟨events, by simp [h.pending], ex, by simp, hscore⟩
  | sklearn loaded =>
    simp only [score, ofEffect_bind, safe_await]
    refine ⟨by simp [h.uncommitted], ?_⟩
    rintro ⟨batch, events⟩
    refine ⟨by simp [h.uncommitted], fun _ => ?_⟩
    cases batch with
    | error exc => exact ⟨by simp [h.uncommitted], ⟨_, (List.append_assoc ..).symm⟩, by simp⟩
    | ok batch =>
      refine ⟨by simp [h.uncommitted], ⟨_, (List.append_assoc ..).symm⟩, fun score hscore => ?_⟩
      exact ⟨events, by simp [h.pending], batch, by simp, hscore⟩

theorem Scored.mono {tr' : Trace (Reply libs)} {score : Score} {events : List AuditEvent}
    {loaded : AnyLoadedModel libs} (h : Scored predictors call tr score events loaded)
    (hsub : tr ⊆ tr') : Scored predictors call tr' score events loaded := by
  cases loaded with
  | hermesRpt loaded =>
    obtain ⟨ex, hex, hscore⟩ := h
    exact ⟨ex, hsub hex, hscore⟩
  | sklearn loaded =>
    obtain ⟨batch, hbatch, hscore⟩ := h
    exact ⟨batch, hsub hbatch, hscore⟩

theorem attempt_derives (h : Begun call definition tr) :
    Safe (Awaits predictors call) (fun tr' result => Uncommitted tr' ∧
      ∀ response, result = .ok response → Computed predictors call tr' response) tr
      (attempt predictors call definition) := by
  simp only [attempt, ofEffect_bind, safe_await]
  refine ⟨by simp [h.uncommitted], fun modelVersion => ?_⟩
  cases modelVersion with
  | none => simp [h.uncommitted]
  | some modelVersion =>
    simp only [safe_await]
    refine ⟨by simp [h.uncommitted], fun loaded => ?_⟩
    cases loaded with
    | error exc => exact ⟨by simp [h.uncommitted], by simp⟩
    | ok loaded =>
      have hloaded : Begun call definition
          (tr ++ [⟨.productionModel definition.id call, some modelVersion⟩] ++
            [⟨.load modelVersion call, .ok loaded⟩]) :=
        ⟨by simp [h.uncommitted], by simp [h.pending], by simp [h.task]⟩
      simp only [ofExcept_eq, ok_bind]
      refine Safe.bind ((score_derives hloaded loaded).mono ?_)
      rintro tr' (exc | score) ⟨huncommitted, hprefix, hscored⟩
      · exact ⟨huncommitted, by simp⟩
      · obtain ⟨events, hpending, hscored⟩ := hscored score rfl
        have hread := hprefix.subset
        simp only [safe_await]
        refine ⟨by simp [huncommitted], fun _ => ⟨by simp [huncommitted], fun _ =>
          ⟨by simp [huncommitted], fun _ => ⟨by simp [huncommitted], ?_⟩⟩⟩⟩
        rintro response ⟨⟩
        refine ⟨definition, modelVersion, score, events, by simp [hpending, savedWrites], rfl, ?_⟩
        have hlater : tr' ⊆ tr' ++ [⟨.flush [.addResult (call.result modelVersion score)], ()⟩] ++
            [⟨.flush [.setStatus call.requestId .COMPLETED], ()⟩] ++
            [⟨.flush [.audit (call.successEvent modelVersion)], ()⟩] := by
          simp only [List.append_assoc]
          exact List.subset_append_left _ _
        exact ⟨hlater (hread hloaded.task), hlater (hread (by simp)), loaded,
          hlater (hread (by simp)), hscored.mono hlater⟩

theorem recordFailure_derives (h : Uncommitted tr) (exc : PyError) :
    Safe (Awaits predictors call) (fun tr' result => Uncommitted tr' ∧
      ∀ response, result = .ok response → Grounded predictors call tr' response) tr
      (recordFailure call exc) := by
  simp [recordFailure, h]

theorem predictAnew_derives (h : Uncommitted tr) (hnone : pending tr = []) :
    Safe (Awaits predictors call) (fun tr' result => Uncommitted tr' ∧
      ∀ response, result = .ok response → Grounded predictors call tr' response) tr
      (predictAnew predictors call) := by
  simp only [predictAnew, ofEffect_bind, safe_await]
  refine ⟨by simp [h], fun definition => ?_⟩
  cases definition with
  | none => simp [h]
  | some definition =>
    simp only [safe_await]
    refine ⟨by simp [h], fun _ => ?_⟩
    have hbegun : Begun call definition
        (tr ++ [⟨.taskByKey deliveryDelayRiskContract.taskKey, some definition⟩] ++
          [⟨.flush [.addRequest (call.request definition)], ()⟩]) :=
      ⟨by simp [h], by simp [hnone], by simp⟩
    refine Safe.bind (Safe.caught ((attempt_derives hbegun).mono ?_))
    rintro tr' (exc | response) ⟨huncommitted, hcomputed⟩
    · exact recordFailure_derives huncommitted exc
    · refine ⟨huncommitted, ?_⟩
      rintro _ ⟨⟩
      exact .inr (hcomputed response rfl)

theorem cachedResponse_derives {key : String} (hkey : call.key = some key) :
    Safe (Awaits predictors call) (fun tr' result => Uncommitted tr' ∧ pending tr' = [] ∧
      ∀ response, result = .ok (some response) → Replayed call tr' response) []
      (cachedResponse key call.ctx : Handling libs (Option PredictionResponse)) := by
  simp only [cachedResponse, ofEffect_bind, safe_await]
  refine ⟨by simp, fun request => ?_⟩
  cases request with
  | none => simp
  | some request =>
    simp only
    split
    · simp
    · rename_i hstatus
      simp only [safe_await]
      refine ⟨by simp, fun result => ?_⟩
      cases result with
      | none => simp
      | some result =>
        simp only [safe_await]
        refine ⟨by simp, fun modelVersion => ?_⟩
        refine ⟨by simp, by simp, ?_⟩
        rintro response ⟨⟩
        exact ⟨key, request, result, modelVersion, hkey, by simp, not_not.1 hstatus, by simp, rfl⟩

theorem predict_derives : Safe (Awaits predictors call) (fun tr' result => Uncommitted tr' ∧
      ∀ response, result = .ok response → Grounded predictors call tr' response)
      ([] : Trace (Reply libs)) (predict predictors call) := by
  unfold predict
  cases hkey : call.key with
  | none => exact predictAnew_derives uncommitted_nil rfl
  | some key =>
    refine Safe.bind ((cachedResponse_derives hkey).mono ?_)
    rintro tr' (exc | _ | response) ⟨huncommitted, hnone, hreplayed⟩
    · exact ⟨huncommitted, by simp⟩
    · exact predictAnew_derives huncommitted hnone
    · refine ⟨huncommitted, ?_⟩
      rintro _ ⟨⟩
      exact .inl ⟨hnone, hreplayed response rfl⟩

theorem handleException_derives (h : Uncommitted tr) (exc : PyError) :
    Safe (Awaits predictors call) (Outcome predictors call) tr (handleException call exc) := by
  have hfailed : ∃ statusCode detail, failureOf exc = .failure statusCode detail := by
    unfold failureOf
    split <;> exact ⟨_, _, rfl⟩
  obtain ⟨statusCode, detail, hfailed⟩ := hfailed
  unfold handleException
  rw [hfailed]
  split
  · simp only [ofEffect_bind, safe_await]
    exact ⟨by simp [h], fun _ => .inr ⟨tr, rfl, h⟩⟩
  · exact .inl h

theorem program_derives (predictors : Predictors libs) (call : PredictCall) :
    Safe (Awaits predictors call) (Outcome predictors call) ([] : Trace (Reply libs))
      (program predictors call) := by
  refine Safe.bind (Safe.caught (predict_derives.mono ?_))
  rintro tr (exc | response) ⟨huncommitted, hgrounded⟩
  · exact handleException_derives huncommitted exc
  · simp only [ofEffect_bind, safe_await]
    exact ⟨⟨huncommitted, response, hgrounded response rfl⟩,
      fun _ => ⟨tr, rfl, huncommitted, hgrounded response rfl⟩⟩

end

end Service

end Inference

end HermesRpt
