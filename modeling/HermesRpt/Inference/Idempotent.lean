import HermesRpt.Inference.Outline

/-!
# HermesRpt.Inference.Idempotent

Predictions with one idempotency key, in any interleaving. Two requests may both find no completed
request and predict anew; the unique constraints let one of them commit.

* `handle_extends` : no effect of a request loses a row.
* `answer_stored`  : a prediction that was answered is stored, under the key of its call.
* `one_answer`      : at most one request, one result and one prediction id for a key.
-/

namespace HermesRpt

namespace Inference

namespace Service

open Registry Features
open Async Code Machine

variable {libs : Libraries} {predictors : Predictors libs} {call : PredictCall}
  {tr : Trace (Reply libs)} {s s' : Shared libs} {db : Database}

/-! ## One effect -/

theorem requestByKey_replied {key : String} {ctx : TenantContext} {request : PredictionRequest}
    (h : handle tr (.requestByKey key ctx) s = .ok (some request, s')) :
    request ∈ s.db.requests ∧ request.tenantId = ctx.tenantId ∧
      request.idempotencyKey = some key := by
  obtain ⟨hfound, -⟩ := Prod.mk.inj (Except.ok.inj h)
  obtain ⟨hmem, hindex⟩ := Keyed.Indexed.lookup_eq_some.1 hfound
  refine ⟨hmem, ?_⟩
  simpa [PredictionRequest.index, and_comm] using hindex

theorem resultByRequest_replied {requestId : Uuid} {ctx : TenantContext} {result : PredictionResult}
    (h : handle tr (.resultByRequest requestId ctx) s = .ok (some result, s')) :
    result ∈ s.db.results ∧ result.predictionRequestId = requestId ∧
      result.tenantId = ctx.tenantId := by
  obtain ⟨hfound, -⟩ := Prod.mk.inj (Except.ok.inj h)
  obtain ⟨hlookup, htenant⟩ := Option.filter_eq_some_iff.1 hfound
  obtain ⟨hmem, hindex⟩ := Keyed.Indexed.lookup_eq_some.1 hlookup
  exact ⟨hmem, by simpa [PredictionResult.index] using hindex, by simpa using htenant⟩

theorem commit_replied (h : handle tr .commit s = .ok ((), s')) :
    applyWrites s.db (pending tr) = .ok s'.db := by
  simp only [handle] at h
  cases hw : applyWrites s.db (pending tr) with
  | error err =>
    rw [hw] at h
    cases h
  | ok db =>
    rw [hw] at h
    cases h
    rfl

theorem handle_extends {e : Await libs} {r : Reply libs e} (hok : Asserts call tr e)
    (h : handle tr e s = .ok (r, s')) : Extends s.db s'.db := by
  cases e with
  | commit =>
    have hdb := commit_replied h
    obtain ⟨response, ⟨hnone, -⟩ | ⟨definition, modelVersion, score, events, hsaved, -⟩⟩ := hok.2
    · have hsame : s'.db = s.db := by
        rw [hnone] at hdb
        exact (Except.ok.inj hdb).symm
      rw [hsame]
      exact .refl s.db
    · rw [hsaved] at hdb
      obtain ⟨hrequests, hresults⟩ := applyWrites_saved hdb
      exact ⟨fun r hr => (hrequests r).2 (.inl hr), fun r hr => (hresults r).2 (.inl hr)⟩
  | flush writes =>
    simp only [handle] at h
    cases hw : applyWrites s.db (pending tr ++ writes) with
    | error err =>
      rw [hw] at h
      cases h
    | ok db =>
      rw [hw] at h
      cases h
      exact .refl s.db
  | recordDenied event =>
    cases h
    exact ⟨fun _ hr => hr, fun _ hr => hr⟩
  | _ =>
    cases h
    exact .refl s.db

/-- The commit of a new prediction stores it. -/
theorem commit_saved {response : PredictionResponse} (hsaved : Saved call (pending tr) response)
    (h : handle tr .commit s = .ok ((), s')) :
    ∃ request result, Stored s'.db call.ctx.tenantId call.idempotencyKey request result ∧
      Repeats call request ∧ response.predictionId = result.id := by
  obtain ⟨definition, modelVersion, score, events, hwrites, rfl⟩ := hsaved
  have hdb := commit_replied h
  rw [hwrites] at hdb
  obtain ⟨hrequests, hresults⟩ := applyWrites_saved hdb
  exact ⟨_, _, ⟨(hrequests _).2 (.inr rfl), rfl, rfl, rfl, (hresults _).2 (.inr rfl), rfl, rfl⟩,
    ⟨rfl, rfl⟩, rfl⟩

/-! ## A run -/

/-- The requests of `actions`, interleaved. -/
abbrev after (predictors : Predictors libs) (s : Shared libs)
    (actions : List (Action PredictCall)) :
    World (Reply libs) PyError Response PredictCall (Shared libs) :=
  run (Async.step (program predictors) handle) (World.quiet s) actions

theorem after_outlined (predictors : Predictors libs) (s : Shared libs)
    (actions : List (Action PredictCall)) : Outlined Asserts Ends (after predictors s actions) :=
  run_outlined (program_safe predictors) (quiet_outlined s) actions

theorem step_extends {w : World (Reply libs) PyError Response PredictCall (Shared libs)}
    (hw : Outlined Asserts Ends w) (a : Action PredictCall) :
    Extends w.shared.db (Async.step (program predictors) handle w a).shared.db := by
  rcases Async.step_cases (program predictors) handle w a with he | ⟨tid, call, -, -, he⟩ |
    ⟨tid, call, tr, e, next, r, s', -, ht, hr, he⟩ | ⟨tid, call, tr, e, next, err, -, -, -, he⟩
  all_goals rw [he]
  · exact .refl _
  · exact .refl _
  · exact handle_extends (hw.awaits ht).1 hr
  · exact .refl _

theorem after_extends {before actions : List (Action PredictCall)} (h : before <+: actions) :
    Extends (after predictors s before).shared.db (after predictors s actions).shared.db := by
  obtain ⟨rest, rfl⟩ := h
  have happend : after predictors s (before ++ rest) =
      run (Async.step (program predictors) handle) (after predictors s before) rest := run_append ..
  rw [happend]
  refine (run_invariant (I := fun w => Outlined Asserts Ends w ∧
    Extends (after predictors s before).shared.db w.shared.db) (fun w a hw => ?_)
    ⟨after_outlined predictors s before, .refl _⟩ rest).2
  exact ⟨step_outlined (program_safe predictors) hw.1 a, hw.2.trans (step_extends hw.1 a)⟩

/-- The request `call` was answered with a prediction. -/
def Answered (w : World (Reply libs) PyError Response PredictCall (Shared libs))
    (call : PredictCall) (response : PredictionResponse) : Prop :=
  ∃ tid tr, w.tasks tid = some ⟨call, tr, done (.ok (.success response))⟩

theorem answer_stored {actions : List (Action PredictCall)} {response : PredictionResponse}
    (h : Answered (after predictors s actions) call response) :
    ∃ request result, Stored (after predictors s actions).shared.db call.ctx.tenantId
      call.idempotencyKey request result ∧ response.predictionId = result.id := by
  obtain ⟨tid, tr, ht⟩ := h
  obtain ⟨before, rfl, -, hjustified⟩ := (after_outlined predictors s actions).returned ht
  rcases hjustified with ⟨-, hreplayed⟩ | hsaved
  · obtain ⟨key, request, result, modelVersion, hkey, hrequest, hstatus, hresult, rfl⟩ := hreplayed
    obtain ⟨pre, a, hpre, tr, hr⟩ := replied ht (List.mem_append_left _ hrequest)
    obtain ⟨pre', a', hpre', tr', hr'⟩ := replied ht (List.mem_append_left _ hresult)
    obtain ⟨hmem, htenant, hrow⟩ := requestByKey_replied hr
    obtain ⟨hmem', hof, htenant'⟩ := resultByRequest_replied hr'
    obtain ⟨hcall, -⟩ := Option.filter_eq_some_iff.1 hkey
    refine ⟨request, result, ⟨?_, htenant, hrow.trans hcall.symm, hstatus, ?_, hof, htenant'⟩, rfl⟩
    · exact (after_extends ((List.prefix_append _ _).trans hpre)).requests _ hmem
    · exact (after_extends ((List.prefix_append _ _).trans hpre')).results _ hmem'
  · have htrace : before ++ [⟨.commit, ()⟩] = before ++ ⟨.commit, ()⟩ :: ([] : Trace (Reply libs)) := rfl
    obtain ⟨pre, a, hpre, hr⟩ := replied_at ht htrace
    obtain ⟨request, result, hstored, -, hid⟩ := commit_saved hsaved hr
    exact ⟨request, result, hstored.mono (after_extends hpre), hid⟩

/-! ## One key -/

/-- The committed requests for a key. -/
def requestsFor (db : Database) (tenantId : Uuid) (key : String) : Set PredictionRequest :=
  {request | request ∈ db.requests ∧ request.tenantId = tenantId ∧
    request.idempotencyKey = some key}

/-- The committed results of the requests for a key. -/
def resultsFor (db : Database) (tenantId : Uuid) (key : String) : Set PredictionResult :=
  {result | result ∈ db.results ∧
    ∃ request ∈ requestsFor db tenantId key, result.predictionRequestId = request.id}

/-- The prediction ids that requests with a key were answered with. -/
def answersFor (w : World (Reply libs) PyError Response PredictCall (Shared libs))
    (tenantId : Uuid) (key : String) : Set Uuid :=
  {predictionId | ∃ call response, Answered w call response ∧ call.ctx.tenantId = tenantId ∧
    call.idempotencyKey = some key ∧ predictionId = response.predictionId}

theorem requestsFor_subsingleton (db : Database) (tenantId : Uuid) (key : String) :
    (requestsFor db tenantId key).Subsingleton := by
  rintro request ⟨hmem, htenant, hkey⟩ request' ⟨hmem', htenant', hkey'⟩
  exact Keyed.Indexed.eq_of_index hmem hmem' (i := (tenantId, key))
    (by simp [PredictionRequest.index, htenant, hkey])
    (by simp [PredictionRequest.index, htenant', hkey'])

theorem resultsFor_subsingleton (db : Database) (tenantId : Uuid) (key : String) :
    (resultsFor db tenantId key).Subsingleton := by
  rintro result ⟨hmem, request, hrequest, hof⟩ result' ⟨hmem', request', hrequest', hof'⟩
  obtain rfl := requestsFor_subsingleton db tenantId key hrequest hrequest'
  exact Keyed.Indexed.eq_of_index hmem hmem' (i := request.id)
    (by simp [PredictionResult.index, hof]) (by simp [PredictionResult.index, hof'])

theorem Stored.mem_resultsFor {tenantId : Uuid} {key : String} {request : PredictionRequest}
    {result : PredictionResult} (h : Stored db tenantId (some key) request result) :
    result ∈ resultsFor db tenantId key := by
  obtain ⟨hrequest, htenant, hkey, -, hresult, hof, -⟩ := h
  exact ⟨hresult, request, ⟨hrequest, htenant, hkey⟩, hof⟩

/-- In every interleaving of requests there are at most one request, one result and one prediction
id for a tenant's key, and an answer names the result that is stored. -/
theorem one_answer (predictors : Predictors libs) (s : Shared libs)
    (actions : List (Action PredictCall)) (tenantId : Uuid) (key : String) :
    (requestsFor (after predictors s actions).shared.db tenantId key).Subsingleton ∧
    (resultsFor (after predictors s actions).shared.db tenantId key).Subsingleton ∧
    (answersFor (after predictors s actions) tenantId key).Subsingleton ∧
    ∀ predictionId ∈ answersFor (after predictors s actions) tenantId key,
      ∃ result ∈ resultsFor (after predictors s actions).shared.db tenantId key,
        predictionId = result.id := by
  have hstored : ∀ predictionId ∈ answersFor (after predictors s actions) tenantId key,
      ∃ result ∈ resultsFor (after predictors s actions).shared.db tenantId key,
        predictionId = result.id := by
    rintro _ ⟨call, response, hanswered, rfl, hkey, rfl⟩
    obtain ⟨request, result, hstored, hid⟩ := answer_stored hanswered
    rw [hkey] at hstored
    exact ⟨result, hstored.mem_resultsFor, hid⟩
  refine ⟨requestsFor_subsingleton _ tenantId key, resultsFor_subsingleton _ tenantId key, ?_,
    hstored⟩
  intro a ha b hb
  obtain ⟨result, hresult, rfl⟩ := hstored a ha
  obtain ⟨result', hresult', rfl⟩ := hstored b hb
  rw [resultsFor_subsingleton _ tenantId key hresult hresult']

end Service

end Inference

end HermesRpt
