import HermesRpt.Extraction.OwnLabel
import HermesRpt.Inference.Failures
import HermesRpt.Inference.Idempotent

/-!
# HermesRpt.Inference.Replays

Predict calls one after the other. A replay gives the stored prediction of the key, whatever the
call asks.

* `conversation`  : the calls with their answers.
* `AnswersItself` : every answer is about the trip and the instant of its own call.
* `AnswersAgain`  : a call that repeats a key and its inputs gets the first prediction.
* `FitsItsKey`    : the key's stored prediction is about the inputs of the call; for the empty key,
  which is not looked up, it is not.
* `answers_its_own_question` : both hold when every call fits its key.
-/

namespace HermesRpt

namespace Inference

namespace Service

open Registry Features
open Async Code Machine

section

variable {libs : Libraries}

/-- The calls with their answers. -/
def conversation (predictors : Predictors libs) (s : Shared libs) :
    List PredictCall → List (PredictCall × Except PyError Response)
  | [] => []
  | call :: calls =>
    (call, (answer predictors call s).1) :: conversation predictors (answer predictors call s).2.2 calls

theorem mem_conversation_two (predictors : Predictors libs) (s : Shared libs)
    (first second : PredictCall) :
    (second, (answer predictors second (answer predictors first s).2.2).1) ∈
      conversation predictors s [first, second] :=
  List.mem_cons_of_mem _ (List.mem_singleton_self _)

/-- The state after a call. -/
def afterCall (predictors : Predictors libs) (s : Shared libs) (call : PredictCall) : Shared libs :=
  (answer predictors call s).2.2

def AnswersItself (exchange : PredictCall × Except PyError Response) : Prop :=
  ∀ response, exchange.2 = .ok (.success response) →
    response.businessReference = exchange.1.businessReference ∧
      response.predictionTime.micros = exchange.1.predictionTime.micros

def AnswersAgain (first second : PredictCall × Except PyError Response) : Prop :=
  ∀ response key, first.2 = .ok (.success response) →
    first.1.ctx.tenantId = second.1.ctx.tenantId →
    first.1.idempotencyKey = some key → second.1.idempotencyKey = some key →
    first.1.businessReference = second.1.businessReference →
    first.1.predictionTime.micros = second.1.predictionTime.micros →
    ∃ response', second.2 = .ok (.success response') ∧
      response'.predictionId = response.predictionId

def FitsItsKey (s : Shared libs) (call : PredictCall) : Prop :=
  ∀ key request result, call.idempotencyKey = some key →
    Stored s.db call.ctx.tenantId (some key) request result → (Repeats call request ↔ key ≠ "")

variable {predictors : Predictors libs} {call : PredictCall} {s : Shared libs}

/-! ## One call -/

/-- The key of a call, when it is looked up. -/
theorem key_eq_some {key : String} :
    call.key = some key ↔ call.idempotencyKey = some key ∧ key ≠ "" := by
  simp [PredictCall.key, Option.filter_eq_some_iff]

/-- A stored prediction is given again. -/
theorem answer_replay (predictors : Predictors libs) {key : String} {request : PredictionRequest} {result : PredictionResult}
    (hkey : call.key = some key)
    (h : Stored s.db call.ctx.tenantId (some key) request result) :
    ∃ modelVersion,
      (answer predictors call s).1 = .ok (.success (replay request result modelVersion)) := by
  obtain ⟨hrequest, htenant, hrow, hstatus, hresult, hof, htenant'⟩ := h
  have hlookup : s.db.requests.lookup (call.ctx.tenantId, key) = some request :=
    Keyed.Indexed.lookup_eq_some.2 ⟨hrequest, by simp [PredictionRequest.index, htenant, hrow]⟩
  have hfound : (s.db.results.lookup request.id).filter (·.tenantId = call.ctx.tenantId) =
      some result := by
    have hlookup' : s.db.results.lookup request.id = some result :=
      Keyed.Indexed.lookup_eq_some.2 ⟨hresult, by simp [PredictionResult.index, hof]⟩
    rw [hlookup', Option.filter_eq_some_iff]
    exact ⟨rfl, by simpa using htenant'⟩
  refine ⟨s.db.plane.models.find? result.modelVersionId, ?_⟩
  simp [answer, program, predict, hkey, cachedResponse, serve, handle, hlookup, hstatus, hfound,
    applyWrites, written, Except.map, pure, Except.pure]

/-- What a request on its own has read is what it found at its start, and what it commits it has
found free at its end. -/
structure Reads (call : PredictCall) (s : Shared libs) (tr : Trace (Reply libs)) (s' : Shared libs) :
    Prop where
  unsaved : Clean tr → Unsaved call s.db s'.db
  grows : Extends s.db s'.db
  request : ∀ key request, ⟨.requestByKey key call.ctx, some request⟩ ∈ tr →
    request ∈ s.db.requests ∧ request.tenantId = call.ctx.tenantId ∧
      request.idempotencyKey = some key
  result : ∀ requestId result, ⟨.resultByRequest requestId call.ctx, some result⟩ ∈ tr →
    result ∈ s.db.results ∧ result.predictionRequestId = requestId ∧
      result.tenantId = call.ctx.tenantId
  saved : ∀ before response, tr = before ++ [⟨.commit, ()⟩] → Saved call (pending before) response →
    ∃ request result, Stored s'.db call.ctx.tenantId call.idempotencyKey request result ∧
      Repeats call request ∧ response.predictionId = result.id

theorem handle_reads {tr : Trace (Reply libs)} {e : Await libs} {r : Reply libs e}
    {s₁ s₂ : Shared libs} (h : Reads call s tr s₁) (hok : Asserts call tr e)
    (hr : handle tr e s₁ = .ok (r, s₂)) : Reads call s (tr ++ [⟨e, r⟩]) s₂ := by
  obtain ⟨hrequests, hresults, -⟩ := h.unsaved hok.1
  refine ⟨fun hclean => ?_, h.grows.trans (handle_extends hok hr), fun key request hm => ?_,
    fun requestId result hm => ?_, fun before response htrace hsaved => ?_⟩
  · rw [clean_append] at hclean
    exact handle_unsaved (h.unsaved hok.1) hok (hclean.2 _ (List.mem_singleton_self _)) hr
  · rcases List.mem_append.1 hm with hm | hm
    · exact h.request key request hm
    · cases List.mem_singleton.1 hm
      rw [← hrequests]
      exact requestByKey_replied hr
  · rcases List.mem_append.1 hm with hm | hm
    · exact h.result requestId result hm
    · cases List.mem_singleton.1 hm
      rw [← hresults]
      exact resultByRequest_replied hr
  · obtain ⟨rfl, hlast⟩ := List.append_inj' htrace rfl
    cases hlast
    exact commit_saved hsaved hr

theorem answer_reads (predictors : Predictors libs) (call : PredictCall) (s : Shared libs) :
    Reads call s (answer predictors call s).2.1 (answer predictors call s).2.2 := by
  refine serve_invariant (I := Reads call s) (fun tr e s₁ r s₂ hI hok _ hr => handle_reads hI hok hr)
    (program_safe predictors call) ⟨fun _ => unsaved_refl call s.db, .refl s.db, by simp, by simp, ?_⟩
  intro before response htrace
  simp at htrace

/-- A prediction that is answered was stored before the call, or the call stores it. -/
theorem answer_success {response : PredictionResponse}
    (h : (answer predictors call s).1 = .ok (.success response)) :
    (∃ key request result modelVersion, call.key = some key ∧
      Stored s.db call.ctx.tenantId (some key) request result ∧
      response = replay request result modelVersion) ∨
    (∃ request result, Stored (answer predictors call s).2.2.db call.ctx.tenantId
      call.idempotencyKey request result ∧ Repeats call request ∧
      response.predictionId = result.id) ∧
    response.businessReference = call.businessReference ∧
      response.predictionTime = call.predictionTime := by
  have hreads := answer_reads predictors call s
  have hends : Ends call (answer predictors call s).2.1 (answer predictors call s).1 := by
    rcases serve_ends (program_safe predictors call)
      (rfl : answer predictors call s = _) with hend | ⟨err, herr, -⟩
    · exact hend
    · cases h.symm.trans herr
  rw [h] at hends
  obtain ⟨before, htrace, -, ⟨-, hreplayed⟩ | hsaved⟩ := hends
  · obtain ⟨key, request, result, modelVersion, hkey, hrequest, hstatus, hresult, hresponse⟩ :=
      hreplayed
    obtain ⟨hmem, htenant, hrow⟩ := hreads.request key request (by simp [htrace, hrequest])
    obtain ⟨hmem', hof, htenant'⟩ := hreads.result request.id result (by simp [htrace, hresult])
    exact .inl ⟨key, request, result, modelVersion, hkey,
      ⟨hmem, htenant, hrow, hstatus, hmem', hof, htenant'⟩, hresponse⟩
  · refine .inr ⟨hreads.saved before response htrace hsaved, ?_⟩
    obtain ⟨definition, modelVersion, score, events, -, rfl⟩ := hsaved
    exact ⟨rfl, rfl⟩

theorem answers_itself (hfits : FitsItsKey s call) :
    AnswersItself (call, (answer predictors call s).1) := by
  intro response h
  rcases answer_success h with
    ⟨key, request, result, modelVersion, hkey, hstored, rfl⟩ | ⟨-, hbusiness, htime⟩
  · obtain ⟨hcall, hne⟩ := key_eq_some.1 hkey
    obtain ⟨hbusiness, htime⟩ := (hfits key request result hcall hstored).2 hne
    exact ⟨hbusiness, by rw [replay, htime, inUtc]⟩
  · exact ⟨hbusiness, by rw [htime]⟩

/-- The prediction of an answer is stored, with the inputs of its call. -/
theorem answered_stored {response : PredictionResponse} {key : String} (hfits : FitsItsKey s call)
    (hkey : call.idempotencyKey = some key)
    (h : (answer predictors call s).1 = .ok (.success response)) :
    ∃ request result, Stored (afterCall predictors s call).db call.ctx.tenantId (some key) request
      result ∧ Repeats call request ∧ response.predictionId = result.id := by
  rcases answer_success h with ⟨key', request, result, modelVersion, hkey', hstored, rfl⟩ | ⟨hnew, -⟩
  · obtain ⟨hcall, hne⟩ := key_eq_some.1 hkey'
    obtain rfl : key = key' := Option.some.inj (hkey.symm.trans hcall)
    exact ⟨request, result, hstored.mono (answer_reads predictors call s).grows,
      (hfits key request result hcall hstored).2 hne, rfl⟩
  · rw [hkey] at hnew
    exact hnew

/-- A stored prediction is the answer to every later call that repeats it under its key. -/
theorem conversation_repeats {calls : List PredictCall} {tenantId : Uuid} {key : String}
    {request : PredictionRequest} {result : PredictionResult}
    (hfits : Meets (afterCall predictors) FitsItsKey s calls)
    (hstored : Stored s.db tenantId (some key) request result) :
    ∀ exchange ∈ conversation predictors s calls, exchange.1.ctx.tenantId = tenantId →
      exchange.1.idempotencyKey = some key → Repeats exchange.1 request →
      ∃ response, exchange.2 = .ok (.success response) ∧ response.predictionId = result.id := by
  induction calls generalizing s with
  | nil => simp [conversation]
  | cons call calls ih =>
    intro exchange hmem htenant hkey hrepeats
    rcases List.mem_cons.1 hmem with rfl | hmem
    · subst htenant
      have hne : key ≠ "" := (hfits.1 key request result hkey hstored).1 hrepeats
      obtain ⟨modelVersion, h⟩ :=
        answer_replay predictors (key_eq_some.2 ⟨hkey, hne⟩) hstored
      exact ⟨_, h, rfl⟩
    · exact ih hfits.2 (hstored.mono (answer_reads predictors call s).grows) exchange hmem htenant
        hkey hrepeats

/-! ## A conversation -/

/-- In a conversation in which every call fits its key, every answer is about its own call, and a
key with the same inputs gets the first prediction again. -/
theorem answers_its_own_question {calls : List PredictCall}
    (hfits : Meets (afterCall predictors) FitsItsKey s calls) :
    (∀ exchange ∈ conversation predictors s calls, AnswersItself exchange) ∧
      (conversation predictors s calls).Pairwise AnswersAgain := by
  induction calls generalizing s with
  | nil => simp [conversation]
  | cons call calls ih =>
    obtain ⟨hitself, hagain⟩ := ih hfits.2
    constructor
    · intro exchange hmem
      rcases List.mem_cons.1 hmem with rfl | hmem
      · exact answers_itself hfits.1
      · exact hitself exchange hmem
    · refine List.pairwise_cons.2 ⟨fun exchange hmem => ?_, hagain⟩
      intro response key hok htenant hkey hkey' hbusiness htime
      obtain ⟨request, result, hstored, hrepeats, hid⟩ := answered_stored hfits.1 hkey hok
      have hrepeats' : Repeats exchange.1 request := by
        refine ⟨hrepeats.1.trans hbusiness, hrepeats.2.trans ?_⟩
        rw [inUtc, inUtc, htime]
      rw [hid]
      exact conversation_repeats hfits.2 hstored exchange hmem htenant.symm hkey' hrepeats'

end

namespace Sample

open Inference.Sample

/-- The sample's trips, with a model in production. -/
def served : Shared libraries where
  db := {
    plane := { Extraction.Sample.servedTrips with models := ⟨[delayModel], by decide⟩ }
    taskDefinitions := (Keyed.Indexed.empty.insert? definition).getD .empty }
  loading := start

/-- A call with the key "k" about a trip. -/
def aboutTrip (trip : String) (requestId resultId : Uuid) : PredictCall where
  ctx := HermesRpt.Sample.ctx
  businessReference := trip
  predictionTime := ⟨2000, 0⟩
  idempotencyKey := some "k"
  requestId
  resultId
  env := Extraction.Sample.planned
  around := answering fun _ => 0

def firstTrip : PredictCall := aboutTrip "t1" 50 60

def sameTrip : PredictCall := aboutTrip "t1" 51 61

def otherTrip : PredictCall := aboutTrip "t0" 51 61

/-- The trip and the prediction id of an answer. -/
def answered (result : Except PyError Response) : Option (String × Uuid) :=
  match result with
  | .ok (.success response) => some (response.businessReference, response.predictionId)
  | _ => none

/-- An answer about the first trip is not one to the call about the other. -/
theorem not_answersItself {result : Except PyError Response}
    (h : answered result = some ("t1", 60)) : ¬AnswersItself (otherTrip, result) := by
  intro hitself
  rcases result with err | response | _
  · cases h
  · have hown : response.businessReference = "t0" := (hitself response rfl).1
    have htrip : response.businessReference = "t1" := (Prod.mk.inj (Option.some.inj h)).1
    rw [htrip] at hown
    exact absurd hown (by decide)
  · cases h

theorem fits_served (call : PredictCall) : FitsItsKey served call := by
  intro key request result _ hstored
  have hempty : served.db.requests.table.rows = [] := rfl
  have hmem : request ∈ served.db.requests.table.rows := hstored.1
  rw [hempty] at hmem
  cases hmem

theorem fits_sameTrip : FitsItsKey (afterCall predictors served firstTrip) sameTrip := by
  intro key request result hkey hstored
  have hrows : (afterCall predictors served firstTrip).db.requests.table.rows.map
      (fun r => (r.businessReference, r.predictionTime)) = [("t1", ⟨2000, 0⟩)] := by
    decide +kernel
  have hmem : (request.businessReference, request.predictionTime) ∈
      (afterCall predictors served firstTrip).db.requests.table.rows.map
        (fun r => (r.businessReference, r.predictionTime)) := List.mem_map_of_mem hstored.1
  rw [hrows, List.mem_singleton, Prod.mk.injEq] at hmem
  cases hkey
  exact iff_of_true hmem (by decide)

end Sample

theorem answers_its_own_question_sample :
    (∀ exchange ∈ conversation Sample.predictors Sample.served [Sample.firstTrip, Sample.sameTrip],
      AnswersItself exchange) ∧
    (conversation Sample.predictors Sample.served [Sample.firstTrip, Sample.sameTrip]).Pairwise
      AnswersAgain ∧
    (conversation Sample.predictors Sample.served [Sample.firstTrip, Sample.sameTrip]).map
      (Sample.answered ·.2) = [some ("t1", 60), some ("t1", 60)] := by
  obtain ⟨hitself, hagain⟩ := @answers_its_own_question Inference.Sample.libraries
    Sample.predictors Sample.served [Sample.firstTrip, Sample.sameTrip]
    ⟨Sample.fits_served Sample.firstTrip, Sample.fits_sameTrip, trivial⟩
  exact ⟨hitself, hagain, by decide +kernel⟩

/-- A key used for one trip answers a call about another with the first trip's prediction. -/
theorem replays_other_trip :
    (conversation Sample.predictors Sample.served [Sample.firstTrip, Sample.otherTrip]).map
      (Sample.answered ·.2) = [some ("t1", 60), some ("t1", 60)] ∧
    ¬∀ exchange ∈ conversation Sample.predictors Sample.served
      [Sample.firstTrip, Sample.otherTrip], AnswersItself exchange := by
  refine ⟨by decide +kernel, fun h => ?_⟩
  have hanswered : Sample.answered (answer Sample.predictors Sample.otherTrip
      (answer Sample.predictors Sample.firstTrip Sample.served).2.2).1 = some ("t1", 60) := by
    decide +kernel
  exact Sample.not_answersItself hanswered (h _ (mem_conversation_two ..))

end Service

end Inference

end HermesRpt
