import HermesRpt.Extraction.Recorded
import HermesRpt.Inference.Ledger

/-!
# HermesRpt.Inference.Accounts

The books of the predictions. Requests, results and events of executed predictions stand in three
places and are written by interleaved sessions; they stay in step, and every answer is one of them.

* `Account`   : a completed request with its result and its event.
* `Accounted` : the three places hold the same accounts, in one order, and what the results refer to
  exists.
* `Shows`     : the answer to a call is the account.
* `predictions_accounted` : every run keeps the books, and answers by them.
-/

namespace HermesRpt

namespace Inference

namespace Service

open Registry Features
open Async Code Machine

variable {libs : Libraries} {predictors : Predictors libs} {call : PredictCall}
  {tr : Trace (Reply libs)} {s s' : Shared libs} {db db' : Database}

/-- What a request, its result and its event say of one another. -/
structure Settled (request : PredictionRequest) (result : PredictionResult) (event : AuditEvent) :
    Prop where
  completed : request.status = .COMPLETED
  answers : result.predictionRequestId = request.id
  tenant : result.tenantId = request.tenantId
  graded : result.output.riskLevel = riskLevelFor result.output.delayProbability
  featureVersion : result.featureVersion = deliveryDelayRiskContract.version
  event : event = {
    tenantId := some request.tenantId, principalId := some request.requestedByPrincipalId,
    principalType := event.principalType, action := "prediction.execute",
    resourceType := some "PredictionRequest", resourceId := some request.id, outcome := .SUCCESS,
    correlationId := request.correlationId,
    details := [("task_key", some (.str deliveryDelayRiskContract.taskKey)),
      ("model_version_id", some (.str (uuidStr result.modelVersionId)))] }

structure Account where
  request : PredictionRequest
  result : PredictionResult
  event : AuditEvent
  settled : Settled request result event

/-- The events of executed predictions, in their order. -/
def executions (db : Database) : List AuditEvent :=
  db.plane.audit.filter (·.action = "prediction.execute")

/-- The three places hold these accounts. -/
structure Books (db : Database) (accounts : List Account) : Prop where
  requests : accounts.map (·.request) = db.requests.table.rows
  results : accounts.map (·.result) = db.results.table.rows
  events : accounts.map (·.event) = executions db

structure Accounted (db : Database) (accounts : List Account) : Prop where
  books : Books db accounts
  refers : ∀ result ∈ db.results, db.refers result = true

structure Shows (call : PredictCall) (response : PredictionResponse) (account : Account) : Prop where
  tenant : account.request.tenantId = call.ctx.tenantId
  predictionId : response.predictionId = account.result.id
  businessReference : response.businessReference = account.request.businessReference
  predictionTime : response.predictionTime.micros = account.request.predictionTime.micros
  delayProbability : response.delayProbability = account.result.output.delayProbability
  riskLevel : response.riskLevel = account.result.output.riskLevel
  featureVersion : response.featureVersion = account.result.featureVersion
  explanations : response.explanations = account.result.explanations

/-! ## The books -/

/-- The account of a prediction that was computed. -/
def PredictCall.account (call : PredictCall) (definition : PredictionTaskDefinition)
    (modelVersion : ModelVersion) (score : Score) : Account where
  request := { call.request definition with status := .COMPLETED }
  result := call.result modelVersion score
  event := call.successEvent modelVersion
  settled := ⟨rfl, rfl, rfl, rfl, rfl, rfl⟩

theorem addResult_refers {result : PredictionResult} (h : addResult db result = .ok db') :
    db.refers result = true := by
  unfold addResult at h
  split at h
  · rename_i hrefers _
    exact hrefers
  · cases h

theorem refers_mono {result : PredictionResult}
    (hrequests : ∀ id, (db.requests.table.find? id).isSome → (db'.requests.table.find? id).isSome)
    (hmodels : ∀ id, (db.plane.models.find? id).isSome → (db'.plane.models.find? id).isSome)
    (hversions : ∀ id, (db.plane.versions.find? id).isSome → (db'.plane.versions.find? id).isSome)
    (h : db.refers result = true) : db'.refers result = true := by
  unfold Database.refers at h ⊢
  rw [Bool.and_eq_true, Bool.and_eq_true] at h ⊢
  refine ⟨⟨hrequests _ h.1.1, hmodels _ h.1.2⟩, ?_⟩
  cases hid : result.mappingVersionId with
  | none =>
    rw [hid] at h
    exact h.2
  | some id =>
    rw [hid] at h
    exact hversions id h.2

theorem find?_isSome_setStatus (requestId : Uuid) (status : PredictionStatus) {id : Uuid}
    (h : (db.requests.table.find? id).isSome) :
    ((db.setStatus requestId status).requests.table.find? id).isSome := by
  show ((db.requests.table.update requestId (fun r => { r with status }) (fun _ => rfl)).find? id).isSome
  rw [Keyed.Table.find?_update]
  split
  · rw [Option.isSome_map]
    exact h
  · exact h

/-- A commit appends one row to each table, and its events. -/
theorem applyWrites_saved_rows {definition : PredictionTaskDefinition}
    {modelVersion : ModelVersion} {score : Score} {events : List AuditEvent}
    (h : applyWrites db (savedWrites call definition modelVersion score events) = .ok db') :
    db'.requests.table.rows =
      db.requests.table.rows ++ [(call.account definition modelVersion score).request] ∧
    db'.results.table.rows = db.results.table.rows ++ [call.result modelVersion score] ∧
    db'.plane = { db.plane with
      audit := db.plane.audit ++ events ++ [call.successEvent modelVersion] } ∧
    db'.refers (call.result modelVersion score) = true := by
  rw [savedWrites, applyWrites_append] at h
  obtain ⟨db₂, hopened, h⟩ := Effect.except_bind_ok.1 h
  obtain ⟨db₁, hadd, hevents⟩ := Effect.except_bind_ok.1 hopened
  obtain ⟨requests, hinsert, rfl⟩ := addRequest_ok hadd
  obtain rfl : db₂ = Database.log { db with requests } events :=
    Except.ok.inj (hevents.symm.trans (applyWrites_audit _ events))
  obtain ⟨db₃, haddResult, h⟩ := Effect.except_bind_ok.1 h
  have hrefers := addResult_refers haddResult
  obtain ⟨results, hresult, rfl⟩ := addResult_ok haddResult
  obtain ⟨db₄, hset, h⟩ := Effect.except_bind_ok.1 h
  obtain rfl := updateStatus_ok hset
  cases h
  refine ⟨Keyed.Indexed.rows_update_insert? (f := fun r : PredictionRequest => { r with status := .COMPLETED })
      (fun _ => rfl) (fun _ => rfl) hinsert,
    (Keyed.Table.insert?_eq_some.1 (Keyed.Indexed.insert?_eq_some.1 hresult).2).2, rfl, ?_⟩
  refine refers_mono ?_ ?_ ?_ hrefers
  · exact fun _ hid => find?_isSome_setStatus _ _ hid
  · exact fun _ hid => hid
  · exact fun _ hid => hid

/-- Rows that are appended lose none. -/
theorem find?_isSome_append {ρ : Type} [Keyed.HasKey ρ Uuid] {t t' : Keyed.Table ρ} {new : List ρ}
    (h : t'.rows = t.rows ++ new) {id : Uuid} (hid : (t.find? id).isSome) : (t'.find? id).isSome := by
  rw [Keyed.Table.find?] at hid ⊢
  rw [h, List.find?_append, Option.isSome_or, hid, Bool.true_or]

/-- The event of a prediction is the only one of its action in a commit. -/
theorem executions_saved {events : List AuditEvent} {event : AuditEvent}
    (haudit : db'.plane.audit = db.plane.audit ++ events ++ [event])
    (hevents : ∀ e ∈ events, e.action ≠ "prediction.execute")
    (hevent : event.action = "prediction.execute") :
    executions db' = executions db ++ [event] := by
  have hnone : events.filter (fun e => e.action = "prediction.execute") = [] :=
    List.filter_eq_nil_iff.2 fun e he => by simpa using hevents e he
  rw [executions, haudit, List.filter_append, List.filter_append, hnone, List.append_nil,
    List.filter_singleton]
  simp [hevent, executions]

theorem Accounted.saved {accounts : List Account} {definition : PredictionTaskDefinition}
    {modelVersion : ModelVersion} {score : Score} {events : List AuditEvent}
    (h : Accounted db accounts) (hevents : ∀ e ∈ events, e.action ≠ "prediction.execute")
    (hcommit : applyWrites db (savedWrites call definition modelVersion score events) = .ok db') :
    Accounted db' (accounts ++ [call.account definition modelVersion score]) := by
  obtain ⟨hrequests, hresults, hplane, hrefers⟩ := applyWrites_saved_rows hcommit
  refine ⟨⟨?_, ?_, ?_⟩, fun result hresult => ?_⟩
  · rw [List.map_append, h.books.requests, hrequests, List.map_singleton]
  · rw [List.map_append, h.books.results, hresults]
    rfl
  · have haudit : db'.plane.audit =
        db.plane.audit ++ events ++ [call.successEvent modelVersion] := by rw [hplane]
    rw [List.map_append, h.books.events, executions_saved haudit hevents rfl]
    rfl
  · have hmem : result ∈ db'.results.table.rows := hresult
    rw [hresults] at hmem
    rcases List.mem_append.1 hmem with hold | hnew
    · refine refers_mono (fun _ => find?_isSome_append hrequests) ?_ ?_ (h.refers result hold)
      · intro id hid
        rw [hplane]
        exact hid
      · intro id hid
        rw [hplane]
        exact hid
    · rw [List.mem_singleton.1 hnew]
      exact hrefers

theorem Accounted.served {accounts : List Account} (h : Accounted db accounts)
    (serviceCall : ServiceCall) : Accounted (db.serve serviceCall) accounts := by
  have hgrown := grown_apply serviceCall db.plane
  obtain ⟨events, haudit, hevents⟩ := hgrown.audit
  refine ⟨⟨h.books.requests, h.books.results, ?_⟩, fun result hresult =>
    refers_mono ?_ ?_ ?_ (h.refers result hresult)⟩
  rotate_left
  · exact fun _ hid => hid
  · exact hgrown.models
  · exact hgrown.versions
  have hnone : events.filter (fun e => e.action = "prediction.execute") = [] :=
    List.filter_eq_nil_iff.2 fun e he => by simpa using hevents e he
  rw [h.books.events, executions, executions]
  show _ = List.filter _ (serviceCall.apply db.plane).audit
  rw [haudit, List.filter_append, hnone, List.append_nil]

theorem Accounted.denied {accounts : List Account} (h : Accounted db accounts) (call : PredictCall) :
    Accounted (db.log [call.mismatchEvent]) accounts := by
  refine ⟨⟨h.books.requests, h.books.results, ?_⟩, h.refers⟩
  rw [h.books.events, executions, executions, Database.log, List.filter_append]
  simp [PredictCall.mismatchEvent]

/-! ## What a commit finds -/

theorem buildExample_replied {maxRecords : Nat} {r : Except PyError Transformer.RelationalExample}
    {events : List AuditEvent} (h : handle tr (.buildExample call maxRecords) s = .ok ((r, events), s')) :
    ∃ state, Transformer.buildExample call.env s.db.plane call.ctx call.businessReference
        call.predictionTime none maxRecords { pool := s.pool } = (r, state) ∧
      events = state.audit := by
  obtain ⟨hreply, -⟩ := Prod.mk.inj (Except.ok.inj h)
  obtain ⟨hr, hevents⟩ := Prod.mk.inj hreply
  exact ⟨_, Prod.ext hr rfl, hevents.symm⟩

theorem extract_replied {r : Except PyError FeatureBatch} {events : List AuditEvent}
    (h : handle tr (.extract call) s = .ok ((r, events), s')) :
    ∃ state, Features.extract call.env s.db.plane deliveryDelayRiskContract call.ctx
        call.businessReference call.predictionTime { pool := s.pool } = (r, state) ∧
      events = state.audit := by
  obtain ⟨hreply, -⟩ := Prod.mk.inj (Except.ok.inj h)
  obtain ⟨hr, hevents⟩ := Prod.mk.inj hreply
  exact ⟨_, Prod.ext hr rfl, hevents.symm⟩

/-- The events that an extraction gave are its own. -/
theorem extraction_events {tid : Nat} {task : Task (Reply libs) PyError Response PredictCall}
    {actions : List Event} (ht : (traffic predictors s actions).tasks tid = some task)
    {score : Score} {events : List AuditEvent} {loaded : AnyLoadedModel libs}
    (h : Scored predictors task.call task.trace score events loaded) :
    ∀ event ∈ events, event.action ≠ "prediction.execute" := by
  cases loaded with
  | hermesRpt loaded =>
    obtain ⟨ex, hex, -⟩ := h
    obtain ⟨before, rest, hsplit⟩ := List.append_of_mem hex
    obtain ⟨pre, a, next, -, -, hr⟩ := answered_at ht hsplit
    obtain ⟨state, hbuild, rfl⟩ := buildExample_replied hr
    intro event hevent
    exact ((Extraction.buildExample_records _ _ _ _).events hbuild rfl event hevent).elim
  | sklearn loaded =>
    obtain ⟨batch, hbatch, -⟩ := h
    obtain ⟨before, rest, hsplit⟩ := List.append_of_mem hbatch
    obtain ⟨pre, a, next, -, -, hr⟩ := answered_at ht hsplit
    obtain ⟨state, hextract, rfl⟩ := extract_replied hr
    intro event hevent
    rw [((Extraction.extract_records _ _ _).events hextract rfl event hevent).1]
    decide

theorem shows_account (call : PredictCall) (definition : PredictionTaskDefinition)
    (modelVersion : ModelVersion) (score : Score) :
    Shows call (call.response modelVersion score) (call.account definition modelVersion score) :=
  ⟨rfl, rfl, rfl, rfl, rfl, rfl, rfl, rfl⟩

/-! ## The books of a run -/

/-- The account was there at the start, or a request was answered with it. -/
def Recounts (w : World (Reply libs) PyError Response PredictCall (Shared libs)) (account : Account) :
    Prop :=
  ∃ tid call tr response, w.tasks tid = some ⟨call, tr, done (.ok (.success response))⟩ ∧
    account.request.id = call.requestId ∧ Shows call response account

structure Kept (accounts₀ : List Account)
    (w : World (Reply libs) PyError Response PredictCall (Shared libs)) (accounts : List Account) :
    Prop where
  accounted : Accounted w.shared.db accounts
  extends₀ : accounts₀ <+: accounts
  answered : ∀ account ∈ accounts, account ∈ accounts₀ ∨ Recounts w account

theorem kept_step {accounts₀ accounts : List Account} {actions : List Event}
    (h : Kept accounts₀ (traffic predictors s actions) accounts) (a : Event) :
    ∃ accounts', Kept accounts₀ (traffic predictors s (actions ++ [a])) accounts' := by
  have hanswered : ∀ account ∈ accounts, account ∈ accounts₀ ∨
      Recounts (traffic predictors s (actions ++ [a])) account := by
    intro account hmem
    refine (h.answered account hmem).imp_right ?_
    rintro ⟨tid, call, tr, response, ht, hshows⟩
    exact ⟨tid, call, tr, response, by rw [traffic_snoc]; exact tasks_stepWith_done ht a, hshows⟩
  cases database_step predictors s actions a with
  | same hdb => exact ⟨accounts, by rw [hdb]; exact h.accounted, h.extends₀, hanswered⟩
  | served b hdb => exact ⟨accounts, by rw [hdb]; exact h.accounted.served b, h.extends₀, hanswered⟩
  | denied call hdb =>
    exact ⟨accounts, by rw [hdb]; exact h.accounted.denied call, h.extends₀, hanswered⟩
  | @saved tid call tr code definition modelVersion score events ht hderived hdb hdone =>
    obtain ⟨loaded, -, hscored⟩ := hderived.scored
    refine ⟨_, h.accounted.saved (extraction_events ht hscored) hdb,
      h.extends₀.trans (List.prefix_append _ _), fun account hmem => ?_⟩
    rcases List.mem_append.1 hmem with hold | hnew
    · exact hanswered account hold
    · rw [List.mem_singleton.1 hnew]
      exact .inr ⟨tid, call, tr ++ [⟨.commit, ()⟩], _, hdone, rfl,
        shows_account call definition modelVersion score⟩

/-! ## Answers by the books -/

theorem traffic_extends {before actions : List Event} (h : before <+: actions) :
    Extends (traffic predictors s before).shared.db (traffic predictors s actions).shared.db := by
  obtain ⟨rest, rfl⟩ := h
  induction rest using List.reverseRecOn with
  | nil =>
    rw [List.append_nil]
    exact .refl _
  | append_singleton rest a ih =>
    rw [← List.append_assoc]
    refine ih.trans ?_
    cases database_step predictors s (before ++ rest) a with
    | same hdb =>
      rw [hdb]
      exact .refl _
    | served b hdb | denied call hdb =>
      rw [hdb]
      exact ⟨fun _ h => h, fun _ h => h⟩
    | saved _ _ hdb _ =>
      obtain ⟨hrequests, hresults⟩ := applyWrites_saved hdb
      exact ⟨fun r hr => (hrequests r).2 (.inl hr), fun r hr => (hresults r).2 (.inl hr)⟩

/-- A stored request and its result are one account. -/
theorem Accounted.account {accounts : List Account} (h : Accounted db accounts)
    {request : PredictionRequest} {result : PredictionResult} (hrequest : request ∈ db.requests)
    (hresult : result ∈ db.results) (hof : result.predictionRequestId = request.id) :
    ∃ account ∈ accounts, account.request = request ∧ account.result = result := by
  have hmem : result ∈ db.results.table.rows := hresult
  rw [← h.books.results] at hmem
  obtain ⟨account, haccount, rfl⟩ := List.mem_map.1 hmem
  refine ⟨account, haccount, ?_, rfl⟩
  have hown : account.request ∈ db.requests.table.rows := by
    rw [← h.books.requests]
    exact List.mem_map_of_mem haccount
  exact Keyed.Table.eq_of_key_eq hown hrequest (account.settled.answers.symm.trans hof)

theorem shows_replay {account : Account} (htenant : account.request.tenantId = call.ctx.tenantId)
    (modelVersion : Option ModelVersion) :
    Shows call (Service.replay account.request account.result modelVersion) account :=
  ⟨htenant, rfl, rfl, rfl, rfl, rfl, rfl, rfl⟩

/-- Every answer is an account: the one that it stored, or the one that it replays. -/
theorem answered_account {accounts : List Account} {actions : List Event}
    (h : Accounted (traffic predictors s actions).shared.db accounts) {tid : Nat}
    {response : PredictionResponse}
    (ht : (traffic predictors s actions).tasks tid =
      some ⟨call, tr, done (.ok (.success response))⟩) :
    ∃ account ∈ accounts, Shows call response account := by
  obtain ⟨before, rfl, -, hgrounded⟩ :=
    (traffic_charted predictors s actions).outlined.returned ht
  rcases hgrounded with ⟨-, key, request, result, modelVersion, -, hrequest, -, hresult, rfl⟩ |
    ⟨definition, modelVersion, score, events, hsaved, rfl, -⟩
  · obtain ⟨b₁, r₁, hsplit₁⟩ := List.append_of_mem (List.mem_append_left [⟨.commit, ()⟩] hrequest)
    obtain ⟨b₂, r₂, hsplit₂⟩ := List.append_of_mem (List.mem_append_left [⟨.commit, ()⟩] hresult)
    obtain ⟨pre₁, a₁, next₁, hpre₁, -, hr₁⟩ := answered_at ht hsplit₁
    obtain ⟨pre₂, a₂, next₂, hpre₂, -, hr₂⟩ := answered_at ht hsplit₂
    obtain ⟨hmem₁, htenant, -⟩ := requestByKey_replied hr₁
    obtain ⟨hmem₂, hof, -⟩ := resultByRequest_replied hr₂
    obtain ⟨account, hmem, rfl, rfl⟩ := h.account
      ((traffic_extends ((List.prefix_append _ _).trans hpre₁)).requests _ hmem₁)
      ((traffic_extends ((List.prefix_append _ _).trans hpre₂)).results _ hmem₂) hof
    exact ⟨account, hmem, shows_replay htenant modelVersion⟩
  · have hsplit : before ++ [⟨.commit, ()⟩] = before ++ ⟨.commit, ()⟩ :: ([] : Trace (Reply libs)) :=
      rfl
    obtain ⟨pre, a, next, hpre, -, hr⟩ := answered_at ht hsplit
    have hdb := commit_replied hr
    rw [hsaved] at hdb
    obtain ⟨hrequests, hresults⟩ := applyWrites_saved hdb
    obtain ⟨account, hmem, hrequest, hresult⟩ := h.account
      ((traffic_extends hpre).requests _ ((hrequests _).2 (.inr rfl)))
      ((traffic_extends hpre).results _ ((hresults _).2 (.inr rfl))) rfl
    refine ⟨account, hmem, ?_⟩
    have hshows := shows_account call definition modelVersion score
    exact ⟨by rw [hrequest]; exact hshows.tenant, by rw [hresult]; exact hshows.predictionId,
      by rw [hrequest]; exact hshows.businessReference, by rw [hrequest]; exact hshows.predictionTime,
      by rw [hresult]; exact hshows.delayProbability, by rw [hresult]; exact hshows.riskLevel,
      by rw [hresult]; exact hshows.featureVersion, by rw [hresult]; exact hshows.explanations⟩

/-- From books in step, every interleaving of requests and calls of the other services leaves books in
step. No account is changed or lost, every new one is the answer to a call that stored it, and every
answer shows an account of its caller's tenant. -/
theorem predictions_accounted (predictors : Predictors libs) {s : Shared libs}
    {accounts₀ : List Account} (hs : Accounted s.db accounts₀) (actions : List Event) :
    ∃ accounts, Kept accounts₀ (traffic predictors s actions) accounts ∧
      ∀ tid call tr response, (traffic predictors s actions).tasks tid =
          some ⟨call, tr, done (.ok (.success response))⟩ →
        ∃ account ∈ accounts, Shows call response account := by
  have hkept : ∃ accounts, Kept accounts₀ (traffic predictors s actions) accounts := by
    refine run_history (s := World.quiet s) (fun _ w => ∃ accounts, Kept accounts₀ w accounts)
      ⟨accounts₀, hs, List.prefix_refl _, fun _ h => .inl h⟩ (fun actions a h => ?_) actions
    obtain ⟨accounts, h⟩ := h
    rw [← traffic_snoc]
    exact kept_step h a
  obtain ⟨accounts, hkept⟩ := hkept
  exact ⟨accounts, hkept, fun _ _ _ _ ht => answered_account hkept.accounted ht⟩

namespace Sample

theorem results_served {result : PredictionResult} : result ∉ served.db.results := by
  intro h
  have hempty : served.db.results.table.rows = [] := rfl
  rw [Keyed.Indexed.mem_def, Keyed.Table.mem_def, hempty] at h
  cases h

theorem accounted_served : Accounted served.db [] :=
  ⟨⟨rfl, rfl, rfl⟩, fun _ hresult => absurd hresult results_served⟩

/-- Two requests with one key, in turns; the model is archived while they are served. -/
def rush : List Event :=
  [.inl (.start 0 firstTrip), .inl (.start 1 sameTrip)] ++
    (List.replicate 5 [.inl (.advance 0), .inl (.advance 1)]).flatten ++
    [.inr (.registry (.transitionStage 20 .ARCHIVED none))] ++
    (List.replicate 8 [.inl (.advance 0), .inl (.advance 1)]).flatten

end Sample

theorem predictions_accounted_rush :
    (∃ accounts, Kept [] (traffic Sample.predictors Sample.served Sample.rush) accounts ∧
      ∀ tid call tr response, (traffic Sample.predictors Sample.served Sample.rush).tasks tid =
          some ⟨call, tr, done (.ok (.success response))⟩ →
        ∃ account ∈ accounts, Shows call response account) ∧
    (executions (traffic Sample.predictors Sample.served Sample.rush).shared.db).length = 1 :=
  ⟨predictions_accounted Sample.predictors Sample.accounted_served Sample.rush, by decide +kernel⟩

end Service

end Inference

end HermesRpt
