import HermesRpt.Inference.Derivation
import HermesRpt.Inference.Replays
import HermesRpt.Services

/-!
# HermesRpt.Inference.Ledger

Predictions while the registry and the mappings change under them. Requests are interleaved with each
other at every effect, and with calls of the other services.

* `traffic`     : the requests and calls of a run.
* `ledger`      : its transactions: those that requests committed, and the calls.
* `LeftBehind`  : the transactions of a request, by how it has ended.
* `predictions_serialize` : the database is the one that the ledger gives, transaction by transaction,
  and no request leaves a part of a prediction.
* `database_step` : what an action does to the database.
-/

namespace HermesRpt

namespace Inference

/-- The database after a call of another service. -/
def Database.serve (db : Database) (call : ServiceCall) : Database :=
  { db with plane := call.apply db.plane }

namespace Service

open Registry Features
open Async Code Machine

variable {libs : Libraries} {predictors : Predictors libs} {call : PredictCall}
  {tr : Trace (Reply libs)} {s s' : Shared libs}

def operate (s : Shared libs) (call : ServiceCall) : Shared libs :=
  { s with db := s.db.serve call }

/-- An action of a request, or a call of another service. -/
abbrev Event := Action PredictCall ⊕ ServiceCall

abbrev traffic (predictors : Predictors libs) (s : Shared libs) (actions : List Event) :
    World (Reply libs) PyError Response PredictCall (Shared libs) :=
  run (stepWith (program predictors) handle operate) (World.quiet s) actions

theorem traffic_snoc (predictors : Predictors libs) (s : Shared libs) (actions : List Event)
    (a : Event) : traffic predictors s (actions ++ [a]) =
      stepWith (program predictors) handle operate (traffic predictors s actions) a := by
  simp [traffic]

abbrev Transactions := List (Nat × List Write ⊕ ServiceCall)

def ledger (predictors : Predictors libs) (s : Shared libs) (actions : List Event) : Transactions :=
  commitLog (program predictors) handle operate transaction (World.quiet s) actions

/-- What the transactions of a request are. One that is not answered has none; an answer is replayed,
and commits nothing, or it is a whole prediction; a failure commits its denial, or nothing. -/
def LeftBehind (call : PredictCall) (tr : Trace (Reply libs)) :
    Code (Reply libs) PyError Response → List (List Write) → Prop
  | done (.ok (.success response)), transactions =>
    transactions = [[]] ∧ Replayed call tr response ∨
      ∃ definition modelVersion score events,
        transactions = [savedWrites call definition modelVersion score events] ∧
          response = call.response modelVersion score
  | done (.ok (.failure _ _)), transactions =>
    transactions = [] ∨ transactions = [[.audit call.mismatchEvent]]
  | _, transactions => transactions = []

/-! ## The serial order -/

/-- Only a commit and a recorded denial change the database. -/
theorem publishes : Publishes (@handle libs) operate transaction (·.db) applyWrites
    Database.serve where
  entered tr e s r s' l hr hentry := by
    cases e with
    | commit =>
      cases hentry
      exact commit_replied hr
    | recordDenied event =>
      cases hentry
      cases hr
      rfl
    | _ => cases hentry
  silent tr e s r s' hr hentry := by
    cases e with
    | commit => cases hentry
    | recordDenied event => cases hentry
    | flush writes =>
      simp only [handle] at hr
      cases hw : applyWrites s.db (pending tr ++ writes) with
      | error err =>
        rw [hw] at hr
        cases hr
      | ok db =>
        rw [hw] at hr
        cases hr
        rfl
    | _ =>
      cases hr
      rfl
  operated _ _ := rfl

theorem published_uncommitted (h : Uncommitted tr) : published transaction tr = [] := by
  induction tr using List.reverseRecOn with
  | nil => rfl
  | append_singleton tr x ih =>
    rw [uncommitted_append] at h
    obtain ⟨hcommit, hdenied⟩ := h.2 x (List.mem_singleton_self x)
    rw [published_snoc, ih h.1]
    obtain ⟨e, r⟩ := x
    cases e with
    | commit => exact absurd rfl hcommit
    | recordDenied event => exact absurd rfl (hdenied event)
    | _ => rfl

theorem leftBehind_of_outcome {result : Except PyError Response}
    (h : Outcome predictors call tr result) :
    LeftBehind call tr (done result) (published transaction tr) := by
  cases result with
  | error err => exact published_uncommitted h
  | ok response =>
    cases response with
    | failure statusCode detail =>
      rcases h with h | ⟨before, rfl, h⟩
      · exact .inl (published_uncommitted h)
      · refine .inr ?_
        rw [published_snoc, published_uncommitted h]
        rfl
    | success response =>
      obtain ⟨before, rfl, huncommitted, hgrounded⟩ := h
      have hpublished : published transaction (before ++ [⟨.commit, ()⟩]) = [pending before] := by
        rw [published_snoc, published_uncommitted huncommitted]
        rfl
      rw [hpublished]
      rcases hgrounded with ⟨hnone, key, request, result, modelVersion, hkey, hrequest, hstatus,
        hresult, hresponse⟩ | ⟨definition, modelVersion, score, events, hsaved, hresponse, -⟩
      · refine .inl ⟨by rw [hnone], key, request, result, modelVersion, hkey, ?_, hstatus, ?_,
          hresponse⟩
        · exact List.mem_append_left _ hrequest
        · exact List.mem_append_left _ hresult
      · exact .inr ⟨definition, modelVersion, score, events, by rw [hsaved], hresponse⟩

theorem traffic_charted (predictors : Predictors libs) (s : Shared libs) (actions : List Event) :
    Charted (Awaits predictors) (Outcome predictors) (traffic predictors s actions) :=
  runWith_charted (program_derives predictors) s actions

/-- A request that is suspended, or that an effect has ended, has committed nothing. -/
theorem leftBehind_of_charted {w : World (Reply libs) PyError Response PredictCall (Shared libs)}
    (hw : Charted (Awaits predictors) (Outcome predictors) w) {tid : Nat}
    {task : Task (Reply libs) PyError Response PredictCall} (ht : w.tasks tid = some task) :
    LeftBehind task.call task.trace task.code (published transaction task.trace) := by
  obtain ⟨call, tr, code⟩ := task
  rcases hw tid _ ht with hsafe | ⟨⟨err, hcode⟩, e, hawaits, -⟩
  · cases code with
    | done result => exact leftBehind_of_outcome hsafe
    | await e next => exact published_uncommitted hsafe.1.1
  · cases hcode
    exact published_uncommitted hawaits

/-- In every interleaving of requests and of calls of the other services, the database is the one
that the transactions of the ledger give, one after the other; the calls are in it in their order, and
a request has put there what it has left behind and nothing else. -/
theorem predictions_serialize (predictors : Predictors libs) (s : Shared libs)
    (actions : List Event) :
    (ledger predictors s actions).foldlM (replayEntry applyWrites Database.serve) s.db =
      .ok (traffic predictors s actions).shared.db ∧
    (ledger predictors s actions).filterMap Sum.getRight? = actions.filterMap Sum.getRight? ∧
    ∀ tid, match (traffic predictors s actions).tasks tid with
      | none => entriesOf tid (ledger predictors s actions) = []
      | some task => LeftBehind task.call task.trace task.code
          (entriesOf tid (ledger predictors s actions)) := by
  refine ⟨commitLog_replays publishes (program predictors) (World.quiet s) actions,
    operations_commitLog (World.quiet s) actions, fun tid => ?_⟩
  have hentries : entriesOf tid (ledger predictors s actions) =
      ((traffic predictors s actions).tasks tid).elim [] fun task =>
        published transaction task.trace := entriesOf_commitLog s actions tid
  rw [hentries]
  cases ht : (traffic predictors s actions).tasks tid with
  | none => rfl
  | some task => exact leftBehind_of_charted (traffic_charted predictors s actions) ht

/-! ## What an action does to the database -/

/-- A commit is the last effect of a request. -/
theorem committed_done {code : Code (Reply libs) PyError Response}
    (h : Safe (Awaits predictors call) (Outcome predictors call) (tr ++ [⟨.commit, ()⟩]) code) :
    ∃ response, code = done (.ok (.success response)) ∧ Grounded predictors call tr response := by
  have hcommitted : ¬Uncommitted (tr ++ [⟨Await.commit, ()⟩] : Trace (Reply libs)) := fun h =>
    (h _ (List.mem_append_right _ (List.mem_singleton_self _))).1 rfl
  cases code with
  | await e next => exact absurd h.1.1 hcommitted
  | done result =>
    rcases result with err | response | ⟨statusCode, detail⟩
    · exact absurd h hcommitted
    · obtain ⟨before, heq, -, hgrounded⟩ := h
      obtain ⟨rfl, -⟩ := List.append_inj' heq rfl
      exact ⟨response, rfl, hgrounded⟩
    · rcases h with h | ⟨before, heq, -⟩
      · exact absurd h hcommitted
      · obtain ⟨-, hlast⟩ := List.append_inj' heq rfl
        cases hlast

/-- Nothing, a call of another service, a recorded denial, or the commit of a whole prediction, with
which its request ends. -/
inductive DatabaseStep (predictors : Predictors libs) (s : Shared libs) (actions : List Event)
    (a : Event) (db' : Database) : Prop where
  | same (hdb : db' = (traffic predictors s actions).shared.db)
  | served (b : ServiceCall) (hdb : db' = (traffic predictors s actions).shared.db.serve b)
  | denied (call : PredictCall)
      (hdb : db' = (traffic predictors s actions).shared.db.log [call.mismatchEvent])
  | saved {tid : Nat} {call : PredictCall} {tr : Trace (Reply libs)}
      {code : Code (Reply libs) PyError Response} {definition : PredictionTaskDefinition}
      {modelVersion : ModelVersion} {score : Score} {events : List AuditEvent}
      (ht : (traffic predictors s actions).tasks tid = some ⟨call, tr, code⟩)
      (hderived : Derived predictors call tr definition modelVersion score events)
      (hdb : applyWrites (traffic predictors s actions).shared.db
        (savedWrites call definition modelVersion score events) = .ok db')
      (hdone : (traffic predictors s (actions ++ [a])).tasks tid = some
        ⟨call, tr ++ [⟨.commit, ()⟩], done (.ok (.success (call.response modelVersion score)))⟩)

theorem database_step (predictors : Predictors libs) (s : Shared libs) (actions : List Event)
    (a : Event) :
    DatabaseStep predictors s actions a (traffic predictors s (actions ++ [a])).shared.db := by
  have hcharted := (traffic_charted predictors s actions).outlined
  have hlast := traffic_snoc predictors s actions a
  rcases stepWith_cases (program predictors) handle operate transaction (traffic predictors s actions) a
    with ⟨b, -, he, -⟩ | ⟨he, -⟩ | ⟨tid, call, -, he, -⟩ |
    ⟨tid, call, tr, e, next, r, s', ht, hr, he, -⟩ | ⟨tid, call, tr, e, next, err, -, -, he, -⟩
  all_goals rw [he] at hlast
  · exact .served b (by rw [hlast]; rfl)
  · exact .same (by rw [hlast])
  · exact .same (by rw [hlast]; rfl)
  · obtain ⟨hawaits, hnext⟩ := hcharted.awaits ht
    have hdb' : (traffic predictors s (actions ++ [a])).shared.db = s'.db := by rw [hlast]
    cases hentry : transaction tr e with
    | none => exact .same (hdb'.trans (publishes.silent tr e _ r s' hr hentry))
    | some writes =>
      cases e with
      | recordDenied event =>
        obtain rfl : event = call.mismatchEvent := hawaits.2
        cases hr
        exact .denied call hdb'
      | commit =>
        cases r
        have hcommit := commit_replied hr
        obtain ⟨response, hdone, ⟨hnone, -⟩ | ⟨definition, modelVersion, score, events, hsaved, rfl,
          hderived⟩⟩ := committed_done (hnext ())
        · rw [hnone] at hcommit
          exact .same (hdb'.trans (Except.ok.inj hcommit).symm)
        · rw [hsaved, ← hdb'] at hcommit
          refine .saved ht hderived hcommit ?_
          rw [hlast]
          simp [hdone]
      | _ => cases hentry
  · exact .same (by rw [hlast]; rfl)

end Service

end Inference

end HermesRpt
