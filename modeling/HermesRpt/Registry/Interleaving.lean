import HermesRpt.Registry.Aliases
import Mathlib.Logic.Function.Basic

/-!
# HermesRpt.Registry.Interleaving

Transactions that point aliases at the same time. Every statement of a transaction reads what is
committed when it runs, and the writes take effect together at the commit. The version counter
stops an `UPDATE` of an alias another transaction has changed; nothing stops an `INSERT`.

* `beginAlias`, `adapterForAlias`, `find`, `writeAlias` : what `_point_alias` reads, and writes.
* `interleave`       : the machine of all transactions.
* `interleave_alone` : a transaction that nothing comes between is the method itself.
* `FindsNone`        : a commit that adds an alias still finds none of the name.
* `one_alias_of_name`: under that condition there is one alias of a name.
-/

namespace HermesRpt

namespace Registry

open Keyed (Table)
open Keyed.HasKey
open Transaction Machine

/-- `_require_promotion_authorization`, outside a session. -/
def checkAuthorised (tenantContext : Option TenantContext) : Except PyError Unit :=
  if ¬Authorised tenantContext then
    .error ⟨.AuthorizationError, "missing_scope:" ++ modelPromote⟩
  else .ok ()

/-- The approval and the model. -/
def beginAlias (args : AliasArgs) (db : ControlPlane) : Except PyError ModelVersion := do
  checkAuthorised args.tenantContext
  modelForAlias db args

/-- Everything the commit of the method writes. -/
def writeAlias (args : AliasArgs) (action : String) (modelVersion : ModelVersion)
    (adapter : Option TenantModelAdapter) (existing : Option ModelAlias) : Session ModelAlias := do
  let pointed ← upsertAlias args existing modelVersion.id (adapter.map (·.id))
  recordFor action args.aliasTenantId args.tenantContext "ModelAlias" pointed.id
    [("alias_name", some (.str args.aliasName)),
      ("model_version_id", some (.str (uuidStr modelVersion.id))),
      ("tenant_model_adapter_id", adapter.map fun a => .str (uuidStr a.id))]
  return pointed

/-! ## The machine -/

/-- How far a transaction has come, with what it has read. -/
inductive Progress where
  | opened (modelVersion : ModelVersion)
  | paired (modelVersion : ModelVersion) (adapter : Option TenantModelAdapter)
  | looked (modelVersion : ModelVersion) (adapter : Option TenantModelAdapter)
      (existing : Option ModelAlias)

structure Flight where
  args : AliasArgs
  action : String
  progress : Progress

/-- The committed database and the transactions that are open. -/
structure World where
  db : ControlPlane
  flights : Nat → Option Flight

def World.quiet (db : ControlPlane) : World := ⟨db, fun _ => none⟩

inductive Action where
  | begin (tid : Nat) (args : AliasArgs) (action : String)
  | readAdapter (tid : Nat)
  | look (tid : Nat)
  | commit (tid : Nat)

/-- The transaction `tid` is now at `flight`, or closed. -/
def World.setFlight (w : World) (tid : Nat) (flight : Option Flight) : World :=
  { w with flights := Function.update w.flights tid flight }

/-- One action of one of the transactions. A raise closes the transaction. -/
def interleave (w : World) : Action → World
  | .begin tid args action =>
    match w.flights tid, beginAlias args w.db with
    | none, .ok modelVersion => w.setFlight tid (some ⟨args, action, .opened modelVersion⟩)
    | _, _ => w
  | .readAdapter tid =>
    match w.flights tid with
    | some ⟨args, action, .opened modelVersion⟩ =>
      match adapterForAlias w.db args modelVersion with
      | .ok adapter => w.setFlight tid (some ⟨args, action, .paired modelVersion adapter⟩)
      | .error _ => w.setFlight tid none
    | _ => w
  | .look tid =>
    match w.flights tid with
    | some ⟨args, action, .paired modelVersion adapter⟩ =>
      match find w.db args.taskDefinitionId args.aliasName args.aliasTenantId with
      | .ok existing => w.setFlight tid (some ⟨args, action, .looked modelVersion adapter existing⟩)
      | .error _ => w.setFlight tid none
    | _ => w
  | .commit tid =>
    match w.flights tid with
    | some ⟨args, action, .looked modelVersion adapter existing⟩ =>
      { w.setFlight tid none with
        db := after (writeAlias args action modelVersion adapter existing) w.db }
    | _ => w

/-! ## A transaction on its own -/

theorem pointAlias_eq (args : AliasArgs) (action : String) :
    pointAlias args action = (read fun db => beginAlias args db) >>= fun modelVersion =>
      (read fun db => adapterForAlias db args modelVersion) >>= fun adapter =>
        (read fun db => find db args.taskDefinitionId args.aliasName args.aliasTenantId) >>=
          fun existing => writeAlias args action modelVersion adapter existing := by
  simp only [pointAlias, beginAlias, writeAlias, requirePromotionAuthorization, read_bind,
    checkAuthorised, read_check, bind_assoc]

/-- A transaction that nothing comes between does what the method does. -/
theorem interleave_alone {w : World} {tid : Nat} {args : AliasArgs} {action : String}
    (h : w.flights tid = none) :
    run interleave w [.begin tid args action, .readAdapter tid, .look tid, .commit tid] =
      { w with db := after (pointAlias args action) w.db } := by
  have hclosed : Function.update w.flights tid none = w.flights := by
    rw [← h, Function.update_eq_self]
  simp only [run_cons, run_nil, pointAlias_eq]
  cases hm : beginAlias args w.db with
  | error e =>
    simp only [interleave, h, hm, after, bind, StateT.bind, Except.bind, Transaction.read]
  | ok modelVersion =>
    cases ha : adapterForAlias w.db args modelVersion with
    | error e =>
      simp only [interleave, h, hm, ha, World.setFlight, Function.update_self, Function.update_idem,
        hclosed, after, bind, StateT.bind, Except.bind, Transaction.read]
    | ok adapter =>
      cases hf : find w.db args.taskDefinitionId args.aliasName args.aliasTenantId with
      | error e =>
        simp only [interleave, h, hm, ha, hf, World.setFlight, Function.update_self,
          Function.update_idem, hclosed, after, bind, StateT.bind, Except.bind, Transaction.read]
      | ok existing =>
        simp only [interleave, h, hm, ha, hf, World.setFlight, Function.update_self,
          Function.update_idem, hclosed, after, bind, StateT.bind, Except.bind, Transaction.read]

/-! ## One alias of a name -/

/-- A commit that adds an alias finds none of the name, as the transaction did when it looked. -/
def FindsNone (w : World) : Action → Prop
  | .commit tid => ∀ args action modelVersion adapter,
    w.flights tid = some ⟨args, action, .looked modelVersion adapter none⟩ →
    Versioned.admits w.db (newAlias args modelVersion.id (adapter.map (·.id))) = true →
    w.db.aliases.find? args.aliasId = none →
    aliasesNamed w.db args.taskDefinitionId args.aliasName args.aliasTenantId = []
  | _ => True

theorem oneAlias_of_audit {db db' : ControlPlane} (h : OneAlias db)
    (haliases : db'.aliases = db.aliases) : OneAlias db' := by
  intro task name tenant
  unfold aliasesNamed
  rw [haliases]
  exact h task name tenant

theorem oneAlias_of_upsert {db db' : ControlPlane} {args : AliasArgs} {modelVersionId : Uuid}
    {adapterId : Option Uuid} {existing : Option ModelAlias} {pointed : ModelAlias}
    (h : OneAlias db)
    (hnone : existing = none →
      Versioned.admits db (newAlias args modelVersionId adapterId) = true →
      db.aliases.find? args.aliasId = none →
      aliasesNamed db args.taskDefinitionId args.aliasName args.aliasTenantId = [])
    (hu : upsertAlias args existing modelVersionId adapterId db = .ok (pointed, db')) :
    OneAlias db' := by
  cases existing with
  | some existing =>
    obtain ⟨db₁, hf, hu⟩ := unit_bind_ok.1 hu
    cases pure_ok.1 hu
    rw [flush, write_ok] at hf
    split at hf
    · cases hf
      exact h
    · split at hf
      · split at hf
        · cases hf
          intro task name tenant
          have hname : ∀ a, (flushed (repoint modelVersionId adapterId) existing.version
              a).taskDefinitionId = a.taskDefinitionId ∧ (flushed (repoint modelVersionId adapterId)
              existing.version a).aliasName = a.aliasName ∧ (flushed (repoint modelVersionId
              adapterId) existing.version a).tenantId = a.tenantId := fun _ => ⟨rfl, rfl, rfl⟩
          exact (aliasesNamed_update hname task name tenant).trans_le (h task name tenant)
        · cases hf
      · cases hf
  | none =>
    obtain ⟨db₁, hi, hu⟩ := unit_bind_ok.1 hu
    cases pure_ok.1 hu
    obtain ⟨hadmits, t, ht, rfl⟩ := insert_ok.1 hi
    exact oneAlias_of_insert h (hnone rfl hadmits (Table.insert?_eq_some.1 ht).1) ht

theorem oneAlias_commit {w : World} {tid : Nat} {args : AliasArgs} {action : String}
    {modelVersion : ModelVersion} {adapter : Option TenantModelAdapter}
    {existing : Option ModelAlias} (h : OneAlias w.db) (hfinds : FindsNone w (.commit tid))
    (hflight : w.flights tid = some ⟨args, action, .looked modelVersion adapter existing⟩) :
    OneAlias (after (writeAlias args action modelVersion adapter existing) w.db) := by
  rcases after_cases (writeAlias args action modelVersion adapter existing) w.db with
    ⟨pointed, hw⟩ | ⟨-, hs⟩
  · obtain ⟨db₁, hu, hdb'⟩ := recorded_ok hw
    have hone : OneAlias db₁ := by
      refine oneAlias_of_upsert h (fun he => ?_) hu
      subst he
      exact hfinds args action modelVersion adapter hflight
    rw [hdb']
    exact oneAlias_of_audit hone rfl
  · rw [hs]
    exact h

theorem oneAlias_interleave {w : World} {a : Action} (h : OneAlias w.db) (hfinds : FindsNone w a) :
    OneAlias (interleave w a).db := by
  cases a with
  | begin tid args action =>
    simp only [interleave]
    split <;> exact h
  | readAdapter tid =>
    simp only [interleave]
    split
    · split <;> exact h
    · exact h
  | look tid =>
    simp only [interleave]
    split
    · split <;> exact h
    · exact h
  | commit tid =>
    simp only [interleave]
    split
    · exact oneAlias_commit h hfinds ‹_›
    · exact h

/-- When every alias that is added is still the first of its name, there is one alias of each name,
and it is resolved. -/
theorem one_alias_of_name {db : ControlPlane} {actions : List Action} (hstart : OneAlias db)
    (hfinds : Meets interleave FindsNone (World.quiet db) actions) :
    OneAlias (run interleave (World.quiet db) actions).db ∧
      ∀ taskDefinitionId ctx aliasName, ∃ found,
        resolveAlias (run interleave (World.quiet db) actions).db taskDefinitionId ctx aliasName =
          .ok found := by
  have h : OneAlias (run interleave (World.quiet db) actions).db :=
    run_invariant_of_meets (I := fun w => OneAlias w.db)
      (fun _ _ h hf => oneAlias_interleave h hf) hstart hfinds
  refine ⟨h, fun taskDefinitionId ctx aliasName => ?_⟩
  obtain ⟨found, hfound, -⟩ := resolveAlias_of_oneAlias h taskDefinitionId ctx aliasName
  exact ⟨found, hfound⟩

namespace Sample

def firstAlias (aliasId : Uuid) : AliasArgs :=
  { taskDefinitionId := 10, modelVersionId := 20, tenantContext := some (callerOf 1), aliasId }

def pointing (tid : Nat) (aliasId : Uuid) : List Action :=
  [.begin tid (firstAlias aliasId) "model.set_alias", .readAdapter tid, .look tid]

end Sample

theorem one_alias_of_name_sample :
    OneAlias (run interleave (World.quiet Sample.stocked)
      (Sample.pointing 0 40 ++ [.commit 0])).db := by
  have hstart : OneAlias Sample.stocked := fun task name tenant => by
    have hnone : aliasesNamed Sample.stocked task name tenant = [] := rfl
    rw [hnone]
    exact Nat.zero_le 1
  have hrun : Meets interleave FindsNone (World.quiet Sample.stocked)
      (Sample.pointing 0 40 ++ [.commit 0]) := by
    refine ⟨trivial, trivial, trivial, fun args action m adapter _ _ _ => rfl, trivial⟩
  exact (one_alias_of_name hstart hrun).1

/-- Two transactions look before either has committed, and both add an alias of the name. -/
theorem two_aliases_of_name :
    resolveAlias (run interleave (World.quiet Sample.stocked)
        (Sample.pointing 0 40 ++ Sample.pointing 1 41 ++ [.commit 0, .commit 1])).db 10
      (Sample.callerOf 1) =
    .error ⟨.MultipleResultsFound, "Multiple rows were found when one or none was required"⟩ := by
  decide +kernel

end Registry

end HermesRpt
