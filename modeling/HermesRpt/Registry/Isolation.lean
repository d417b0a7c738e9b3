import HermesRpt.Registry.Aliases
import HermesRpt.Registry.Serving

/-!
# HermesRpt.Registry.Isolation

What a tenant's calls change of what another tenant is served. The aliases of a tenant are its own;
the shared models are everyone's, and any tenant may move or deactivate one.

* `callContext`       : the tenant a call is made for.
* `SwitchesShared`    : a call that brings an active shared model into production or out of it.
* `others_are_served` : every other call, and the aliases whatever the call.
-/

namespace HermesRpt

namespace Registry

open Keyed (Table HasKey)
open Machine
open Versioned Staged

/-- The context of a call; `register_candidate` takes none. -/
def callContext : Call → Option TenantContext
  | .registerCandidate _ => none
  | .transitionStage _ _ tenantContext => tenantContext
  | .deactivateModelVersion _ tenantContext => tenantContext
  | .registerAdapterCandidate _ _ ctx => some ctx
  | .transitionAdapterStage _ _ ctx => some ctx
  | .deactivateAdapter _ ctx => some ctx
  | .setAlias args => args.tenantContext
  | .rollbackAlias args => args.tenantContext

section

variable {db : ControlPlane} {call : Call} {ctx other : TenantContext}

/-! ## Aliases -/

theorem aliasContext {args : AliasArgs} (hcall : callContext call = some ctx)
    (h : aliasOperation call = some args) : args.aliasTenantId = some ctx.tenantId := by
  cases call with
  | setAlias _ =>
    cases h
    simp only [callContext] at hcall
    simp [AliasArgs.aliasTenantId, hcall]
  | rollbackAlias _ =>
    cases h
    simp only [callContext] at hcall
    simp [AliasArgs.aliasTenantId, hcall]
  | _ => cases h

/-- The aliases outside the caller's tenant are as they were. -/
theorem aliasesNamed_step (hcall : callContext call = some ctx) {tenantId : Option Uuid}
    (htenant : tenantId ≠ some ctx.tenantId) (taskDefinitionId : Uuid) (aliasName : String) :
    aliasesNamed (step db call) taskDefinitionId aliasName tenantId =
      aliasesNamed db taskDefinitionId aliasName tenantId := by
  rcases step_cases db call with hs | ⟨-, he⟩
  · rw [hs]
  · have hal := he.aliases
    unfold aliasesNamed
    split at hal
    · rename_i args hop
      have hargs := aliasContext hcall hop
      generalize (step db call).aliases = t at hal ⊢
      cases hal with
      | @repointed m adapter existing hchecked hfound =>
        have hmem : existing ∈
            aliasesNamed db args.taskDefinitionId args.aliasName args.aliasTenantId := by
          simp [hfound]
        obtain ⟨hexisting, -, -, howner⟩ := mem_aliasesNamed.1 hmem
        refine Table.filter_update fun r hr hk => ?_
        have hrow : r = existing := Table.eq_of_key_eq hr hexisting hk
        subst hrow
        have hne : r.tenantId ≠ tenantId := by
          rw [howner, hargs]
          exact htenant.symm
        have hne' : (written (repoint args.modelVersionId args.tenantModelAdapterId) r).tenantId ≠
            tenantId := by
          rw [(made_of_repointed hmem).tenant, hargs]
          exact htenant.symm
        simp [hne, hne']
      | added hchecked hnone hi =>
        rw [(Table.insert?_eq_some.1 hi).2, List.filter_append]
        have hne : (newAlias args args.modelVersionId args.tenantModelAdapterId).tenantId ≠
            tenantId := by
          show args.aliasTenantId ≠ tenantId
          rw [hargs]
          exact htenant.symm
        simp [hne]
    · rw [hal]

theorem resolveAlias_step (hcall : callContext call = some ctx)
    (hother : other.tenantId ≠ ctx.tenantId) (taskDefinitionId : Uuid) (aliasName : String) :
    resolveAlias (step db call) taskDefinitionId other aliasName =
      resolveAlias db taskDefinitionId other aliasName := by
  have hown : (some other.tenantId : Option Uuid) ≠ some ctx.tenantId :=
    fun h => hother (Option.some.inj h)
  unfold resolveAlias resolveForTenant find
  rw [aliasesNamed_step hcall hown, aliasesNamed_step hcall (by simp)]

/-! ## Models -/

/-- The call brings an active shared model of the task into production, or out of it. -/
def SwitchesShared (taskDefinitionId : Uuid) (db : ControlPlane) (call : Call) : Prop :=
  ∃ m ∈ db.models, m.tenantId = none ∧ m.taskDefinitionId = taskDefinitionId ∧ m.isActive = true ∧
    ((∃ toStage tenantContext, call = .transitionStage m.id toStage tenantContext ∧
        (m.stage = .PRODUCTION ∨ toStage = .PRODUCTION)) ∨
      (∃ tenantContext, call = .deactivateModelVersion m.id tenantContext) ∧ m.stage = .PRODUCTION)

/-- A model that is served to `other` and may be changed by `ctx` is shared. -/
theorem shared_of_served {m : ModelVersion} (hother : other.tenantId ≠ ctx.tenantId)
    (hmay : MayChange (some ctx) m)
    (hscope : m.tenantId = none ∨ m.tenantId = some other.tenantId) : m.tenantId = none := by
  rcases hmay ctx rfl with h | h
  · exact h
  · rcases hscope with hs | hs
    · exact hs
    · have hown : m.tenantId = some ctx.tenantId := h
      rw [hown] at hs
      exact absurd (Option.some.inj hs).symm hother

/-- A change of a row that is not served to `other`, and is not after it either, is not seen. -/
theorem productionCandidates_update {t : Table ModelVersion} {id taskDefinitionId : Uuid}
    {change : Change ModelVersion} (hfrozen : ∀ m, frozen (written change m) = frozen m)
    (h : ∀ m ∈ t, m.id = id → m.taskDefinitionId = taskDefinitionId →
      (m.tenantId = none ∨ m.tenantId = some other.tenantId) →
      ¬Serving m ∧ ¬Serving (written change m)) :
    productionCandidates (t.update id (written change) (key_written change)).rows taskDefinitionId
      other = productionCandidates t.rows taskDefinitionId other := by
  refine Table.filter_update fun m hm hid => ?_
  have htask : (written change m).taskDefinitionId = m.taskDefinitionId := by
    have h := congrArg ModelVersion.taskDefinitionId (hfrozen m)
    exact h
  have htenant : (written change m).tenantId = m.tenantId := by
    have h := congrArg ModelVersion.tenantId (hfrozen m)
    exact h
  simp only [decide_eq_false_iff_not, htask, htenant]
  constructor
  · rintro ⟨ht, hstage, hactive, hscope⟩
    exact (h m hm hid ht hscope).1 ⟨hstage, hactive⟩
  · rintro ⟨ht, hstage, hactive, hscope⟩
    exact (h m hm hid ht hscope).2 ⟨hstage, hactive⟩

theorem productionCandidates_step (hcall : callContext call = some ctx)
    (hother : other.tenantId ≠ ctx.tenantId) {taskDefinitionId : Uuid}
    (hswitch : ¬SwitchesShared taskDefinitionId db call) :
    productionCandidates (step db call).models.rows taskDefinitionId other =
      productionCandidates db.models.rows taskDefinitionId other := by
  rcases step_cases db call with hs | ⟨-, he⟩
  · rw [hs]
  · have hd := he.models
    generalize (step db call).models = t at hd ⊢
    cases call with
    | registerCandidate _ => cases hcall
    | transitionStage id toStage c =>
      cases hcall
      cases hd with
      | @moved _ _ _ row hrow hmay hvalid hauthorised =>
        rw [Table.find?_eq_some] at hrow
        refine productionCandidates_update (frozen_written_setStage toStage)
          fun m hm hid ht hscope => ?_
        have he : m = row := Table.eq_of_key_eq hm hrow.1 (hid.trans hrow.2.symm)
        subst he
        have hshared := shared_of_served hother hmay hscope
        subst hid
        constructor
        · rintro ⟨hstage, hactive⟩
          exact hswitch ⟨m, hm, hshared, ht, hactive, .inl ⟨toStage, _, rfl, .inl hstage⟩⟩
        · rintro ⟨hstage, hactive⟩
          rw [stage_written_setStage] at hstage
          rw [isActive_written_setStage] at hactive
          exact hswitch ⟨m, hm, hshared, ht, hactive, .inl ⟨toStage, _, rfl, .inr hstage⟩⟩
    | deactivateModelVersion id c =>
      cases hcall
      cases hd with
      | @deactivated _ _ row hrow hmay =>
        rw [Table.find?_eq_some] at hrow
        refine productionCandidates_update frozen_written_deactivated fun m hm hid ht hscope => ?_
        have he : m = row := Table.eq_of_key_eq hm hrow.1 (hid.trans hrow.2.symm)
        subst he
        have hshared := shared_of_served hother hmay hscope
        subst hid
        constructor
        · rintro ⟨hstage, hactive⟩
          exact hswitch ⟨m, hm, hshared, ht, hactive, .inr ⟨⟨_, rfl⟩, hstage⟩⟩
        · rintro ⟨-, hactive⟩
          rw [isActive_written_deactivated] at hactive
          cases hactive
    | _ =>
      have hsame : t = db.models := hd
      rw [hsame]

end

/-- A tenant's call leaves the aliases that others resolve as they are, and the model they are
served, unless it brings a shared model of the task into production or out of it. -/
theorem others_are_served {db : ControlPlane} {call : Call} {ctx other : TenantContext}
    (hcall : callContext call = some ctx) (hother : other.tenantId ≠ ctx.tenantId)
    (taskDefinitionId : Uuid) :
    (∀ aliasName, resolveAlias (step db call) taskDefinitionId other aliasName =
      resolveAlias db taskDefinitionId other aliasName) ∧
    (¬SwitchesShared taskDefinitionId db call →
      getProductionModel (step db call).models.rows taskDefinitionId other =
        getProductionModel db.models.rows taskDefinitionId other) := by
  refine ⟨fun aliasName => resolveAlias_step hcall hother taskDefinitionId aliasName,
    fun hswitch => ?_⟩
  unfold getProductionModel
  rw [productionCandidates_step hcall hother hswitch]

theorem others_are_served_sample :
    resolveAlias (step Sample.stocked (Sample.pointTo 20)) 10 (Sample.callerOf 2) =
      resolveAlias Sample.stocked 10 (Sample.callerOf 2) := by
  have hcall : callContext (Sample.pointTo 20) = some (Sample.callerOf 1) := rfl
  exact (others_are_served hcall (by decide) 10).1 "production"

/-- A tenant archives the shared model that another tenant is served. -/
theorem shared_model_archived :
    getProductionModel (run step Sample.db Sample.promotion).models.rows 10 (Sample.callerOf 2) =
      some { Sample.model with stage := .PRODUCTION, version := 3 } ∧
    getProductionModel (step (run step Sample.db Sample.promotion)
        (.transitionStage 20 .ARCHIVED (some (Sample.callerOf 1)))).models.rows 10
      (Sample.callerOf 2) = none := by
  decide +kernel

end Registry

end HermesRpt
