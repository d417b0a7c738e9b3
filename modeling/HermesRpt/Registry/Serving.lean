import HermesRpt.Registry.Stages
import Mathlib.Data.List.Perm.Basic

/-!
# HermesRpt.Registry.Serving

The model and the adapter a tenant is served.

* `OneServed`     : at most one row in service for each group: task and owner, or base model and tenant.
* `PromotesAlone` : a call does not bring a row into production beside another one of its group.
* `oneServed_step`: such calls keep it.
* `getProductionModel_eq_some` : then the answer does not depend on the order of the rows.
-/

namespace HermesRpt

namespace Registry

open Keyed (Table HasKey)
open Keyed.HasKey
open Machine
open Versioned Staged

section

variable {ρ γ : Type} [HasKey ρ Uuid] [DecidableEq ρ] [Governed ρ] {group : ρ → γ}
  {db : ControlPlane} {call : Call}

/-- An active row in production. -/
def Serving (row : ρ) : Prop := stage row = .PRODUCTION ∧ isActive row = true

def OneServed (group : ρ → γ) (t : Table ρ) : Prop :=
  ∀ r ∈ t, ∀ s ∈ t, Serving r → Serving s → group r = group s → r = s

def PromotesAlone (group : ρ → γ) (db : ControlPlane) (call : Call) : Prop :=
  ∀ id tenantContext row,
    @Governed.operation ρ _ _ _ call = some (.move id .PRODUCTION tenantContext) →
    rowOf ρ id db = some row → stage row = .STAGING → isActive row = true →
    MayChange tenantContext row → Authorised tenantContext →
    ∀ s ∈ (table db : Table ρ), Serving s → group s ≠ group row

/-- A row is in service because it was, or because the call brought it into production. -/
theorem serving_of_step {r' : ρ} (hr' : r' ∈ (table (step db call) : Table ρ)) (h : Serving r') :
    r' ∈ (table db : Table ρ) ∨ ∃ tenantContext r,
      @Governed.operation ρ _ _ _ call = some (.move (key r) .PRODUCTION tenantContext) ∧
      r ∈ (table db : Table ρ) ∧ stage r = .STAGING ∧ isActive r = true ∧
      MayChange tenantContext r ∧ Authorised tenantContext ∧
      r' = written (setStage .PRODUCTION) r := by
  rcases became_of_step hr' with hr | ⟨op, hop, -, hb⟩
  · exact .inl hr
  · cases hb with
    | kept hr => exact .inl hr
    | registered hop' hnew hc =>
      subst hc
      exact absurd h.1 (by simp)
    | registeredAgain hop' hr hkey hc =>
      subst hc
      exact absurd h.1 (by simp)
    | @moved toStage tenantContext r hop' hr hmay hvalid hauthorised hc =>
      subst hop' hc
      have hto : toStage = .PRODUCTION := by simpa using h.1
      subst hto
      have hactive : isActive r = true := by simpa using h.2
      have hstaging : stage r = .STAGING := by
        cases hs : stage r <;> simp [hs, validTransitions] at hvalid
        rfl
      exact .inr ⟨tenantContext, r, hop, hr, hstaging, hactive, hmay,
        hauthorised (by simp [promotionStages]), rfl⟩
    | deactivated hop' hr hmay hc =>
      subst hc
      exact absurd h.2 (by simp)

theorem group_written (hgroup : ∀ r, group (frozen r) = group r) (s : ModelStage) (r : ρ) :
    group (written (setStage s) r) = group r := by
  rw [← hgroup, frozen_written_setStage, hgroup]

theorem oneServed_step (hgroup : ∀ r, group (frozen r) = group r)
    (h : OneServed group (table db)) (halone : PromotesAlone group db call) :
    OneServed group (table (step db call) : Table ρ) := by
  intro r' hr' s' hs' hr hs hg
  rcases serving_of_step hr' hr with hmr | ⟨c, r, hop, hmr, hstage, hactive, hmay, hauth, he⟩
  · rcases serving_of_step hs' hs with hms | ⟨c, s, hop, hms, hstage, hactive, hmay, hauth, he⟩
    · exact h r' hmr s' hms hr hs hg
    · refine absurd ?_ (halone _ c s hop (Table.find?_key hms) hstage hactive hmay hauth r' hmr hr)
      rw [hg, he, group_written hgroup]
  · rcases serving_of_step hs' hs with hms | ⟨c', s, hop', hms, -, -, -, -, he'⟩
    · refine absurd ?_ (halone _ c r hop (Table.find?_key hmr) hstage hactive hmay hauth s' hms hs)
      rw [← hg, he, group_written hgroup]
    · have hk : (key r : Uuid) = key s := by
        rw [hop, Option.some.injEq, Operation.move.injEq] at hop'
        exact hop'.1
      rw [he, he', Table.eq_of_key_eq hmr hms hk]

end

/-! ## What is served -/

/-- A model is served for its task, to its tenant or to everyone. -/
def modelGroup (m : ModelVersion) : Uuid × Option Uuid := (m.taskDefinitionId, m.tenantId)

def adapterGroup (a : TenantModelAdapter) : Uuid × Uuid := (a.baseModelVersionId, a.tenantId)

theorem mem_productionCandidates {rows : List ModelVersion} {taskDefinitionId : Uuid}
    {ctx : TenantContext} {m : ModelVersion} :
    m ∈ productionCandidates rows taskDefinitionId ctx ↔ m ∈ rows ∧
      m.taskDefinitionId = taskDefinitionId ∧ Serving m ∧
      (m.tenantId = none ∨ m.tenantId = some ctx.tenantId) := by
  simp [productionCandidates, Serving, stage, isActive, and_assoc]

/-- Among candidates of which each owner has at most one, the order does not matter. -/
theorem getProductionModel_eq_some {rows : List ModelVersion} {taskDefinitionId : Uuid}
    {ctx : TenantContext} (hone : ∀ a ∈ rows, ∀ b ∈ rows, Serving a → Serving b →
      modelGroup a = modelGroup b → a = b) {m : ModelVersion} :
    getProductionModel rows taskDefinitionId ctx = some m ↔
      m ∈ productionCandidates rows taskDefinitionId ctx ∧
        (m.tenantId = some ctx.tenantId ∨ ∀ c ∈ productionCandidates rows taskDefinitionId ctx,
          c.tenantId ≠ some ctx.tenantId) := by
  have hsame : ∀ a ∈ productionCandidates rows taskDefinitionId ctx,
      ∀ b ∈ productionCandidates rows taskDefinitionId ctx, a.tenantId = b.tenantId → a = b := by
    intro a ha b hb ht
    obtain ⟨hra, hta, hsa, -⟩ := mem_productionCandidates.1 ha
    obtain ⟨hrb, htb, hsb, -⟩ := mem_productionCandidates.1 hb
    exact hone a hra b hrb hsa hsb (by rw [modelGroup, modelGroup, hta, htb, ht])
  have hscope : ∀ a ∈ productionCandidates rows taskDefinitionId ctx,
      a.tenantId ≠ some ctx.tenantId → a.tenantId = none := by
    intro a ha hne
    exact (mem_productionCandidates.1 ha).2.2.2.resolve_right hne
  unfold getProductionModel
  generalize productionCandidates rows taskDefinitionId ctx = candidates at hsame hscope ⊢
  simp only
  split
  · rename_i p rest hp
    have hmem : p ∈ candidates ∧ p.tenantId = some ctx.tenantId := by
      have : p ∈ candidates.filter fun m => m.tenantId = some ctx.tenantId := by simp [hp]
      simpa using this
    constructor
    · rintro ⟨⟩
      exact ⟨hmem.1, .inl hmem.2⟩
    · rintro ⟨hm, ht | hnone⟩
      · rw [hsame m hm p hmem.1 (ht.trans hmem.2.symm)]
      · exact absurd hmem.2 (hnone p hmem.1)
  · rename_i hp
    have hnone : ∀ c ∈ candidates, c.tenantId ≠ some ctx.tenantId := by
      intro c hc
      simpa using List.filter_eq_nil_iff.1 hp c hc
    constructor
    · intro h
      exact ⟨List.mem_of_head? h, .inr hnone⟩
    · rintro ⟨hm, -⟩
      cases candidates with
      | nil => cases hm
      | cons c cs =>
        have hc : c ∈ c :: cs := by simp
        rw [List.head?_cons, hsame c hc m hm ((hscope c hc (hnone c hc)).trans
          (hscope m hm (hnone m hm)).symm)]

/-- A query whose rows are all one row finds one or none. -/
theorem scalarOneOrNone_of_unique {α : Type} {l : List α} (hnodup : l.Nodup)
    (h : ∀ a ∈ l, ∀ b ∈ l, a = b) : ∃ found, scalarOneOrNone l = .ok found := by
  match l with
  | [] => exact ⟨none, rfl⟩
  | [a] => exact ⟨some a, rfl⟩
  | a :: b :: rest =>
    rw [h a (by simp) b (by simp)] at hnodup
    simp at hnodup

/-- What a tenant is served is well defined. -/
structure ServedWell (db : ControlPlane) : Prop where
  models : OneServed modelGroup db.models
  adapters : OneServed adapterGroup db.adapters
  anyOrder : ∀ rows, rows.Perm db.models.rows → ∀ taskDefinitionId ctx,
    getProductionModel rows taskDefinitionId ctx =
      getProductionModel db.models.rows taskDefinitionId ctx
  oneRow : ∀ baseModelVersionId ctx,
    ∃ found, getActiveForBaseModel db baseModelVersionId ctx = .ok found

theorem servedWell_of_oneServed {db : ControlPlane} (hmodels : OneServed modelGroup db.models)
    (hadapters : OneServed adapterGroup db.adapters) : ServedWell db where
  models := hmodels
  adapters := hadapters
  anyOrder rows hrows taskDefinitionId ctx := by
    have hmem : ∀ m, m ∈ productionCandidates rows taskDefinitionId ctx ↔
        m ∈ productionCandidates db.models.rows taskDefinitionId ctx := by
      intro m
      rw [mem_productionCandidates, mem_productionCandidates, hrows.mem_iff]
    have hone : ∀ a ∈ rows, ∀ b ∈ rows, Serving a → Serving b →
        modelGroup a = modelGroup b → a = b :=
      fun a ha b hb => hmodels a (hrows.mem_iff.1 ha) b (hrows.mem_iff.1 hb)
    ext m
    rw [getProductionModel_eq_some hone, getProductionModel_eq_some hmodels]
    simp only [hmem]
  oneRow baseModelVersionId ctx := by
    refine scalarOneOrNone_of_unique (db.adapters.nodup_keys.of_map.filter _) ?_
    intro a ha b hb
    simp only [List.mem_filter, decide_eq_true_eq] at ha hb
    refine hadapters a ha.1 b hb.1 ⟨ha.2.2.2.1, ha.2.2.2.2⟩ ⟨hb.2.2.2.1, hb.2.2.2.2⟩ ?_
    rw [adapterGroup, adapterGroup, ha.2.1, ha.2.2.1, hb.2.1, hb.2.2.1]

/-- In a run that never promotes a row beside another one in service, what is served is well
defined. -/
theorem served_is_well_defined {db₀ : ControlPlane} {calls : List Call}
    (hmodels : db₀.models = Table.empty) (hadapters : db₀.adapters = Table.empty)
    (halone : Meets step (fun db call => PromotesAlone modelGroup db call ∧
      PromotesAlone adapterGroup db call) db₀ calls) : ServedWell (run step db₀ calls) := by
  have h : OneServed modelGroup (run step db₀ calls).models ∧
      OneServed adapterGroup (run step db₀ calls).adapters := by
    refine run_invariant_of_meets (I := fun db => OneServed modelGroup db.models ∧
      OneServed adapterGroup db.adapters) (fun db call h ha => ?_) ?_ halone
    · exact ⟨oneServed_step (fun _ => rfl) h.1 ha.1, oneServed_step (fun _ => rfl) h.2 ha.2⟩
    · rw [hmodels, hadapters]
      exact ⟨fun r hr => absurd hr (Table.not_mem_empty r),
        fun r hr => absurd hr (Table.not_mem_empty r)⟩
  exact servedWell_of_oneServed h.1 h.2

namespace Sample

/-- Two models of a task and two adapters of a tenant on one base model. -/
def promotedTwice : List Call :=
  promote model ++ promote model₂ ++ promoteAdapter adapter ++
    promoteAdapter { adapter with id := 31 }

end Sample

theorem served_is_well_defined_sample : ServedWell (run step Sample.db Sample.promotion) := by
  have hnoAdapter : ∀ db, ∀ call ∈ Sample.promotion, PromotesAlone adapterGroup db call := by
    intro db call hcall id c row hop
    simp only [Sample.promotion, Sample.promote, List.mem_cons, List.not_mem_nil, or_false] at hcall
    rcases hcall with rfl | rfl | rfl <;> cases hop
  refine served_is_well_defined rfl rfl
    ⟨⟨?_, hnoAdapter _ _ (by simp [Sample.promotion, Sample.promote])⟩,
      ⟨?_, hnoAdapter _ _ (by simp [Sample.promotion, Sample.promote])⟩,
      ⟨?_, hnoAdapter _ _ (by simp [Sample.promotion, Sample.promote])⟩, trivial⟩
  · intro id c row hop
    cases hop
  · intro id c row hop
    cases hop
  · intro id c row hop hrow hstage hactive hmay hauth s hs hserving
    have hone : s = { Sample.model with stage := .STAGING, version := 2 } := List.mem_singleton.1 hs
    subst hone
    cases hserving.1

/-- Nothing keeps a second row from production: which model is served depends on the order of the
rows, and the adapter is not found at all. -/
theorem promoted_twice :
    getProductionModel (run step Sample.db Sample.promotedTwice).models.rows 10
        (Sample.callerOf 1) ≠
      getProductionModel (run step Sample.db Sample.promotedTwice).models.rows.reverse 10
        (Sample.callerOf 1) ∧
    getActiveForBaseModel (run step Sample.db Sample.promotedTwice) 20 (Sample.callerOf 1) =
      .error ⟨.MultipleResultsFound, "Multiple rows were found when one or none was required"⟩ := by
  decide +kernel

end Registry

end HermesRpt
