import HermesRpt.Registry.Changes

/-!
# HermesRpt.Registry.Aliases

What an alias points to, in every run of the registry.

* `alias_of_step` : an alias was there before the call, or the call pointed it.
* `Points`        : the model and the adapter of an alias.
* `points_run`    : what the calls check of the two when they point an alias stays true of them, as
  far as it is about columns that no call changes.
* `aliases_respect_tenants` : an alias and its pair belong together, and a tenant resolves its own
  alias or the shared one.
* `adapters_fit_models`     : the adapter of an alias was made for its model.
-/

namespace HermesRpt

namespace Registry

open Keyed (Table)
open Keyed.HasKey
open Machine
open Staged

/-- The alias is what the call asked for. -/
structure AliasArgs.Made (args : AliasArgs) (a : ModelAlias) : Prop where
  task : a.taskDefinitionId = args.taskDefinitionId
  name : a.aliasName = args.aliasName
  tenant : a.tenantId = args.aliasTenantId
  model : a.modelVersionId = args.modelVersionId
  adapter : a.tenantModelAdapterId = args.tenantModelAdapterId

section

variable {db db₀ : ControlPlane} {call : Call} {calls : List Call}

theorem made_of_repointed {args : AliasArgs} {existing : ModelAlias}
    (h : existing ∈ aliasesNamed db args.taskDefinitionId args.aliasName args.aliasTenantId) :
    args.Made (written (repoint args.modelVersionId args.tenantModelAdapterId) existing) := by
  obtain ⟨-, htask, hname, htenant⟩ := mem_aliasesNamed.1 h
  unfold written
  split
  · rename_i hsame
    exact ⟨htask, hname, htenant, (congrArg ModelAlias.modelVersionId hsame).symm,
      (congrArg ModelAlias.tenantModelAdapterId hsame).symm⟩
  · exact ⟨htask, hname, htenant, rfl, rfl⟩

theorem models_of_aliasOperation {args : AliasArgs} (h : aliasOperation call = some args)
    (he : Effects call db (step db call)) : (step db call).models = db.models ∧
      (step db call).adapters = db.adapters := by
  cases call with
  | setAlias _ => exact ⟨he.models, he.adapters⟩
  | rollbackAlias _ => exact ⟨he.models, he.adapters⟩
  | _ => cases h

theorem alias_of_step {a : ModelAlias} (ha : a ∈ (step db call).aliases) : a ∈ db.aliases ∨
    ∃ args modelVersion adapter, aliasOperation call = some args ∧
      Checked db args modelVersion adapter ∧ args.Made a ∧
      (step db call).models = db.models ∧ (step db call).adapters = db.adapters := by
  rcases step_cases db call with h | ⟨-, he⟩
  · rw [h] at ha
    exact .inl ha
  · have hal := he.aliases
    split at hal
    · rename_i args hop
      obtain ⟨hmodels, hadapters⟩ := models_of_aliasOperation hop he
      generalize (step db call).aliases = t at hal ha
      cases hal with
      | @repointed m adapter existing hchecked hfound =>
        obtain ⟨r, hr, rfl⟩ := Table.mem_update.1 ha
        split
        · rename_i hk
          have hmem : existing ∈
              aliasesNamed db args.taskDefinitionId args.aliasName args.aliasTenantId := by
            simp [hfound]
          have hrow : r = existing :=
            Table.eq_of_key_eq hr (mem_aliasesNamed.1 hmem).1 hk
          subst hrow
          exact .inr ⟨args, m, adapter, hop, hchecked, made_of_repointed hmem, hmodels, hadapters⟩
        · exact .inl hr
      | added hchecked hnone hi =>
        rcases (Table.mem_insert? hi).1 ha with ha | rfl
        · exact .inl ha
        · exact .inr ⟨args, _, _, hop, hchecked, ⟨rfl, rfl, rfl, rfl, rfl⟩, hmodels, hadapters⟩
    · rw [hal] at ha
      exact .inl ha

/-! ## The pair of an alias -/

/-- The alias points to the model and to the adapter, or to none. -/
structure Points (db : ControlPlane) (a : ModelAlias) (modelVersion : ModelVersion)
    (adapter : Option TenantModelAdapter) : Prop where
  model : rowOf ModelVersion a.modelVersionId db = some modelVersion
  named : adapter.map (·.id) = a.tenantModelAdapterId
  stored : ∀ x ∈ adapter, rowOf TenantModelAdapter x.id db = some x

theorem points_of_checked {args : AliasArgs} {a : ModelAlias} {m : ModelVersion}
    {adapter : Option TenantModelAdapter} (hchecked : Checked db args m adapter)
    (hmade : args.Made a) : Points db a m adapter where
  model := by rw [hmade.model]; exact hchecked.model
  named := hchecked.named.trans hmade.adapter.symm
  stored x hx := (hchecked.adapter x hx).1

theorem points_after {a : ModelAlias} {m : ModelVersion} {adapter : Option TenantModelAdapter}
    (h : Points db a m adapter) (call : Call) : ∃ m' adapter', Points (step db call) a m' adapter' ∧
      frozen m' = frozen m ∧ adapter'.map frozen = adapter.map frozen := by
  obtain ⟨m', hm', -, hfm⟩ := rowOf_step h.model call
  cases adapter with
  | none =>
    refine ⟨m', none, ⟨hm', h.named, ?_⟩, hfm, rfl⟩
    intro x hx
    cases hx
  | some x =>
    obtain ⟨x', hx', -, hfx⟩ := rowOf_step (h.stored x rfl) call
    have hid : x'.id = x.id := (rowOf_eq_some.1 hx').2
    refine ⟨m', some x', ⟨hm', ?_, ?_⟩, hfm, congrArg some hfx⟩
    · rw [← h.named]
      exact congrArg some hid
    · intro y hy
      cases hy
      rw [hid]
      exact hx'

/-- Every alias points to a pair, and the pair meets `P`. -/
def AllPoint (P : ModelAlias → ModelVersion → Option TenantModelAdapter → Prop)
    (db : ControlPlane) : Prop :=
  ∀ a ∈ db.aliases, ∃ modelVersion adapter, Points db a modelVersion adapter ∧
    P a (frozen modelVersion) (adapter.map frozen)

variable {P : ModelAlias → ModelVersion → Option TenantModelAdapter → Prop}

theorem points_step (h : AllPoint P db)
    (hcall : ∀ args m adapter a, aliasOperation call = some args → Checked db args m adapter →
      args.Made a → P a (frozen m) (adapter.map frozen)) : AllPoint P (step db call) := by
  intro a ha
  rcases alias_of_step ha with ha | ⟨args, m, adapter, hop, hchecked, hmade, hmodels, hadapters⟩
  · obtain ⟨m, adapter, hp, hP⟩ := h a ha
    obtain ⟨m', adapter', hp', hfm, hfa⟩ := points_after hp call
    exact ⟨m', adapter', hp', by rw [hfm, hfa]; exact hP⟩
  · have hp := points_of_checked hchecked hmade
    refine ⟨m, adapter, ⟨?_, hp.named, fun x hx => ?_⟩, hcall args m adapter a hop hchecked hmade⟩
    · show (step db call).models.find? _ = _
      rw [hmodels]
      exact hp.model
    · show (step db call).adapters.find? _ = _
      rw [hadapters]
      exact hp.stored x hx

theorem points_run (hstart : db₀.aliases = Table.empty) {Ok : ControlPlane → Call → Prop}
    (hcall : ∀ db call, Ok db call → ∀ args m adapter a, aliasOperation call = some args →
      Checked db args m adapter → args.Made a → P a (frozen m) (adapter.map frozen))
    (hok : Meets step Ok db₀ calls) : AllPoint P (run step db₀ calls) := by
  refine run_invariant_of_meets (I := AllPoint P)
    (fun db call h ho => points_step h (hcall db call ho)) ?_ hok
  intro a ha
  rw [hstart] at ha
  exact absurd ha (Table.not_mem_empty a)

/-! ## One alias of a name -/

def OneAlias (db : ControlPlane) : Prop :=
  ∀ taskDefinitionId aliasName tenantId,
    (aliasesNamed db taskDefinitionId aliasName tenantId).length ≤ 1

/-- An update that leaves the names of the aliases keeps how many there are of each. -/
theorem aliasesNamed_update {t : Table ModelAlias} {id : Uuid} {f : ModelAlias → ModelAlias}
    {hf : ∀ a, (key (f a) : Uuid) = key a}
    (hsame : ∀ a, (f a).taskDefinitionId = a.taskDefinitionId ∧ (f a).aliasName = a.aliasName ∧
      (f a).tenantId = a.tenantId)
    (taskDefinitionId : Uuid) (aliasName : String) (tenantId : Option Uuid) :
    (aliasesNamed { db with aliases := t.update id f hf } taskDefinitionId aliasName
      tenantId).length =
        (aliasesNamed { db with aliases := t } taskDefinitionId aliasName tenantId).length := by
  unfold aliasesNamed Table.update
  rw [List.filter_map, List.length_map]
  congr 1
  refine List.filter_congr fun a _ => ?_
  simp only [Function.comp]
  split
  · rw [(hsame a).1, (hsame a).2.1, (hsame a).2.2]
  · rfl

theorem written_repoint_name (modelVersionId : Uuid) (adapterId : Option Uuid) (a : ModelAlias) :
    (written (repoint modelVersionId adapterId) a).taskDefinitionId = a.taskDefinitionId ∧
      (written (repoint modelVersionId adapterId) a).aliasName = a.aliasName ∧
      (written (repoint modelVersionId adapterId) a).tenantId = a.tenantId := by
  unfold written
  split <;> exact ⟨rfl, rfl, rfl⟩

/-- A new alias of a name there is none of. -/
theorem oneAlias_of_insert {args : AliasArgs} {modelVersionId : Uuid} {adapterId : Option Uuid}
    {t : Table ModelAlias} (h : OneAlias db)
    (hnone : aliasesNamed db args.taskDefinitionId args.aliasName args.aliasTenantId = [])
    (hi : db.aliases.insert? (newAlias args modelVersionId adapterId) = some t) :
    OneAlias { db with aliases := t } := by
  intro task name tenant
  have hrows := (Table.insert?_eq_some.1 hi).2
  simp only [aliasesNamed, hrows, List.filter_append, List.length_append]
  by_cases hm : args.taskDefinitionId = task ∧ args.aliasName = name ∧ args.aliasTenantId = tenant
  · obtain ⟨rfl, rfl, rfl⟩ := hm
    rw [aliasesNamed] at hnone
    rw [hnone, List.length_nil, Nat.zero_add]
    exact List.length_filter_le _ _
  · simpa [newAlias, hm, aliasesNamed] using h task name tenant

theorem oneAlias_of_pointed {args : AliasArgs} {t : Table ModelAlias} (h : OneAlias db)
    (hp : Pointed db args t) : OneAlias { db with aliases := t } := by
  cases hp with
  | repointed hchecked hfound =>
    intro task name tenant
    rw [aliasesNamed_update (written_repoint_name _ _)]
    exact h task name tenant
  | added hchecked hnone hi => exact oneAlias_of_insert h hnone hi

theorem oneAlias_step (h : OneAlias db) (call : Call) : OneAlias (step db call) := by
  rcases step_cases db call with hs | ⟨-, he⟩
  · rw [hs]
    exact h
  · have hal := he.aliases
    split at hal
    · have hone := oneAlias_of_pointed h hal
      exact fun task name tenant => hone task name tenant
    · intro task name tenant
      unfold aliasesNamed
      rw [hal]
      exact h task name tenant

theorem find_of_oneAlias (h : OneAlias db) (taskDefinitionId : Uuid) (aliasName : String)
    (tenantId : Option Uuid) :
    ∃ found, find db taskDefinitionId aliasName tenantId = .ok found ∧
      ∀ a, found = some a ↔ a ∈ aliasesNamed db taskDefinitionId aliasName tenantId := by
  have hlength := h taskDefinitionId aliasName tenantId
  match hl : aliasesNamed db taskDefinitionId aliasName tenantId with
  | [] => exact ⟨none, find_ok.2 hl, by simp⟩
  | [a] => exact ⟨some a, find_ok.2 hl, by simp [eq_comm]⟩
  | a :: b :: rest =>
    rw [hl] at hlength
    simp at hlength

/-- A tenant resolves its own alias of a name, or the shared one when it has none. -/
theorem resolveAlias_of_oneAlias (h : OneAlias db) (taskDefinitionId : Uuid) (ctx : TenantContext)
    (aliasName : String) :
    ∃ found, resolveAlias db taskDefinitionId ctx aliasName = .ok found ∧
      ∀ a, found = some a ↔ a ∈ aliasesNamed db taskDefinitionId aliasName (some ctx.tenantId) ∨
        aliasesNamed db taskDefinitionId aliasName (some ctx.tenantId) = [] ∧
          a ∈ aliasesNamed db taskDefinitionId aliasName none := by
  obtain ⟨own, hown, hmem⟩ := find_of_oneAlias h taskDefinitionId aliasName (some ctx.tenantId)
  unfold resolveAlias resolveForTenant
  rw [hown, Effect.except_ok_bind]
  have hlist := find_ok.1 hown
  cases own with
  | some a =>
    refine ⟨some a, rfl, fun b => ?_⟩
    rw [← hmem, hlist]
    simp
  | none =>
    obtain ⟨shared, hshared, hmem'⟩ := find_of_oneAlias h taskDefinitionId aliasName none
    refine ⟨shared, hshared, fun b => ?_⟩
    rw [hmem', hlist]
    simp

end

/-! ## Tenants -/

/-- The pair of an alias is shared or of the alias's tenant. -/
def OwnPair (a : ModelAlias) (modelVersion : ModelVersion) (adapter : Option TenantModelAdapter) :
    Prop :=
  (modelVersion.tenantId = none ∨ modelVersion.tenantId = a.tenantId) ∧
    ∀ x ∈ adapter, a.tenantId = some x.tenantId

structure AliasesRespectTenants (db : ControlPlane) : Prop where
  own : ∀ a ∈ db.aliases, ∀ tenantId, a.tenantId = some tenantId →
    (∃ m, db.models.find? a.modelVersionId = some m ∧
      (m.tenantId = none ∨ m.tenantId = some tenantId)) ∧
    ∀ adapterId ∈ a.tenantModelAdapterId, ∃ x, db.adapters.find? adapterId = some x ∧
      x.tenantId = tenantId
  shared : ∀ a ∈ db.aliases, a.tenantId = none →
    (∃ m, db.models.find? a.modelVersionId = some m ∧ m.tenantId = none) ∧
    a.tenantModelAdapterId = none
  resolved : ∀ taskDefinitionId ctx aliasName,
    ∃ found, resolveAlias db taskDefinitionId ctx aliasName = .ok found ∧
      ∀ a, found = some a ↔ a ∈ aliasesNamed db taskDefinitionId aliasName (some ctx.tenantId) ∨
        aliasesNamed db taskDefinitionId aliasName (some ctx.tenantId) = [] ∧
          a ∈ aliasesNamed db taskDefinitionId aliasName none
  foreign : ∀ taskDefinitionId ctx aliasName a,
    resolveAlias db taskDefinitionId ctx aliasName = .ok (some a) →
      a.tenantId = none ∨ a.tenantId = some ctx.tenantId

theorem ownPair_of_checked {db : ControlPlane} {args : AliasArgs} {a : ModelAlias}
    {m : ModelVersion} {adapter : Option TenantModelAdapter}
    (hchecked : Checked db args m adapter) (hmade : args.Made a) :
    OwnPair a (frozen m) (adapter.map frozen) := by
  refine ⟨?_, fun x hx => ?_⟩
  · rw [hmade.tenant]
    exact hchecked.scope
  · obtain ⟨y, hy, rfl⟩ := Option.mem_map.1 hx
    rw [hmade.tenant]
    exact (hchecked.adapter y hy).2.1

theorem respectTenants_of_points {db : ControlPlane} (hpairs : AllPoint OwnPair db)
    (hone : OneAlias db) : AliasesRespectTenants db where
  own a ha tenantId ht := by
    obtain ⟨m, adapter, hp, hmodel, hadapter⟩ := hpairs a ha
    refine ⟨⟨m, hp.model, ?_⟩, fun adapterId hid => ?_⟩
    · rw [← ht]
      exact hmodel
    · rw [← hp.named] at hid
      obtain ⟨x, hx, rfl⟩ := Option.mem_map.1 hid
      have hown : a.tenantId = some x.tenantId := hadapter (frozen x) (Option.mem_map.2 ⟨x, hx, rfl⟩)
      exact ⟨x, hp.stored x hx, Option.some.inj (hown.symm.trans ht)⟩
  shared a ha ht := by
    obtain ⟨m, adapter, hp, hmodel, hadapter⟩ := hpairs a ha
    rw [ht, or_self] at hmodel
    refine ⟨⟨m, hp.model, hmodel⟩, ?_⟩
    cases adapter with
    | none => exact hp.named.symm
    | some x =>
      have hown := hadapter (frozen x) rfl
      rw [ht] at hown
      cases hown
  resolved := resolveAlias_of_oneAlias hone
  foreign taskDefinitionId ctx aliasName a h := by
    obtain ⟨found, hfound, hmem⟩ := resolveAlias_of_oneAlias hone taskDefinitionId ctx aliasName
    rw [h] at hfound
    cases hfound
    rcases (hmem a).1 rfl with ha | ⟨-, ha⟩
    · exact .inr (mem_aliasesNamed.1 ha).2.2.2
    · exact .inl (mem_aliasesNamed.1 ha).2.2.2

/-- In every run of the registry, whatever the models and adapters it starts with. -/
theorem aliases_respect_tenants {db₀ : ControlPlane} (hstart : db₀.aliases = Table.empty)
    (calls : List Call) : AliasesRespectTenants (run step db₀ calls) := by
  have hall : Meets step (fun _ _ => True) db₀ calls := meets_of_forall (fun _ _ _ => trivial) db₀
  refine respectTenants_of_points ?_
    (run_invariant (I := OneAlias) (fun _ call h => oneAlias_step h call) ?_ calls)
  · exact points_run hstart
      (fun _ _ _ _ _ _ _ _ hchecked hmade => ownPair_of_checked hchecked hmade) hall
  · intro task name tenant
    rw [aliasesNamed, hstart]
    exact Nat.zero_le 1

namespace Sample

/-- Two models, and an adapter of tenant 1 on the first. -/
def stocked : ControlPlane :=
  run step db (promote model ++ promote model₂ ++ promoteAdapter adapter)

/-- Tenant 1 points its alias to a model with its adapter. -/
def pointTo (modelVersionId : Uuid) : Call :=
  .setAlias { taskDefinitionId := 10, modelVersionId, tenantModelAdapterId := some 30,
              tenantContext := some (callerOf 1), aliasId := 40 }

end Sample

theorem aliases_respect_tenants_sample :
    AliasesRespectTenants (run step Sample.stocked [Sample.pointTo 20]) :=
  aliases_respect_tenants rfl [Sample.pointTo 20]

/-! ## Pairs -/

/-- The adapter is the alias's tenant's and was made for the alias's model. -/
def Fits (a : ModelAlias) (modelVersion : ModelVersion) (adapter : Option TenantModelAdapter) :
    Prop :=
  ∀ x ∈ adapter, x.baseModelVersionId = a.modelVersionId ∧ a.tenantId = some x.tenantId ∧
    ¬Incompatible modelVersion x

def PairsCohere (db : ControlPlane) : Prop :=
  ∀ a ∈ db.aliases, ∀ adapterId ∈ a.tenantModelAdapterId,
    ∃ x m, db.adapters.find? adapterId = some x ∧ db.models.find? a.modelVersionId = some m ∧
      x.baseModelVersionId = a.modelVersionId ∧ a.tenantId = some x.tenantId ∧
      x.ontologyVersion = m.ontologyVersion ∧
      x.featureContractVersion = m.featureContractVersion

/-- A call that passes the checks names an adapter of the model it names. -/
def NamesItsAdapter (db : ControlPlane) (call : Call) : Prop :=
  ∀ args m x, aliasOperation call = some args → Checked db args m (some x) →
    x.baseModelVersionId = args.modelVersionId

theorem pairsCohere_of_points {db : ControlPlane} (h : AllPoint Fits db) : PairsCohere db := by
  intro a ha adapterId hid
  obtain ⟨m, adapter, hp, hfits⟩ := h a ha
  rw [← hp.named] at hid
  obtain ⟨x, hx, rfl⟩ := Option.mem_map.1 hid
  obtain ⟨hbase, htenant, hcompatible⟩ := hfits (frozen x) (Option.mem_map.2 ⟨x, hx, rfl⟩)
  obtain ⟨hontology, hfeatures⟩ := not_or.1 hcompatible
  exact ⟨x, m, hp.stored x hx, hp.model, hbase, htenant, (not_not.1 hontology).symm,
    (not_not.1 hfeatures).symm⟩

/-- In a run that names only adapters of the model it aliases, every pair is coherent. -/
theorem adapters_fit_models {db₀ : ControlPlane} {calls : List Call}
    (hstart : db₀.aliases = Table.empty) (hnames : Meets step NamesItsAdapter db₀ calls) :
    PairsCohere (run step db₀ calls) := by
  refine pairsCohere_of_points (points_run (P := Fits) hstart ?_ hnames)
  intro db call hname args m adapter a hop hchecked hmade x hx
  obtain ⟨y, hy, rfl⟩ := Option.mem_map.1 hx
  cases hy
  obtain ⟨-, htenant, hcompatible⟩ := hchecked.adapter y rfl
  refine ⟨?_, ?_, hcompatible⟩
  · rw [hmade.model]
    exact hname args m y hop hchecked
  · rw [hmade.tenant]
    exact htenant

theorem adapters_fit_models_sample :
    PairsCohere (run step Sample.stocked [Sample.pointTo 20]) := by
  refine adapters_fit_models rfl ⟨fun args m x hop hchecked => ?_, trivial⟩
  cases hop
  have hid : x.id = 30 := Option.some.inj hchecked.named
  have hrow : Sample.stocked.adapters.find? x.id = some x := (hchecked.adapter x rfl).1
  rw [hid] at hrow
  cases hrow
  rfl

/-- The adapter of model 20 is served on model 21. -/
theorem foreign_adapter :
    resolveAlias (run step Sample.stocked [Sample.pointTo 21]) 10 (Sample.callerOf 1) =
      .ok (some { id := 40, tenantId := some 1, taskDefinitionId := 10, aliasName := "production",
                  modelVersionId := 21, tenantModelAdapterId := some 30 }) ∧
    (rowOf TenantModelAdapter 30 (run step Sample.stocked [Sample.pointTo 21])).map
      (·.baseModelVersionId) = some 20 := by
  decide +kernel

end Registry

end HermesRpt
