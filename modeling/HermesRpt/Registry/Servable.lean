import HermesRpt.Registry.Aliases

/-!
# HermesRpt.Registry.Servable

Whether what an alias points to can still be served. The calls check it once, when they point the
alias, and of the adapter they do not check it at all.

* `Usable`        : the row is active and not archived.
* `Retires`       : a call that archives or deactivates a row.
* `KeepsServable` : a call that retires no row an alias points to, and aliases no retired adapter.
* `resolved_is_servable` : runs of such calls; `retired_pair` is what others do.
-/

namespace HermesRpt

namespace Registry

open Keyed (Table HasKey)
open Keyed.HasKey
open Machine
open Versioned Staged

section

variable {ρ : Type} [HasKey ρ Uuid] [DecidableEq ρ] [Governed ρ] {id : Uuid} {db : ControlPlane}
  {call : Call}

def Usable (row : ρ) : Prop := isActive row = true ∧ stage row ≠ .ARCHIVED

/-- The caller may change the row, and archives it or deactivates it. -/
def Retires (ρ : Type) [HasKey ρ Uuid] [DecidableEq ρ] [Governed ρ] (id : Uuid) (db : ControlPlane)
    (call : Call) : Prop :=
  ∃ tenantContext row, rowOf ρ id db = some row ∧ MayChange tenantContext row ∧
    (@Governed.operation ρ _ _ _ call = some (.move id .ARCHIVED tenantContext) ∧
        stage row ≠ .ARCHIVED ∨
      @Governed.operation ρ _ _ _ call = some (.deactivate id tenantContext))

theorem usable_step (h : ∃ row, rowOf ρ id db = some row ∧ Usable row)
    (hspares : ¬Retires ρ id db call) :
    ∃ row, rowOf ρ id (step db call) = some row ∧ Usable row := by
  obtain ⟨row, hrow, hactive, hstage⟩ := h
  obtain ⟨row', hrow', ht, -⟩ := rowOf_step hrow call
  have hid : (key row : Uuid) = id := (rowOf_eq_some.1 hrow).2
  refine ⟨row', hrow', ?_⟩
  cases ht with
  | same h => exact h ▸ ⟨hactive, hstage⟩
  | registeredAgain _ _ _ h =>
    subst h
    refine ⟨?_, by simp⟩
    rw [flushed, isActive_atVersion, isActive_setStage, hactive]
  | @moved toStage tenantContext _ hop hmay _ _ h =>
    subst h
    refine ⟨by simpa using hactive, ?_⟩
    rw [stage_written_setStage]
    rintro rfl
    rw [hid] at hop
    exact hspares ⟨tenantContext, row, hrow, hmay, .inl ⟨hop, hstage⟩⟩
  | deactivated _ hop hmay h =>
    rw [hid] at hop
    exact absurd ⟨_, row, hrow, hmay, .inr hop⟩ hspares

end

/-- The model of the alias can be served, and its adapter, if it has one. -/
structure Servable (db : ControlPlane) (a : ModelAlias) : Prop where
  model : ∃ m, rowOf ModelVersion a.modelVersionId db = some m ∧ Usable m
  adapter : ∀ adapterId ∈ a.tenantModelAdapterId,
    ∃ x, rowOf TenantModelAdapter adapterId db = some x ∧ Usable x

structure KeepsServable (db : ControlPlane) (call : Call) : Prop where
  models : ∀ a ∈ db.aliases, ¬Retires ModelVersion a.modelVersionId db call
  adapters : ∀ a ∈ db.aliases, ∀ adapterId ∈ a.tenantModelAdapterId,
    ¬Retires TenantModelAdapter adapterId db call
  aliased : ∀ args m x, aliasOperation call = some args → Checked db args m (some x) → Usable x

theorem servable_step {db : ControlPlane} {call : Call} (h : ∀ a ∈ db.aliases, Servable db a)
    (hkeeps : KeepsServable db call) : ∀ a ∈ (step db call).aliases, Servable (step db call) a := by
  intro a ha
  rcases alias_of_step ha with ha | ⟨args, m, adapter, hop, hchecked, hmade, hmodels, hadapters⟩
  · exact ⟨usable_step (h a ha).model (hkeeps.models a ha), fun adapterId hid =>
      usable_step ((h a ha).adapter adapterId hid) (hkeeps.adapters a ha adapterId hid)⟩
  · have hp := points_of_checked hchecked hmade
    refine ⟨⟨m, ?_, hchecked.active, hchecked.stage⟩, fun adapterId hid => ?_⟩
    · show (step db call).models.find? _ = _
      rw [hmodels]
      exact hp.model
    · rw [← hp.named] at hid
      obtain ⟨x, hx, rfl⟩ := Option.mem_map.1 hid
      cases hx
      refine ⟨x, ?_, hkeeps.aliased args m x hop hchecked⟩
      show (step db call).adapters.find? _ = _
      rw [hadapters]
      exact hp.stored x rfl

theorem mem_of_resolved {db : ControlPlane} {taskDefinitionId : Uuid} {ctx : TenantContext}
    {aliasName : String} {a : ModelAlias}
    (h : resolveAlias db taskDefinitionId ctx aliasName = .ok (some a)) : a ∈ db.aliases := by
  have hmem : ∀ tenantId, find db taskDefinitionId aliasName tenantId = .ok (some a) →
      a ∈ db.aliases := by
    intro tenantId hf
    have hlist := find_ok.1 hf
    refine (mem_aliasesNamed.1 (?_ : a ∈ aliasesNamed db taskDefinitionId aliasName tenantId)).1
    simp [hlist]
  obtain ⟨own, hown, h⟩ := Effect.except_bind_ok.1 h
  cases own with
  | some b =>
    cases h
    exact hmem _ hown
  | none => exact hmem _ h

/-- In a run that retires nothing an alias points to, and aliases no retired adapter, what is resolved
can be served. -/
theorem resolved_is_servable {db₀ : ControlPlane} {calls : List Call}
    (hstart : db₀.aliases = Table.empty) (hkeeps : Meets step KeepsServable db₀ calls) :
    ∀ taskDefinitionId ctx aliasName a,
      resolveAlias (run step db₀ calls) taskDefinitionId ctx aliasName = .ok (some a) →
      Servable (run step db₀ calls) a := by
  intro taskDefinitionId ctx aliasName a hresolved
  refine run_invariant_of_meets (I := fun db => ∀ a ∈ db.aliases, Servable db a)
    (fun _ _ h hk => servable_step h hk) ?_ hkeeps a (mem_of_resolved hresolved)
  intro b hb
  rw [hstart] at hb
  exact absurd hb (Table.not_mem_empty b)

theorem resolved_is_servable_sample :
    Servable (run step Sample.stocked [Sample.pointTo 20])
      { id := 40, tenantId := some 1, taskDefinitionId := 10, aliasName := "production",
        modelVersionId := 20, tenantModelAdapterId := some 30 } := by
  have hkeeps : KeepsServable Sample.stocked (Sample.pointTo 20) := by
    refine ⟨fun a ha => absurd ha (Table.not_mem_empty a),
      fun a ha => absurd ha (Table.not_mem_empty a), fun args m x hop hchecked => ?_⟩
    cases hop
    have hid : x.id = 30 := Option.some.inj hchecked.named
    have hrow : Sample.stocked.adapters.find? x.id = some x := (hchecked.adapter x rfl).1
    rw [hid] at hrow
    cases hrow
    exact ⟨rfl, by decide⟩
  have hrun : Meets step KeepsServable Sample.stocked [Sample.pointTo 20] := ⟨hkeeps, trivial⟩
  exact resolved_is_servable rfl hrun 10 (Sample.callerOf 1) "production" _
    (by decide +kernel)

/-- An archived model and an inactive adapter are still resolved. -/
theorem retired_pair :
    resolveAlias (run step Sample.stocked [Sample.pointTo 20,
        .transitionStage 20 .ARCHIVED (some (Sample.callerOf 1)),
        .deactivateAdapter 30 (Sample.callerOf 1)]) 10 (Sample.callerOf 1) =
      .ok (some { id := 40, tenantId := some 1, taskDefinitionId := 10, aliasName := "production",
                  modelVersionId := 20, tenantModelAdapterId := some 30 }) ∧
    (rowOf ModelVersion 20 (run step Sample.stocked [Sample.pointTo 20,
        .transitionStage 20 .ARCHIVED (some (Sample.callerOf 1)),
        .deactivateAdapter 30 (Sample.callerOf 1)])).map (·.stage) = some .ARCHIVED ∧
    (rowOf TenantModelAdapter 30 (run step Sample.stocked [Sample.pointTo 20,
        .transitionStage 20 .ARCHIVED (some (Sample.callerOf 1)),
        .deactivateAdapter 30 (Sample.callerOf 1)])).map (·.isActive) = some false := by
  decide +kernel

end Registry

end HermesRpt
