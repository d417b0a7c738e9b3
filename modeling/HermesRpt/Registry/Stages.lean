import HermesRpt.Registry.Changes

/-!
# HermesRpt.Registry.Stages

The way of a model or an adapter to production.

* `Registers`, `Promotes` : a new row, and a move into `STAGING` or `PRODUCTION` by a caller who may.
* `wayTo`                 : the events a row has behind it, stage by stage.
* `way_step`              : every call keeps that.
* `stages_are_safe`       : runs of the registry, for models and for adapters.
-/

namespace HermesRpt

namespace Registry

open Keyed (Table HasKey)
open Keyed.HasKey
open Machine
open Versioned Staged

section

variable (ρ : Type) [HasKey ρ Uuid] [DecidableEq ρ] [Governed ρ]

/-- The call adds a new row, a candidate. -/
def Registers (id : Uuid) (db : ControlPlane) (call : Call) : Prop :=
  Succeeds db call ∧ rowOf ρ id db = none ∧
    ∃ row, rowOf ρ id (step db call) = some row ∧ stage row = .CANDIDATE

/-- The call moves the row into `toStage`; the row is the caller's or shared, and the caller holds
`model:promote` or is the trusted one. -/
def Promotes (id : Uuid) (toStage : ModelStage) (db : ControlPlane) (call : Call) : Prop :=
  Succeeds db call ∧ ∃ tenantContext row row',
    @Governed.operation ρ _ _ _ call = some (.move id toStage tenantContext) ∧
    rowOf ρ id db = some row ∧ MayChange tenantContext row ∧ Authorised tenantContext ∧
    rowOf ρ id (step db call) = some row' ∧ stage row' = toStage

/-- The call registers the row again, which sets it back to a candidate. -/
def RegistersAgain (id : Uuid) (db : ControlPlane) (call : Call) : Prop :=
  Succeeds db call ∧ ∃ row, @Governed.operation ρ _ _ _ call = some (.register (.loaded row)) ∧
    (key row : Uuid) = id

/-- What is behind a row of the stage. -/
def wayTo (id : Uuid) : ModelStage → List (ControlPlane → Call → Prop)
  | .CANDIDATE | .ARCHIVED => [Registers ρ id]
  | .STAGING => [Registers ρ id, Promotes ρ id .STAGING]
  | .PRODUCTION => [Registers ρ id, Promotes ρ id .STAGING, Promotes ρ id .PRODUCTION]

end

section

variable {ρ : Type} [HasKey ρ Uuid] [DecidableEq ρ] [Governed ρ] {id : Uuid}
  {db db₀ : ControlPlane} {call : Call} {calls : List Call}

/-- Every way begins with the registration. -/
theorem registered_of_way {s : ModelStage} (h : Saw step db₀ calls (wayTo ρ id s)) :
    Saw step db₀ calls [Registers ρ id] := by
  cases s with
  | CANDIDATE => exact h
  | STAGING =>
    have h' : Saw step db₀ calls ([Registers ρ id] ++ [Promotes ρ id .STAGING]) := h
    exact h'.init
  | PRODUCTION =>
    have h' : Saw step db₀ calls
        ([Registers ρ id] ++ [Promotes ρ id .STAGING, Promotes ρ id .PRODUCTION]) := h
    exact h'.init
  | ARCHIVED => exact h

/-- A valid move makes the way longer by a promotion, or leads to a stage that was passed. -/
theorem way_of_move {s s' : ModelStage} (hvalid : s' ∈ validTransitions s)
    (h : Saw step db₀ calls (wayTo ρ id s))
    (hpromotes : s' ∈ promotionStages → Promotes ρ id s' (run step db₀ calls) call) :
    Saw step db₀ (calls ++ [call]) (wayTo ρ id s') := by
  cases s' with
  | CANDIDATE => exact (registered_of_way h).append [call]
  | ARCHIVED => exact (registered_of_way h).append [call]
  | STAGING => exact (registered_of_way h).snoc (hpromotes (by simp [promotionStages]))
  | PRODUCTION =>
    cases s with
    | STAGING => exact Saw.snoc h (hpromotes (by simp [promotionStages]))
    | CANDIDATE => simp [validTransitions] at hvalid
    | PRODUCTION => simp [validTransitions] at hvalid
    | ARCHIVED => simp [validTransitions] at hvalid

theorem promotes_of_moved {toStage : ModelStage} {tenantContext : Option TenantContext} {r : ρ}
    (hs : Succeeds db call) (hop : @Governed.operation ρ _ _ _ call =
      some (.move (key r) toStage tenantContext))
    (hr : r ∈ (table db : Table ρ)) (hmay : MayChange tenantContext r)
    (hauthorised : toStage ∈ promotionStages → Authorised tenantContext)
    (hr' : written (setStage toStage) r ∈ (table (step db call) : Table ρ))
    (hp : toStage ∈ promotionStages) : Promotes ρ (key r) toStage db call :=
  ⟨hs, tenantContext, r, _, hop, rowOf_eq_some.2 ⟨hr, rfl⟩, hmay, hauthorised hp,
    rowOf_eq_some.2 ⟨hr', key_written _ r⟩, stage_written_setStage toStage r⟩

theorem way_step (h : ∀ row, rowOf ρ id (run step db₀ calls) = some row →
      Saw step db₀ calls (wayTo ρ id (stage row))) :
    ∀ row, rowOf ρ id (step (run step db₀ calls) call) = some row →
      Saw step db₀ (calls ++ [call]) (wayTo ρ id (stage row)) := by
  intro row hrow
  obtain ⟨hmem, hid⟩ := rowOf_eq_some.1 hrow
  rcases became_of_step hmem with hmem' | ⟨op, hop, hs, hb⟩
  · exact (h row (rowOf_eq_some.2 ⟨hmem', hid⟩)).append [call]
  · cases hb with
    | kept hmem' => exact (h row (rowOf_eq_some.2 ⟨hmem', hid⟩)).append [call]
    | registered hop' hnew hc =>
      subst hc
      rw [key_candidate] at hid
      subst hid
      rw [stage_candidate]
      exact (saw_nil db₀ calls).snoc ⟨hs, hnew, _, hrow, stage_candidate _⟩
    | registeredAgain hop' hr hkey hc =>
      subst hc
      rw [stage_flushed_setStage]
      rw [key_flushed] at hid
      exact (registered_of_way (h _ (rowOf_eq_some.2 ⟨hr, hid⟩))).append [call]
    | moved hop' hr hmay hvalid hauthorised hc =>
      subst hop' hc
      rw [key_written] at hid
      subst hid
      rw [stage_written_setStage]
      exact way_of_move hvalid (h _ (rowOf_eq_some.2 ⟨hr, rfl⟩))
        (promotes_of_moved hs hop hr hmay hauthorised hmem)
    | deactivated hop' hr hmay hc =>
      subst hc
      rw [key_written] at hid
      rw [stage_written_deactivated]
      exact (h _ (rowOf_eq_some.2 ⟨hr, hid⟩)).append [call]

theorem way_run (hnew : rowOf ρ id db₀ = none) (calls : List Call) :
    ∀ row, rowOf ρ id (run step db₀ calls) = some row →
      Saw step db₀ calls (wayTo ρ id (stage row)) := by
  refine run_history (fun calls db => ∀ row, rowOf ρ id db = some row →
    Saw step db₀ calls (wayTo ρ id (stage row))) ?_ (fun calls call h => way_step h) calls
  intro row hrow
  rw [hnew] at hrow
  cases hrow

/-- Every move into `STAGING` or `PRODUCTION` is a promotion. -/
theorem promotes_of_step {row row' : ρ} (hrow : rowOf ρ id db = some row)
    (hrow' : rowOf ρ id (step db call) = some row') (hne : stage row' ≠ stage row)
    (hp : stage row' ∈ promotionStages) : Promotes ρ id (stage row') db call := by
  obtain ⟨hmem, hid⟩ := rowOf_eq_some.1 hrow
  subst hid
  cases turned_of_step hrow hrow' with
  | same h => exact absurd (congrArg stage h) hne
  | registeredAgain _ _ _ h =>
    rw [h, stage_flushed_setStage] at hp
    simp [promotionStages] at hp
  | moved hs hop hmay hvalid hauthorised h =>
    subst h
    rw [stage_written_setStage] at hp ⊢
    exact promotes_of_moved hs hop hmem hmay hauthorised (rowOf_eq_some.1 hrow').1 hp
  | deactivated _ _ _ h => exact absurd (by rw [h, stage_written_deactivated]) hne

theorem archived_step {row : ρ} (hrow : rowOf ρ id db = some row) (hstage : stage row = .ARCHIVED)
    (honce : ¬RegistersAgain ρ id db call) :
    ∃ row', rowOf ρ id (step db call) = some row' ∧ stage row' = .ARCHIVED := by
  obtain ⟨row', hrow', ht, -⟩ := rowOf_step hrow call
  refine ⟨row', hrow', ?_⟩
  cases ht with
  | same h => rw [h, hstage]
  | registeredAgain hs hop hkey _ =>
    exact absurd ⟨hs, _, hop, hkey.symm.trans (rowOf_eq_some.1 hrow).2⟩ honce
  | moved _ _ _ hvalid _ _ =>
    rw [hstage] at hvalid
    simp [validTransitions] at hvalid
  | deactivated _ _ _ h => rw [h, stage_written_deactivated, hstage]

theorem archived_run (honce : Meets step (fun db call => ¬RegistersAgain ρ id db call) db calls)
    (h : ∃ row, rowOf ρ id db = some row ∧ stage row = .ARCHIVED) :
    ∃ row, rowOf ρ id (run step db calls) = some row ∧ stage row = .ARCHIVED :=
  run_invariant_of_meets (I := fun db => ∃ row, rowOf ρ id db = some row ∧ stage row = .ARCHIVED)
    (fun _ _ ⟨_, hrow, hstage⟩ ho => archived_step hrow hstage ho) h honce

/-- The stages of the row of `id` in a run. -/
structure StageSafe (ρ : Type) [HasKey ρ Uuid] [DecidableEq ρ] [Governed ρ] (db₀ : ControlPlane)
    (calls : List Call) (id : Uuid) : Prop where
  /-- In production it has its registration, its staging and its promotion behind it. -/
  promoted : ∀ row, rowOf ρ id (run step db₀ calls) = some row → stage row = .PRODUCTION →
    Saw step db₀ calls [Registers ρ id, Promotes ρ id .STAGING, Promotes ρ id .PRODUCTION]
  /-- No call moved it into `STAGING` or `PRODUCTION` but a promotion. -/
  authorised : Meets step (fun db call => ∀ row row', rowOf ρ id db = some row →
    rowOf ρ id (step db call) = some row' → stage row' ≠ stage row →
    stage row' ∈ promotionStages → Promotes ρ id (stage row') db call) db₀ calls
  /-- Once archived it stays archived, unless it is registered a second time. -/
  archived : ∀ pre post, calls = pre ++ post →
    Meets step (fun db call => ¬RegistersAgain ρ id db call) (run step db₀ pre) post →
    (∃ row, rowOf ρ id (run step db₀ pre) = some row ∧ stage row = .ARCHIVED) →
    ∃ row, rowOf ρ id (run step db₀ calls) = some row ∧ stage row = .ARCHIVED

theorem stageSafe (hnew : rowOf ρ id db₀ = none) (calls : List Call) :
    StageSafe ρ db₀ calls id where
  promoted row hrow hstage := by
    have h := way_run hnew calls row hrow
    rwa [hstage] at h
  authorised := meets_of_forall (fun _ _ _ _ _ h h' hne hp => promotes_of_step h h' hne hp) db₀
  archived pre post he honce h := by
    subst he
    rw [run_append]
    exact archived_run honce h

end

/-- A model or an adapter that is registered in the run, and once: it is in production after its
registration, staging and promotion, each promotion by a caller who may, and what is archived stays
so. Only of a model the caller may be the trusted one. -/
theorem stages_are_safe {db₀ : ControlPlane} {modelId adapterId : Uuid}
    (hmodel : rowOf ModelVersion modelId db₀ = none)
    (hadapter : rowOf TenantModelAdapter adapterId db₀ = none) (calls : List Call) :
    StageSafe ModelVersion db₀ calls modelId ∧ StageSafe TenantModelAdapter db₀ calls adapterId ∧
      ∀ call ∈ calls, ∀ toStage tenantContext,
        adapterOperation call = some (.move adapterId toStage tenantContext) →
        tenantContext ≠ none := by
  refine ⟨stageSafe hmodel calls, stageSafe hadapter calls, fun call _ toStage tenantContext h => ?_⟩
  cases call <;> simp [adapterOperation] at h
  rw [← h.2.2]
  simp

theorem stages_are_safe_sample :
    Saw step Sample.db Sample.promotion [Registers ModelVersion 20,
      Promotes ModelVersion 20 .STAGING, Promotes ModelVersion 20 .PRODUCTION] := by
  have hmodel : rowOf ModelVersion 20 Sample.db = none := rfl
  have hadapter : rowOf TenantModelAdapter 30 Sample.db = none := rfl
  exact (stages_are_safe hmodel hadapter Sample.promotion).1.promoted
    { Sample.model with stage := .PRODUCTION, version := 3 } rfl rfl

end Registry

end HermesRpt
