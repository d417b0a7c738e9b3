import HermesRpt.Lifecycle.Confinement
import HermesRpt.Registry.AuditTrail

/-!
# HermesRpt.Services

The services beside the predictions, on one control plane: the model registry, and the mapping
lifecycle with the discoveries.

* `ServiceCall` : a call of one of them.
* `Grown`       : what a prediction may rely on. Models and mapping versions are not deleted, and no
  other service records an execution of a prediction.
-/

namespace HermesRpt

open Keyed (Table)
open Transaction Machine

inductive ServiceCall where
  | registry (call : Registry.Call)
  | mapping (std : Stdlib) (call : Call)

/-- The control plane after the call, whether it succeeds or raises. -/
def ServiceCall.apply (db : ControlPlane) : ServiceCall → ControlPlane
  | .registry call => Registry.step db call
  | .mapping std call => step std db call

structure Grown (db db' : ControlPlane) : Prop where
  models : ∀ id, (db.models.find? id).isSome → (db'.models.find? id).isSome
  versions : ∀ id, (db.versions.find? id).isSome → (db'.versions.find? id).isSome
  audit : ∃ events, db'.audit = db.audit ++ events ∧
    ∀ event ∈ events, event.action ≠ "prediction.execute"

section

variable {db db' : ControlPlane}

theorem Grown.refl (db : ControlPlane) : Grown db db :=
  ⟨fun _ h => h, fun _ h => h, [], by simp, by simp⟩

theorem Registry.Call.action_ne (call : Registry.Call) : call.action ≠ "prediction.execute" := by
  cases call <;> simp [Registry.Call.action]

theorem grown_registry (call : Registry.Call) (db : ControlPlane) :
    Grown db (Registry.step db call) := by
  rcases after_cases (Registry.perform call) db with ⟨r, h⟩ | ⟨-, h⟩
  · obtain ⟨event, hwrites⟩ := Registry.writes_of_ok h
    refine ⟨fun id hid => ?_, fun id hid => ?_, [event], hwrites.audit, fun e he => ?_⟩
    · obtain ⟨row, hrow⟩ := Option.isSome_iff_exists.1 hid
      obtain ⟨row', hrow'⟩ :=
        Registry.rowOf_step_isSome (show Registry.rowOf Registry.ModelVersion id db = some row from hrow) call
      exact Option.isSome_iff_exists.2 ⟨row', hrow'⟩
    · rw [Registry.step, hwrites.versions]
      exact hid
    · rw [List.mem_singleton.1 he, hwrites.recorded.action]
      exact call.action_ne
  · rw [Registry.step, h]
    exact .refl db

theorem Lifecycle.Confined.grown {tenantId : Uuid} (h : Lifecycle.Confined tenantId db db') :
    Grown db db' := by
  refine ⟨fun id hid => ?_, h.versions.kept, ?_⟩
  · rw [h.rest]
    exact hid
  · obtain ⟨events, haudit, hevents⟩ := h.audit
    refine ⟨events, haudit, fun event hevent he => ?_⟩
    have haction := (hevents event hevent).2
    rw [he] at haction
    simp [Lifecycle.lifecycleActions] at haction

theorem grown_mapping (std : Stdlib) (call : Call) (db : ControlPlane) :
    Grown db (step std db call) := by
  cases hctx : Lifecycle.callContext call with
  | some ctx => exact (Lifecycle.step_confined hctx db).grown
  | none =>
    cases call <;> cases hctx
    exact ⟨fun _ h => h, fun _ h => h, [], by simp [step, after, perform, write], by simp⟩

theorem grown_apply (call : ServiceCall) (db : ControlPlane) : Grown db (call.apply db) := by
  cases call with
  | registry call => exact grown_registry call db
  | mapping std call => exact grown_mapping std call db

end

end HermesRpt
