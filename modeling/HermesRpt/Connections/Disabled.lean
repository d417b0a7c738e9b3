import HermesRpt.Connections.Isolation
import HermesRpt.Connections.Requests

/-!
# HermesRpt.Connections.Disabled

Whether a connection that was disabled stays out of use until it is enabled again.

`get_or_create_engine` refuses a disabled connection, but `validate_connection` and `rotate_secret`
assign the status whatever it was, and a connection they have been called on is in use again
(`reenabled`).

* `Reenables`      : a validation or a rotation of the connection succeeds.
* `stays_disabled` : without one, and without `enable_connection`, no engine is returned.
-/

namespace HermesRpt

namespace Connections

open Connectors Keyed Machine
open Async Code

/-- `enable_connection` of `c`. -/
def EnableRequest (c : Uuid) : Request → Prop
  | .enableConnection connectionId _ => connectionId = c
  | _ => False

/-- `validate_connection` or `rotate_secret` of `c`. -/
def ResetsStatus (c : Uuid) : Request → Prop
  | .validateConnection connectionId .. => connectionId = c
  | .rotateSecret connectionId .. => connectionId = c
  | _ => False

def Reenables (c : Uuid) (s : Shared) (a : Attempt) : Prop :=
  ResetsStatus c a.request ∧ Succeeds s a

/-- The connection is disabled, unless it is gone. -/
def Disabled (c : Uuid) (s : Shared) : Prop :=
  ∀ row, s.db.connections.find? c = some row → row.status = .DISABLED

section

variable {c : Uuid} {s : Shared}

theorem disabled_after {a : Attempt} (h : Disabled c s)
    (henable : ¬EnableRequest c a.request) (hregister : ¬(Registers a.request ∧ connectionOf a.request = c))
    (hre : ¬Reenables c s a) : Disabled c (after s a) := by
  by_cases hs : Succeeds s a
  · obtain ⟨response, tr, hr⟩ := hs.respond_eq
    intro row' hrow'
    cases row_of_ok hr c with
    | same _ hsame => exact h row' (hsame ▸ hrow')
    | registered hc hreg => exact absurd ⟨hreg, hc.symm⟩ hregister
    | deleted hc hgone =>
      rw [hgone] at hrow'
      cases hrow'
    | changed hc row changes hch hrow hnew =>
      rw [hnew] at hrow'
      cases hrow'
      rw [written_status]
      obtain ⟨request, fault⟩ := a
      cases request with
      | disableConnection connectionId ctx =>
        cases hch
        rfl
      | enableConnection connectionId ctx => exact absurd hc.symm henable
      | validateConnection connectionId ctx checkedAt failure => exact absurd ⟨hc.symm, hs⟩ hre
      | rotateSecret connectionId ctx newSecretValue secretId credentialId now =>
        exact absurd ⟨hc.symm, hs⟩ hre
      | _ => cases hch
  · intro row hrow
    rw [after_db_of_fails hs] at hrow
    exact h row hrow

/-- A connection that is disabled gives no engine, however the requests after go on without enabling
it, as long as none of them that validates it or rotates its secret succeeds. -/
theorem stays_disabled (h : Disabled c s) {as : List Attempt}
    (hrequests : ∀ a ∈ as, ¬EnableRequest c a.request ∧
      ¬(Registers a.request ∧ connectionOf a.request = c))
    (hre : Meets after (fun s a => ¬Reenables c s a) s as) (ctx : TenantContext)
    (fault : Option Nat) : ¬Succeeds (stateAfter s as) ⟨.getOrCreateEngine c ctx, fault⟩ := by
  have hd : Disabled c (stateAfter s as) := by
    clear ctx fault
    induction as generalizing s with
    | nil => exact h
    | cons a as ih =>
      obtain ⟨henable, hregister⟩ := hrequests a (by simp)
      exact ih (disabled_after h henable hregister hre.1)
        (fun b hb => hrequests b (by simp [hb])) hre.2
  intro hok
  obtain ⟨response, tr, hr⟩ := hok.respond_eq
  obtain ⟨connection, engine, -, hrow, -, hstatus, -⟩ := getOrCreateEngine_ok hr
  exact hstatus (hd connection hrow)

end

end Connections

namespace Sample

open Connections

def register : Attempt :=
  { request := .registerConnection ctx
      { name := "fleet", host := "db", databaseName := "fleet", username := "ro",
        secretValue := "s3cret" }
      1 11 10 }

def enable : Attempt := { request := .enableConnection 10 ctx }

def disable : Attempt := { request := .disableConnection 10 ctx }

def validate (failure : Option String) : Attempt :=
  { request := .validateConnection 10 ctx ⟨0, 0⟩ failure }

def rotate : Attempt := { request := .rotateSecret 10 ctx "new" 2 12 ⟨0, 0⟩ }

/-- The same by another tenant, which is refused. -/
def foreignValidate : Attempt := { request := .validateConnection 10 foreign ⟨0, 0⟩ none }

def ask : Attempt := { request := .getOrCreateEngine 10 ctx }

end Sample

namespace Connections

open Connectors

/-- The connection is disabled, nobody enables it, and it is in use again: after a validation, and
after a rotation. -/
theorem reenabled :
    Disabled 10 (stateAfter Sample.shared [Sample.disable]) ∧
      Succeeds (stateAfter Sample.shared [Sample.disable, Sample.validate none]) Sample.ask ∧
      Succeeds (stateAfter Sample.shared [Sample.disable, Sample.rotate]) Sample.ask := by
  refine ⟨?_, ⟨_, rfl⟩, ⟨_, rfl⟩⟩
  intro row hrow
  cases hrow
  rfl

theorem stays_disabled_sample :
    ¬Succeeds (stateAfter (stateAfter Sample.shared [Sample.disable])
      [Sample.ask, Sample.foreignValidate, Sample.disable]) Sample.ask := by
  refine stays_disabled (c := 10) ?_ ?_ ?_ Sample.ctx none
  · intro row hrow
    cases hrow
    rfl
  · intro a ha
    simp only [List.mem_cons, List.not_mem_nil, or_false] at ha
    obtain rfl | rfl | rfl := ha <;> exact ⟨id, fun hr => hr.1⟩
  · refine ⟨fun hr => hr.1, ?_, fun hr => hr.1, trivial⟩
    rintro ⟨-, response, hr⟩
    cases hr

end Connections

end HermesRpt
