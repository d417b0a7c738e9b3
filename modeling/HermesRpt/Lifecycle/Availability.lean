import HermesRpt.Lifecycle.Review

/-!
# HermesRpt.Lifecycle.Availability

What production code can still get while a mapping is worked on.

* `Unserved` : the mapping is not active, or it is suspended. Only an activation ends this.
* `Prepares` : the calls that prepare a new version of a mapping.
* `available_iff` : production keeps its version exactly when no new version is stored.
-/

namespace HermesRpt

namespace Lifecycle

open Keyed (Table)
open Transaction Machine
open Schemas Mappings Features

variable {std : Stdlib} {db : ControlPlane} {k : Uuid} {ctx : TenantContext} {call : Call}

/-- Nothing of the mapping can be served. -/
def Unserved (w : View) : Prop :=
  ∀ m, w.row = some m → m.state = .ACTIVE → m.suspendedDueToDrift = true

/-- The call is a successful activation of mapping `k`. -/
def Activates (std : Stdlib) (k : Uuid) (db : ControlPlane) (call : Call) : Prop :=
  ∃ id, Activated std k id db call

theorem Unserved.not_serves (h : Unserved (view db k)) (ctx : TenantContext) (id : Uuid) :
    ¬Serves db ctx k id := by
  intro hserves
  obtain ⟨m, hf, -, hs, hsus, -⟩ := serves_row hserves
  rw [h m hf hs] at hsus; cases hsus

/-- Only an activation makes an unserved mapping servable. -/
theorem unserved_step {w : View} (h : Unserved (view db k)) (hmove : Move std k db call w)
    (hno : ¬Activates std k db call) : Unserved w := by
  intro m' hm' hs'
  cases hmove with
  | idle => exact h m' hm' hs'
  | drafted created fresh state =>
    cases hm'
    rw [state] at hs'; cases hs'
  | activated activated => exact absurd ⟨_, activated⟩ hno
  | suspended suspension row state =>
    cases hm'
    exact bumped_suspendedDueToDrift _ _
  | revised | submitted | approved | deprecated | rejected =>
    cases hm'
    rw [bumped_state] at hs'; cases hs'

theorem unserved_run (hr : Reachable std db) (h : Unserved (view db k)) {calls : List Call}
    (hno : Meets (step std) (fun db call => ¬Activates std k db call) db calls) :
    Unserved (view (run (step std) db calls) k) := by
  induction calls generalizing db with
  | nil => exact h
  | cons call calls ih =>
    exact ih hr.step (unserved_step h (step_move (wf_of_reachable hr k)) hno.1) hno.2

/-! ## Preparing a new version -/

/-- The calls that prepare a new version of mapping `k`. -/
def Prepares (k : Uuid) : Call → Prop
  | .createNewVersion _ k' _ _ _ _ _ => k' = k
  | .submitForValidation _ k' | .approve _ k' | .reject _ k' => k' = k
  | _ => False

/-- The call stores a new version in `db`: it is made under the mapping's tenant by a known user,
and the id it draws is new. -/
def StoresVersion (db : ControlPlane) (m : SchemaMapping) : Call → Prop
  | .createNewVersion ctx _ _ _ _ _ versionId =>
    ctx.tenantId = m.tenantId ∧ ctx.principalId ∈ db.users ∧ db.versions.find? versionId = none
  | _ => False

/-- Production still gets version `v` of the mapping, and if the resolver found the entity's mapping
before, it now finds `v`'s document. -/
def StaysAvailable (db db' : ControlPlane) (ctx : TenantContext) (m : SchemaMapping)
    (v : MappingVersion) : Prop :=
  getProductionVersion db' ctx m.id = .ok v ∧
  ∀ resolved, resolve db m.entityName ctx = .ok (some resolved) →
    ∃ resolved', resolve db' m.entityName ctx = .ok (some resolved') ∧
      resolved'.document = v.mappingDocument

/-- A call that stores a version moves the mapping to `DRAFT`. -/
theorem step_storesVersion {m : SchemaMapping} (hm : db.mappings.find? k = some m)
    (hcall : Prepares k call) (hstores : StoresVersion db m call) :
    ∃ m', (step std db call).mappings.find? k = some m' ∧ m'.state = .DRAFT := by
  cases call with
  | createNewVersion ctx k' document ai confidence explanation versionId =>
    obtain rfl : k' = k := hcall
    obtain ⟨ht, hu, hfresh⟩ := hstores
    have hreq : require SchemaMapping db k' ctx = .ok m := require_ok.2 ⟨hm, ht.symm⟩
    obtain ⟨-, -, hmid, hrow⟩ := require_row hreq
    let v : MappingVersion := {
      id := versionId, tenantId := ctx.tenantId, schemaMappingId := m.id,
      versionNumber := nextNumber db m ctx, mappingDocument := document, isAiSuggested := ai,
      confidence, explanation, createdByUserId := some ctx.principalId }
    obtain ⟨versions, hv⟩ := Table.insert?_isSome (t := db.versions) (r := v) hfresh
    have hadmits : Stored.admits db v = true := by
      simp only [Stored.admits, Bool.and_eq_true, List.all_eq_true, Bool.not_eq_true',
        decide_eq_false_iff_not]
      refine ⟨⟨Option.isSome_iff_exists.2 ⟨m, hrow⟩, decide_eq_true hu⟩, fun r hr hsame => ?_⟩
      have := lt_nextNumber (mem_versionsOf.2 ⟨hr, hsame.1, hsame.2.1⟩)
      have : r.versionNumber = nextNumber db m ctx := hsame.2.2
      omega
    have hadd : add ctx v db = .ok ((), { db with versions }) :=
      add_ok.2 ⟨rfl, hadmits, versions, hv, rfl⟩
    have hok : ∃ r, createNewVersion ctx k' document ai confidence explanation versionId db
        = .ok r := by
      have hflush : flushMapping m { m with state := .DRAFT } { db with versions } = .ok ((),
          setMapping { db with versions } (bumped m { m with state := .DRAFT })) :=
        (flushMapping_ok (by exact hrow)).2 rfl
      exact ⟨_, read_bind_ok.2 ⟨m, hreq, read_bind_ok.2 ⟨_, rfl, unit_bind_ok.2 ⟨_, hadd,
        unit_bind_ok.2 ⟨_, hflush, unit_bind_ok.2 ⟨_, record_ok.2 rfl, pure_ok.2 rfl⟩⟩⟩⟩⟩⟩
    obtain ⟨⟨v', db'⟩, hok⟩ := hok
    have hstep : step std db (.createNewVersion ctx k' document ai confidence explanation versionId)
        = db' := after_ok (a := ()) (discard_ok.2 ⟨v', hok⟩)
    obtain ⟨m₁, versions', log, hreq₁, -, -, -, hdb⟩ := createNewVersion_ok hok
    rw [hreq] at hreq₁; cases hreq₁
    have hb := bumped_id m { m with state := .DRAFT } rfl
    refine ⟨bumped m { m with state := .DRAFT }, ?_, bumped_state _ _⟩
    rw [hstep, hdb]
    exact (find?_setMapping db k' (hb.symm ▸ hrow)).trans (if_pos (hb.trans hmid).symm)
  | _ => cases hstores

/-- Nothing else that prepares a version gets past its state check. -/
theorem step_prepares {m : SchemaMapping} (hm : db.mappings.find? k = some m)
    (hs : m.state = .ACTIVE) (hcall : Prepares k call) (hno : ¬StoresVersion db m call) :
    step std db call = db := by
  rcases step_cases std db call with h | ⟨-, h⟩
  case inr => exact h
  exfalso
  unfold Succeeds at h
  cases call with
  | createNewVersion ctx k' document ai confidence explanation versionId =>
    obtain rfl : k' = k := hcall
    obtain ⟨v, h⟩ := discard_ok.1 h
    obtain ⟨m', versions, log, hreq, hu, ev, hv, -⟩ := createNewVersion_ok h
    obtain ⟨hf, ht, -, -⟩ := require_row hreq
    rw [hm] at hf; cases hf
    have hvid : v.id = versionId := ev ▸ rfl
    exact hno ⟨ht.symm, hu, hvid ▸ (Table.insert?_eq_some.1 hv).1⟩
  | submitForValidation ctx k' =>
    obtain rfl : k' = k := hcall
    obtain ⟨_, h⟩ := discard_ok.1 h
    obtain ⟨m', _, _, hreq, hs', -⟩ := submitForValidation_ok h
    obtain ⟨hf, -⟩ := require_row hreq
    rw [hm] at hf; cases hf
    rw [hs] at hs'; cases hs'
  | approve ctx k' =>
    obtain rfl : k' = k := hcall
    obtain ⟨_, h⟩ := discard_ok.1 h
    obtain ⟨m', _, _, hreq, hs', -⟩ := approve_ok h
    obtain ⟨hf, -⟩ := require_row hreq
    rw [hm] at hf; cases hf
    rw [hs] at hs'; cases hs'
  | reject ctx k' =>
    obtain rfl : k' = k := hcall
    obtain ⟨_, h⟩ := discard_ok.1 h
    obtain ⟨m', _, hreq, hs', -⟩ := reject_ok h
    obtain ⟨hf, -⟩ := require_row hreq
    rw [hm] at hf; cases hf
    rw [hs] at hs'; rcases hs' with h | h <;> cases h
  | _ => cases hcall

theorem Prepares.not_activates (h : Prepares k call) : ¬Activates std k db call := by
  rintro ⟨id, -, ctx, m, version, rfl, -⟩
  exact h

/-- While a new version is prepared, production keeps its version if and only if no call of the
sequence stores a new version. -/
theorem available_iff (std : Stdlib) (db : ControlPlane) (hr : Reachable std db)
    (ctx : TenantContext) (m : SchemaMapping) (hm : m ∈ db.mappings) (v : MappingVersion)
    (hv : getProductionVersion db ctx m.id = .ok v) (calls : List Call)
    (hcalls : ∀ call ∈ calls, Prepares m.id call) :
    StaysAvailable db (run (step std) db calls) ctx m v ↔
      ∀ call ∈ calls, ¬StoresVersion db m call := by
  have hrow : db.mappings.find? m.id = some m := Table.find?_key hm
  obtain ⟨m', a, hreq, hs, ha, hsus, hver⟩ := getProductionVersion_ok.1 hv
  obtain ⟨hf, ht, -, -⟩ := require_row hreq
  rw [hrow] at hf; cases hf
  induction calls with
  | nil =>
    simp only [run_nil, List.not_mem_nil, false_implies, implies_true, iff_true]
    refine ⟨hv, fun resolved hres => ⟨resolved, hres, ?_⟩⟩
    obtain ⟨version, hunique, -, ha', hf', -, hdoc⟩ := resolve_some hres
    obtain rfl : m = resolved.schemaMapping := (hunique m).1 ⟨hm, ht, rfl, hs⟩
    rw [ha] at ha'; cases ha'
    have := (require_ok.1 hver).1.symm.trans hf'
    cases this
    exact hdoc
  | cons call calls ih =>
    by_cases hst : StoresVersion db m call
    · have hfalse : ¬StaysAvailable db (run (step std) db (call :: calls)) ctx m v := by
        rintro ⟨hgpv, -⟩
        obtain ⟨m₁, hf₁, hs₁⟩ := step_storesVersion hrow (hcalls call (by simp)) hst
        have hun : Unserved (view (step std db call) m.id) := by
          intro m₂ hm₂ hs₂
          rw [show (view (step std db call) m.id).row = some m₁ from hf₁] at hm₂
          cases hm₂
          rw [hs₁] at hs₂; cases hs₂
        have := unserved_run hr.step hun <| meets_of_forall (fun c hc _ =>
          (hcalls c (List.mem_cons_of_mem _ hc)).not_activates) _
        exact this.not_serves ctx v.id (.inl ⟨v, hgpv, rfl⟩)
      refine iff_of_false hfalse fun h => h call (by simp) hst
    · have hsame : step std db call = db := step_prepares hrow hs (hcalls call (by simp)) hst
      rw [run_cons, hsame]
      refine (ih fun c hc => hcalls c (List.mem_cons_of_mem _ hc)).trans ?_
      simp [hst]

/-- A second version of the sample mapping is stored; production loses the first one. -/
theorem unavailable_while_prepared :
    ¬∀ (std : Stdlib) (db : ControlPlane), Reachable std db → ∀ (ctx : TenantContext)
      (m : SchemaMapping), m ∈ db.mappings → ∀ (v : MappingVersion),
      getProductionVersion db ctx m.id = .ok v → ∀ calls : List Call,
      (∀ call ∈ calls, Prepares m.id call) →
      StaysAvailable db (run (step std) db calls) ctx m v := by
  intro h
  have hfind : ((run (step Sample.std) Sample.db Sample.activation).mappings.find? 30).map
      (fun m => m.id) = some 30 := by decide +kernel
  have hserved : (getProductionVersion (run (step Sample.std) Sample.db Sample.activation)
      Sample.ctx 30).map (·.id) = .ok 40 := by decide +kernel
  have hlost : (getProductionVersion (run (step Sample.std) (run (step Sample.std) Sample.db
      Sample.activation) [Sample.secondDraft]) Sample.ctx 30).toBool = false := by decide +kernel
  have hr : Reachable Sample.std (run (step Sample.std) Sample.db Sample.activation) :=
    ⟨_, _, Sample.initial_db, rfl⟩
  generalize run (step Sample.std) Sample.db Sample.activation = db at hfind hserved hlost hr
  obtain ⟨m, hm, he⟩ := Option.map_eq_some_iff.1 hfind
  obtain ⟨v, hv⟩ : ∃ v, getProductionVersion db Sample.ctx m.id = .ok v := by
    rw [he]
    cases hv : getProductionVersion db Sample.ctx 30 with
    | error e => rw [hv] at hserved; cases hserved
    | ok v => exact ⟨v, rfl⟩
  have key := (h Sample.std db hr Sample.ctx m (Table.find?_eq_some.1 hm).1 v hv
    [Sample.secondDraft] (by simp [Sample.secondDraft, Prepares, he])).1
  rw [he] at key
  generalize run (step Sample.std) db [Sample.secondDraft] = db' at key hlost
  rw [key] at hlost; cases hlost

/-- Rejecting the active mapping is refused, and production keeps its version. -/
theorem available_iff_sample :
    (getProductionVersion (run (step Sample.std) (run (step Sample.std) Sample.db
      Sample.activation) [.reject Sample.ctx 30]) Sample.ctx 30).map (·.id) = .ok 40 := by
  have hfind : ((run (step Sample.std) Sample.db Sample.activation).mappings.find? 30).map
      (fun m => m.id) = some 30 := by decide +kernel
  have hserved : (getProductionVersion (run (step Sample.std) Sample.db Sample.activation)
      Sample.ctx 30).map (·.id) = .ok 40 := by decide +kernel
  have hr : Reachable Sample.std (run (step Sample.std) Sample.db Sample.activation) :=
    ⟨_, _, Sample.initial_db, rfl⟩
  generalize run (step Sample.std) Sample.db Sample.activation = db at hfind hserved hr ⊢
  obtain ⟨m, hm, he⟩ := Option.map_eq_some_iff.1 hfind
  obtain ⟨v, hv, hid⟩ : ∃ v, getProductionVersion db Sample.ctx m.id = .ok v ∧ v.id = 40 := by
    rw [he]
    cases hv : getProductionVersion db Sample.ctx 30 with
    | error e => rw [hv] at hserved; cases hserved
    | ok v => rw [hv] at hserved; exact ⟨v, rfl, Except.ok.inj hserved⟩
  have key := ((available_iff Sample.std db hr Sample.ctx m (Table.find?_eq_some.1 hm).1 v hv
    [.reject Sample.ctx 30] (by simp [Prepares, he])).2 (by simp [StoresVersion])).1
  rw [he] at key
  rw [key, ← hid]
  rfl

end Lifecycle

end HermesRpt
