import HermesRpt.Lifecycle.View

/-!
# HermesRpt.Lifecycle.Review

A version that is served has been created, validated, approved and activated, in this order and
each time as the latest version of its mapping.

* `Reviewed`      : what the calls so far have done for the latest version of a mapping, state by
  state. With `inherit`, an active mapping may instead carry the drift flag it started with.
* `review_step`   : every move keeps it.
* `active_version_reviewed`         : runs from a database without mappings.
* `suspension_lifted_only_by_review`: runs from a mapping that is suspended by drift.
-/

namespace HermesRpt

namespace Lifecycle

open Keyed (Table)
open Transaction Machine
open Schemas Mappings Features

variable {std : Stdlib} {db₀ db : ControlPlane} {k : Uuid} {call : Call} {calls : List Call}

/-- The mapping's latest version has seen the events `Es`, in this order. -/
def LatestSaw (std : Stdlib) (db₀ : ControlPlane) (calls : List Call) (w : View)
    (Es : Uuid → List (ControlPlane → Call → Prop)) : Prop :=
  ∃ id c, w.Latest id c ∧ Saw (step std) db₀ calls (Es id)

/-- What has happened to the latest version of mapping `k` since `db₀`. -/
def Reviewed (std : Stdlib) (inherit : Prop) (db₀ : ControlPlane) (k : Uuid) (calls : List Call)
    (w : View) : Prop :=
  ∀ m, w.row = some m → match m.state with
    | .DRAFT => LatestSaw std db₀ calls w fun id => [Created std k id]
    | .PENDING_VALIDATION =>
      LatestSaw std db₀ calls w fun id => [Created std k id, Submitted std k id]
    | .APPROVED => LatestSaw std db₀ calls w fun id =>
      [Created std k id, Submitted std k id, Approved std k id]
    | .ACTIVE =>
      (∃ id c, w.Latest id c ∧ m.activeVersionId = some id ∧ Saw (step std) db₀ calls
        [Created std k id, Submitted std k id, Approved std k id, Activated std k id]) ∨
      (inherit ∧ m.suspendedDueToDrift = true)
    | .DEPRECATED | .REJECTED => True

/-- One more event of the latest version. -/
theorem LatestSaw.snoc {w : View} {Es : Uuid → List (ControlPlane → Call → Prop)}
    {E : Uuid → ControlPlane → Call → Prop} (h : LatestSaw std db₀ calls w Es) {id : Uuid}
    {c : VersionCore} (hl : w.Latest id c) (hE : E id (run (step std) db₀ calls) call) :
    LatestSaw std db₀ (calls ++ [call]) w fun id => Es id ++ [E id] := by
  obtain ⟨id', c', hl', hsaw⟩ := h
  obtain rfl := hl.unique hl'
  exact ⟨id, c, hl, hsaw.snoc hE⟩

theorem LatestSaw.mono {w w' : View} {Es : Uuid → List (ControlPlane → Call → Prop)}
    (h : LatestSaw std db₀ calls w Es) (hw : w'.versions = w.versions) (more : List Call) :
    LatestSaw std db₀ (calls ++ more) w' Es := by
  obtain ⟨id, c, hl, hsaw⟩ := h
  refine ⟨id, c, ?_, hsaw.append more⟩
  unfold View.Latest at hl ⊢
  rwa [hw]

/-- Every move keeps what the states promise. The state decides which event the latest version
still has to see; a new version starts again at `DRAFT`. -/
theorem review_step {inherit : Prop} {w : View}
    (h : Reviewed std inherit db₀ k calls (view (run (step std) db₀ calls) k))
    (hmove : Move std k (run (step std) db₀ calls) call w)
    (wf : (view (run (step std) db₀ calls) k).WF) :
    Reviewed std inherit db₀ k (calls ++ [call]) w := by
  intro m' hm'
  cases hmove with
  | idle =>
    have := h m' hm'
    cases hs : m'.state <;> rw [hs] at this <;> dsimp only at this ⊢
    case DRAFT | PENDING_VALIDATION | APPROVED => exact this.mono rfl _
    case ACTIVE =>
      refine this.imp_left ?_
      rintro ⟨id, c, hl, ha, hsaw⟩
      exact ⟨id, c, hl, ha, hsaw.append _⟩
  | @drafted id c m created fresh state tenant active ready =>
    cases hm'
    rw [state]
    refine ⟨id, c, ?_, (saw_nil db₀ calls).snoc created⟩
    refine View.latest_addVersion fun id' c' hc' => ?_
    have := hc'.symm.trans (wf.no_versions fresh id')
    cases this
  | @revised id c m created row tenant unused number =>
    cases hm'
    rw [bumped_state]
    exact ⟨id, c, View.latest_addVersion number, (saw_nil db₀ calls).snoc created⟩
  | submitted submitted row state latest =>
    cases hm'
    rw [bumped_state]
    have := h _ row
    rw [state] at this
    exact this.snoc latest submitted
  | approved approved row state latest =>
    cases hm'
    rw [bumped_state]
    have := h _ row
    rw [state] at this
    exact this.snoc latest approved
  | @activated id c m activated row state latest =>
    cases hm'
    rw [bumped_state]
    have := h _ row
    rw [state] at this
    obtain ⟨id', c', hl', hsaw⟩ := this
    obtain rfl := latest.unique hl'
    exact .inl ⟨id, c, latest, bumped_activeVersionId _ _, hsaw.snoc activated⟩
  | deprecated deprecated row state =>
    cases hm'
    rw [bumped_state]
    trivial
  | rejected rejected row state =>
    cases hm'
    rw [bumped_state]
    trivial
  | @suspended ctx snapshot m suspension row state =>
    cases hm'
    have := h _ row
    rw [state] at this
    rw [Mappings.suspended, bumped_state]
    dsimp only
    rw [state]
    refine this.imp ?_ fun hi => ⟨hi.1, bumped_suspendedDueToDrift _ _⟩
    rintro ⟨id, c, hl, ha, hsaw⟩
    exact ⟨id, c, hl, (bumped_activeVersionId _ _).trans ha, hsaw.append _⟩

/-- The run lemma of `review_step`. -/
theorem review_run {inherit : Prop} (hr : Reachable std db₀)
    (h : Reviewed std inherit db₀ k [] (view db₀ k)) (calls : List Call) :
    Reviewed std inherit db₀ k calls (view (run (step std) db₀ calls) k) := by
  refine run_history (fun calls db => Reviewed std inherit db₀ k calls (view db k)) h ?_ calls
  intro calls call ih
  have wf := wf_of_reachable (hr.run calls) k
  exact review_step ih (step_move wf) wf

theorem reviewed_of_initial (h₀ : Initial db₀) (k : Uuid) (calls : List Call) :
    Reviewed std False db₀ k calls (view (run (step std) db₀ calls) k) := by
  have start : Reviewed std False db₀ k [] (view db₀ k) := by
    intro m hm
    simp only [view, Table.find?, h₀.1] at hm
    cases hm
  exact review_run h₀.reachable start calls

/-- The active version of an active mapping is a version of that mapping and of its tenant. -/
theorem active_version_stored (hr : Reachable std db) {m : SchemaMapping} (hm : m ∈ db.mappings)
    (hs : m.state = .ACTIVE) : ∃ v ∈ db.versions, m.activeVersionId = some v.id ∧
      v.tenantId = m.tenantId ∧ v.schemaMappingId = m.id ∧ (view db m.id).Latest v.id (core v) := by
  have wf := wf_of_reachable hr m.id
  have hrow : (view db m.id).row = some m := Table.find?_key hm
  obtain ⟨db₀, calls, h₀, rfl⟩ := hr
  have hreviewed : Reviewed std False db₀ m.id calls (view (run (step std) db₀ calls) m.id) :=
    reviewed_of_initial h₀ m.id calls
  have := hreviewed m hrow
  rw [hs] at this
  obtain ⟨id, c, hl, ha, -⟩ := this.resolve_right fun h => h.1.elim
  obtain ⟨m', hm', ht⟩ := wf.owned id c hl.1
  rw [hrow] at hm'; cases hm'
  have hc := hl.1
  simp only [view, Option.filter_eq_some_iff, Option.map_eq_some_iff, decide_eq_true_eq] at hc
  obtain ⟨⟨v, hv, rfl⟩, hk⟩ := hc
  obtain ⟨hvm, hid⟩ := Table.find?_eq_some.1 hv
  have hid : v.id = id := hid
  subst hid
  exact ⟨v, hvm, ha, ht.symm, hk, hl⟩

/-! ## Runs from a database without mappings -/

/-- In every run, an active mapping's active version is its highest-numbered one. Since it was
stored it passed the validation, was then approved and then activated, each time as the latest
version. The document of a stored version never changes. -/
theorem active_version_reviewed (std : Stdlib) (db₀ : ControlPlane) (h₀ : Initial db₀)
    (calls : List Call) :
    (∀ m ∈ (run (step std) db₀ calls).mappings, m.state = .ACTIVE →
      ∃ v ∈ (run (step std) db₀ calls).versions, m.activeVersionId = some v.id ∧
        v.schemaMappingId = m.id ∧
        (∀ w ∈ (run (step std) db₀ calls).versions, w.schemaMappingId = m.id → w ≠ v →
          w.versionNumber < v.versionNumber) ∧
        Saw (step std) db₀ calls [Created std m.id v.id, Submitted std m.id v.id,
          Approved std m.id v.id, Activated std m.id v.id]) ∧
    ∀ v ∈ (run (step std) db₀ calls).versions, ∀ more,
      ∃ v', (run (step std) db₀ (calls ++ more)).versions.find? v.id = some v' ∧
        v'.mappingDocument = v.mappingDocument := by
  have hr : Reachable std (run (step std) db₀ calls) := h₀.reachable.run calls
  constructor
  · intro m hm hs
    obtain ⟨v, hv, ha, -, hk, hl⟩ := active_version_stored hr hm hs
    have := reviewed_of_initial h₀ m.id calls m (Table.find?_key hm)
    rw [hs] at this
    obtain ⟨id, c, -, ha', hsaw⟩ := this.resolve_right fun h => h.1.elim
    rw [ha] at ha'; cases ha'
    refine ⟨v, hv, ha, hk, fun w hw hwk hne => ?_, hsaw⟩
    refine hl.2 w.id (core w) ?_ fun he => hne (Table.eq_of_key_eq hw hv he)
    simp only [view]
    rw [show (run (step std) db₀ calls).versions.find? w.id = some w from Table.find?_key hw]
    simp [core, hwk]
  · intro v hv more
    obtain ⟨v', hv', hc⟩ := stored_forever hr (Table.find?_key hv) more
    rw [run_append]
    exact ⟨v', hv', congrArg VersionCore.mappingDocument hc⟩

/-- The four calls of the sample make its version active. -/
theorem active_version_reviewed_sample :
    ∃ v, (run (step Sample.std) Sample.db Sample.activation).versions.find? 40 = some v ∧
      Saw (step Sample.std) Sample.db Sample.activation [Created Sample.std 30 v.id,
        Submitted Sample.std 30 v.id, Approved Sample.std 30 v.id, Activated Sample.std 30 v.id] := by
  have hfind : ((run (step Sample.std) Sample.db Sample.activation).mappings.find? 30).map
      (fun m => (m.id, m.state, m.activeVersionId)) = some (30, .ACTIVE, some 40) := by
    decide +kernel
  have key := (active_version_reviewed Sample.std Sample.db Sample.initial_db Sample.activation).1
  generalize run (step Sample.std) Sample.db Sample.activation = db at hfind key ⊢
  obtain ⟨m, hm, he⟩ := Option.map_eq_some_iff.1 hfind
  simp only [Prod.mk.injEq] at he
  obtain ⟨v, hv, ha, -, -, hsaw⟩ := key m (Table.find?_eq_some.1 hm).1 he.2.1
  rw [he.2.2, Option.some.injEq] at ha
  rw [he.1] at hsaw
  exact ⟨v, ha ▸ Table.find?_key hv, hsaw⟩

/-! ## Runs from a suspended mapping -/

/-- From a state in which an active mapping is suspended by drift, a version of it is served again
only if that version was created, validated, approved and activated since, in this order. -/
theorem suspension_lifted_only_by_review (std : Stdlib) (db₀ : ControlPlane)
    (hr : Reachable std db₀) (m : SchemaMapping) (hm : m ∈ db₀.mappings) (hs : m.state = .ACTIVE)
    (hsus : m.suspendedDueToDrift = true) (calls : List Call) (ctx : TenantContext) (id : Uuid)
    (h : Serves (run (step std) db₀ calls) ctx m.id id) :
    Saw (step std) db₀ calls [Created std m.id id, Submitted std m.id id, Approved std m.id id,
      Activated std m.id id] := by
  have start : Reviewed std True db₀ m.id [] (view db₀ m.id) := by
    intro m' hm'
    have : db₀.mappings.find? m.id = some m := Table.find?_key hm
    rw [show (view db₀ m.id).row = some m from this] at hm'
    cases hm'
    rw [hs]
    exact .inr ⟨trivial, hsus⟩
  obtain ⟨m', hf, -, hs', hsus', ha⟩ := serves_row h
  have := review_run hr start calls m' hf
  rw [hs'] at this
  rcases this with ⟨id', c, -, ha', hsaw⟩ | ⟨-, hinh⟩
  · rw [ha] at ha'; cases ha'
    exact hsaw
  · rw [hsus'] at hinh; cases hinh

/-- A drift on the sample's table suspends its mapping; a second version goes through the whole
review and is served. -/
theorem suspension_lifted_only_by_review_sample :
    Saw (step Sample.std) (run (step Sample.std) Sample.db (Sample.activation ++
        [.suspendAffectedByDrift Sample.ctx Sample.drifted])) Sample.secondReview
      [Created Sample.std 30 41, Submitted Sample.std 30 41, Approved Sample.std 30 41,
        Activated Sample.std 30 41] := by
  have hfind : ((run (step Sample.std) Sample.db (Sample.activation ++
      [.suspendAffectedByDrift Sample.ctx Sample.drifted])).mappings.find? 30).map
      (fun m => (m.id, m.state, m.suspendedDueToDrift)) = some (30, .ACTIVE, true) := by decide +kernel
  have hserved : (getProductionVersion (run (step Sample.std) (run (step Sample.std) Sample.db
      (Sample.activation ++ [.suspendAffectedByDrift Sample.ctx Sample.drifted]))
      Sample.secondReview) Sample.ctx 30).map (·.id) = .ok 41 := by decide +kernel
  have hr := Sample.reachable_activation [.suspendAffectedByDrift Sample.ctx Sample.drifted]
  generalize run (step Sample.std) Sample.db (Sample.activation ++
    [.suspendAffectedByDrift Sample.ctx Sample.drifted]) = db at hfind hserved hr ⊢
  obtain ⟨m, hm, he⟩ := Option.map_eq_some_iff.1 hfind
  simp only [Prod.mk.injEq] at he
  have key := suspension_lifted_only_by_review Sample.std db hr m (Table.find?_eq_some.1 hm).1
    he.2.1 he.2.2 Sample.secondReview Sample.ctx 41
  rw [he.1] at key
  refine key (.inl ?_)
  generalize run (step Sample.std) db Sample.secondReview = db' at hserved
  cases hv : getProductionVersion db' Sample.ctx 30 with
  | error e => rw [hv] at hserved; cases hserved
  | ok v => rw [hv] at hserved; exact ⟨v, rfl, Except.ok.inj hserved⟩

end Lifecycle

end HermesRpt
