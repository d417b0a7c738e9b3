import HermesRpt.Lifecycle.Review
import HermesRpt.Lifecycle.Snapshots

/-!
# HermesRpt.Lifecycle.Coverage

Whether an activated document still fits the customer's schema. A document is validated once, at
submission and against the snapshot its mapping was created with; a discovery suspends active
mappings only. What a mapping under review refers to can be gone before it is activated.

* `Covers`      : a schema has every table and column a document refers to.
* `Covered`     : so has the latest completed snapshot of the mapping's connection.
* `Safe`        : the submissions and discoveries that do not open a gap.
* `activations_covered` : in a run of safe calls no activation is of an uncovered document.
-/

namespace HermesRpt

namespace Lifecycle

open Keyed (Table)
open Transaction Machine
open Connectors Schemas Mappings

/-- The columns of the source table that a document names. -/
def sourceColumns (document : MappingDocument) : List String :=
  ((document.identity.rows ++ document.fields.rows).flatMap fun p => p.2.sources.flatMap fun source =>
    source.column.toList ++ source.derived.toList.flatMap referencedColumns) ++
  document.filters.map (·.column) ++ document.joins.map (·.localColumn)

/-- The tables a document names, each with the columns it names there. -/
def tableReferences (document : MappingDocument) : List (String × List String) :=
  (document.source.qualifiedName, sourceColumns document) ::
    document.joins.map fun join => (join.schemaName ++ "." ++ join.table, [join.foreignColumn])

def Covers (result : SchemaIntrospectionResult) (document : MappingDocument) : Prop :=
  ∀ reference ∈ tableReferences document, ∃ table ∈ result.tables,
    table.qualifiedName = reference.1 ∧ ∀ column ∈ reference.2, column ∈ table.columns.map (·.name)

instance (result : SchemaIntrospectionResult) (document : MappingDocument) :
    Decidable (Covers result document) :=
  inferInstanceAs (Decidable (∀ reference ∈ tableReferences document, ∃ table ∈ result.tables,
    table.qualifiedName = reference.1 ∧ ∀ column ∈ reference.2, column ∈ table.columns.map (·.name)))

/-- The snapshot is a latest completed one of the mapping's connection. -/
structure IsCurrent (db : ControlPlane) (m : SchemaMapping) (s : SchemaSnapshot) : Prop where
  stored : s ∈ db.snapshots
  tenant : s.tenantId = m.tenantId
  connection : connectionOf db m = some s.connectionId
  completed : s.status = .COMPLETED
  latest : ∀ s' ∈ db.snapshots, s'.tenantId = s.tenantId → s'.connectionId = s.connectionId →
    s'.status = .COMPLETED → s'.sequenceNumber ≤ s.sequenceNumber

def Covered (db : ControlPlane) (m : SchemaMapping) (document : MappingDocument) : Prop :=
  ∀ s, IsCurrent db m s → ∃ result, s.introspection = .ok result ∧ Covers result document

/-- The mapping waits for its approval or its activation. -/
def UnderReview (m : SchemaMapping) : Prop := m.state = .PENDING_VALIDATION ∨ m.state = .APPROVED

/-- The document of every submission that passes the validation is covered at that moment, and a
discovery that becomes the latest one of its connection finds everything that the mappings under
review on that connection refer to. -/
def Safe (std : Stdlib) (db : ControlPlane) : Call → Prop
  | .submitForValidation ctx mappingId => ∀ m v, db.mappings.find? mappingId = some m →
    m.state = .DRAFT → latestVersionFor db m ctx = .ok v → validateVersion std db m v ctx = .ok () →
    Covered db m v.mappingDocument
  | .runDiscoveryJob ctx env snapshotId _ => ∀ snapshot result,
    require SchemaSnapshot db snapshotId ctx = .ok snapshot → Introspects db ctx env snapshot result →
    (∀ s ∈ db.snapshots, s.tenantId = ctx.tenantId → s.connectionId = snapshot.connectionId →
      s.status = .COMPLETED → s.sequenceNumber ≤ snapshot.sequenceNumber) →
    ∀ m ∈ db.mappings, m.tenantId = ctx.tenantId → connectionOf db m = some snapshot.connectionId →
      UnderReview m → ∀ id c, (view db m.id).Latest id c → Covers result c.mappingDocument
  | _ => True

/-- A successful activation is of a covered document. -/
def ActivatesCovered (std : Stdlib) (db : ControlPlane) (call : Call) : Prop :=
  ∀ k id, Activated std k id db call → ∀ m, db.mappings.find? k = some m →
    ∀ v, db.versions.find? id = some v → Covered db m v.mappingDocument

/-- What a mapping under review promises: its latest version is covered. -/
def ReviewCovered (db : ControlPlane) (w : View) : Prop :=
  ∀ m, w.row = some m → UnderReview m → ∀ id c, w.Latest id c → Covered db m c.mappingDocument

variable {std : Stdlib} {db : ControlPlane} {k : Uuid} {call : Call} {w : View}

/-- What is covered depends on a mapping's tenant and its snapshot only. -/
theorem covered_congr {m m' : SchemaMapping} {document : MappingDocument}
    (ht : m'.tenantId = m.tenantId) (hs : m'.schemaSnapshotId = m.schemaSnapshotId) :
    Covered db m' document ↔ Covered db m document := by
  have : ∀ s, IsCurrent db m' s ↔ IsCurrent db m s := by
    intro s
    have hc : connectionOf db m' = connectionOf db m := by rw [connectionOf, connectionOf, hs]
    constructor
    · rintro ⟨h₁, h₂, h₃, h₄, h₅⟩
      exact ⟨h₁, h₂.trans ht, hc ▸ h₃, h₄, h₅⟩
    · rintro ⟨h₁, h₂, h₃, h₄, h₅⟩
      exact ⟨h₁, h₂.trans ht.symm, hc ▸ h₃, h₄, h₅⟩
  simp only [Covered, this]

/-- Every move of a safe call keeps what a mapping under review promises, as long as the snapshots
are the same. -/
theorem Move.reviewCovered (h : ReviewCovered db (view db k)) (hsafe : Safe std db call)
    (hmove : Move std k db call w) : ReviewCovered db w := by
  intro m' hm' hrev id' c' hl
  cases hmove with
  | idle => exact h m' hm' hrev id' c' hl
  | drafted created fresh state =>
    cases hm'
    rcases hrev with hs | hs <;> rw [state] at hs <;> cases hs
  | @submitted id c m submitted row state latest =>
    cases hm'
    obtain ⟨-, ctx, m₁, v, rfl, hm₁, hv, rfl, hvalid⟩ := submitted
    obtain rfl : m = m₁ := Option.some.inj (row.symm.trans hm₁)
    refine (covered_congr (m := m) (by rw [bumped_tenantId]) (by rw [bumped_schemaSnapshotId])).2 ?_
    obtain rfl := latest.unique hl
    have hc : c' = core v := by
      have hmem := mem_versionsOf.1 (latestVersionFor_ok hv).1
      have hfind : db.versions.find? v.id = some v := Table.find?_key hmem.1
      have := hl.1
      simp only [View.setRow, view, hfind, Option.map_some, Option.filter_eq_some_iff] at this
      exact (Option.some.inj this.1).symm
    rw [hc]
    exact hsafe m v hm₁ state hv hvalid
  | @approved id c m approved row state latest =>
    cases hm'
    refine (covered_congr (m := m) (by rw [bumped_tenantId]) (by rw [bumped_schemaSnapshotId])).2 ?_
    exact h m row (.inl state) id' c' hl
  | revised | activated | deprecated | rejected =>
    cases hm'
    rcases hrev with hs | hs <;> rw [bumped_state] at hs <;> cases hs
  | @suspended ctx snapshot m suspension row state =>
    cases hm'
    have hstate : (Mappings.suspended m).state = .ACTIVE := (bumped_state _ _).trans state
    rcases hrev with hs | hs <;> rw [hstate] at hs <;> cases hs

/-- A pending snapshot covers nothing and uncovers nothing. -/
theorem covered_started {ctx : TenantContext} {connectionId snapshotId : Uuid}
    {snapshots : Table SchemaSnapshot} {db' : ControlPlane} (hdb : db'.snapshots = snapshots)
    (hins : db.snapshots.insert? (pending db ctx connectionId snapshotId) = some snapshots)
    {m : SchemaMapping} (hconn : connectionOf db' m = connectionOf db m) {document : MappingDocument}
    (h : Covered db m document) : Covered db' m document := by
  rintro s ⟨hs, ht, hc, hcomp, hlatest⟩
  rw [hdb] at hs hlatest
  have hold : s ∈ db.snapshots := by
    rcases (Table.mem_insert? hins).1 hs with hs | rfl
    · exact hs
    · cases hcomp
  exact h s ⟨hold, ht, hconn ▸ hc, hcomp, fun s' hs' =>
    hlatest s' ((Table.mem_insert? hins).2 (.inl hs'))⟩

/-- The snapshots of a database in which a discovery has finished. -/
theorem mem_discovered {ctx : TenantContext} {snapshotId : Uuid} {snapshot : SchemaSnapshot}
    {result : SchemaIntrospectionResult} {profiles : Option (List Canonical.Json)}
    (hs : require SchemaSnapshot db snapshotId ctx = .ok snapshot) {s : SchemaSnapshot} :
    s ∈ (setSnapshot db (discovered std db ctx snapshot result profiles)).snapshots ↔
      s = discovered std db ctx snapshot result profiles ∨ s ∈ db.snapshots ∧ s.id ≠ snapshotId := by
  have hfind (k : Uuid) : (setSnapshot db (discovered std db ctx snapshot result profiles)).snapshots.find? k =
      if k = snapshotId then some (discovered std db ctx snapshot result profiles)
      else db.snapshots.find? k := find?_discovered hs k
  have hid : (discovered std db ctx snapshot result profiles).id = snapshotId :=
    (Table.find?_eq_some.1 (require_ok.1 hs).1).2
  constructor
  · intro hmem
    have hf := Table.find?_key hmem
    rw [hfind] at hf
    split at hf
    · exact .inl (Option.some.inj hf).symm
    · rename_i hne
      exact .inr ⟨(Table.find?_eq_some.1 hf).1, hne⟩
  · rintro (rfl | ⟨hmem, hne⟩)
    · exact (Table.find?_eq_some.1 ((hfind snapshotId).trans (if_pos rfl))).1
    · exact (Table.find?_eq_some.1 ((hfind s.id).trans ((if_neg hne).trans (Table.find?_key hmem)))).1

/-- A discovery that finds all a document refers to, or is not the latest of the connection, keeps
the document covered. -/
theorem covered_finished {ctx : TenantContext} {snapshotId : Uuid} {snapshot : SchemaSnapshot}
    {result : SchemaIntrospectionResult} {profiles : Option (List Canonical.Json)} {db' : ControlPlane}
    (hdb : db'.snapshots = (setSnapshot db (discovered std db ctx snapshot result profiles)).snapshots)
    (hs : require SchemaSnapshot db snapshotId ctx = .ok snapshot)
    {m : SchemaMapping} (hconn : connectionOf db' m = connectionOf db m) {document : MappingDocument}
    (h : Covered db m document)
    (hfound : (∀ s ∈ db.snapshots, s.tenantId = ctx.tenantId →
        s.connectionId = snapshot.connectionId → s.status = .COMPLETED →
        s.sequenceNumber ≤ snapshot.sequenceNumber) →
      m.tenantId = ctx.tenantId → connectionOf db m = some snapshot.connectionId →
      Covers result document) : Covered db' m document := by
  obtain ⟨hf, hten⟩ := require_ok.1 hs
  obtain ⟨hmem, hid⟩ := Table.find?_eq_some.1 hf
  have hnew : discovered std db ctx snapshot result profiles ∈ db'.snapshots := by
    rw [hdb]
    exact (mem_discovered hs).2 (.inl rfl)
  have hkept : ∀ s ∈ db.snapshots, s.id ≠ snapshotId → s ∈ db'.snapshots := by
    intro s hs' hne
    rw [hdb]
    exact (mem_discovered hs).2 (.inr ⟨hs', hne⟩)
  rintro s ⟨hs', ht, hc, hcomp, hlatest⟩
  rw [hconn] at hc
  -- a snapshot of this connection that was there before is not later than a current one
  have hbefore : s.connectionId = snapshot.connectionId → s.tenantId = ctx.tenantId →
      s.sequenceNumber ≤ snapshot.sequenceNumber → ∀ s₁ ∈ db.snapshots, s₁.tenantId = ctx.tenantId →
      s₁.connectionId = snapshot.connectionId → s₁.status = .COMPLETED →
      s₁.sequenceNumber ≤ snapshot.sequenceNumber := by
    intro hsc hst hle s₁ h₁ ht₁ hc₁ hcomp₁
    by_cases he : s₁.id = snapshotId
    · have : s₁ = snapshot := Table.eq_of_key_eq h₁ hmem (he.trans hid.symm)
      rw [this]
    · exact (hlatest s₁ (hkept s₁ h₁ he) (ht₁.trans hst.symm) (hc₁.trans hsc.symm) hcomp₁).trans hle
  rw [hdb, mem_discovered hs] at hs'
  rcases hs' with rfl | ⟨hold, hne⟩
  · refine ⟨result, rfl, hfound ?_ (ht.symm.trans hten) hc⟩
    exact hbefore rfl hten le_rfl
  · refine h s ⟨hold, ht, hc, hcomp, fun s₁ h₁ ht₁ hc₁ hcomp₁ => ?_⟩
    by_cases he : s₁.id = snapshotId
    · have : s₁ = snapshot := Table.eq_of_key_eq h₁ hmem (he.trans hid.symm)
      subst this
      have := hlatest _ hnew ht₁ hc₁ rfl
      exact this
    · exact hlatest s₁ (hkept s₁ h₁ he) ht₁ hc₁ hcomp₁

/-! ## Steps and runs -/

theorem reviewCovered_step (hr : Reachable std db) (h : ReviewCovered db (view db k))
    (hsafe : Safe std db call) : ReviewCovered (step std db call) (view (step std db call) k) := by
  have hafter := (step_move (wf_of_reachable hr k)).reviewCovered h hsafe
  intro m hm hrev id c hl
  have hcov := hafter m hm hrev id c hl
  have hconn : connectionOf (step std db call) m = connectionOf db m := by
    obtain ⟨s, hs⟩ := (step_move (wf_of_reachable hr k)).reference
      (fun m hm => reference_of_reachable hr (Table.find?_eq_some.1 hm).1) m hm
    exact connectionOf_step hs
  have hsnap := step_snapshots std db call
  generalize hdb : (step std db call).snapshots = snapshots at hsnap
  cases hsnap with
  | idle =>
    intro s hs
    refine hcov s ⟨?_, hs.tenant, hconn ▸ hs.connection, hs.completed, ?_⟩
    · exact hdb ▸ hs.stored
    · exact hdb ▸ hs.latest
  | started start reference inserted => exact covered_started hdb inserted hconn hcov
  | @finished ctx env snapshotId profiling snapshot result profiles job required introspected =>
    subst job
    refine covered_finished hdb required hconn hcov fun hlatest ht hc => ?_
    -- the job changes no mapping and no version
    rcases step_cases std db (.runDiscoveryJob ctx env snapshotId profiling) with hok | ⟨-, hstep⟩
    · obtain ⟨_, _, _, log, -, -, hstep⟩ := job_ok hok
      rw [hstep] at hm hl
      have hrow : db.mappings.find? k = some m := hm
      obtain ⟨hmem, hid⟩ := Table.find?_eq_some.1 hrow
      have hid : m.id = k := hid
      subst hid
      exact hsafe snapshot result required introspected hlatest m hmem ht hc hrev id c hl
    · rw [hstep] at hm hl
      have hrow : db.mappings.find? k = some m := hm
      obtain ⟨hmem, hid⟩ := Table.find?_eq_some.1 hrow
      have hid : m.id = k := hid
      subst hid
      exact hsafe snapshot result required introspected hlatest m hmem ht hc hrev id c hl

/-- Under the promise of the mappings under review, an activation is of a covered document. -/
theorem ReviewCovered.activates (hr : Reachable std db)
    (h : ∀ k, ReviewCovered db (view db k)) : ActivatesCovered std db call := by
  rintro k id ⟨hok, ctx, m₁, v₁, rfl, hm₁, hv₁, rfl⟩ m hm v hv
  obtain rfl : m₁ = m := Option.some.inj (hm₁.symm.trans hm)
  obtain ⟨_, hok⟩ := discard_ok.1 hok
  obtain ⟨m₂, v₂, -, hreq, hstate, hv₂, -, -⟩ := activate_ok hok
  obtain ⟨hf, ht, -, -⟩ := require_row hreq
  obtain rfl : m₁ = m₂ := Option.some.inj (hm.symm.trans hf)
  obtain rfl : v₁ = v₂ := Except.ok.inj (hv₁.symm.trans hv₂)
  have hmem := mem_versionsOf.1 (latestVersionFor_ok hv₁).1
  obtain rfl : v₁ = v := Option.some.inj ((Table.find?_key hmem.1).symm.trans hv)
  exact h k m₁ hm (.inr hstate) _ _ (latest_view (wf_of_reachable hr k) hm ht hv₁)

theorem activatesCovered_run (hr : Reachable std db) (h : ∀ k, ReviewCovered db (view db k))
    {calls : List Call} (hsafe : Meets (step std) (Safe std) db calls) :
    Meets (step std) (ActivatesCovered std) db calls := by
  induction calls generalizing db with
  | nil => trivial
  | cons call calls ih =>
    exact ⟨ReviewCovered.activates hr h,
      ih hr.step (fun k => reviewCovered_step hr (h k) hsafe.1) hsafe.2⟩

/-- In every run of safe calls, each activation is of a document that the latest completed snapshot
of its connection covers. -/
theorem activations_covered (std : Stdlib) (db₀ : ControlPlane) (h₀ : Initial db₀)
    (calls : List Call) (hsafe : Meets (step std) (Safe std) db₀ calls) :
    Meets (step std) (ActivatesCovered std) db₀ calls := by
  refine activatesCovered_run h₀.reachable (fun k m hm => ?_) hsafe
  simp only [view, Table.find?, h₀.1] at hm
  cases hm

/-- The sample's mapping is submitted while the only snapshot covers its document. -/
theorem activations_covered_sample :
    Meets (step Sample.std) (ActivatesCovered Sample.std) Sample.db Sample.activation := by
  refine activations_covered Sample.std Sample.db Sample.initial_db Sample.activation
    ⟨trivial, ?_, trivial, trivial, trivial⟩
  intro m v hm _ hv _ s hs
  have hsnap : (step Sample.std Sample.db (.createDraft Sample.ctx 20 Sample.document "1" false none
      none 30 40)).snapshots.rows.all (fun s => s.metadataDocument.map (·.result)
        = some { schemas := ["fleet"], tables := [Sample.vehicles] }) = true := by decide +kernel
  have hcov : (step Sample.std Sample.db (.createDraft Sample.ctx 20 Sample.document "1" false none
      none 30 40)).versions.rows.all (fun v => Covers { schemas := ["fleet"], tables :=
        [Sample.vehicles] } v.mappingDocument) = true := by decide +kernel
  have hvm := (mem_versionsOf.1 (latestVersionFor_ok hv).1).1
  refine ⟨_, ?_, of_decide_eq_true (List.all_eq_true.1 hcov v hvm)⟩
  have := of_decide_eq_true (List.all_eq_true.1 hsnap s hs.stored)
  obtain ⟨doc, hdoc, hde⟩ := Option.map_eq_some_iff.1 this
  rw [SchemaSnapshot.introspection, hdoc]
  exact congrArg Except.ok hde

/-- Every discovery that completes is followed by the suspension by its snapshot. -/
def Suspends (std : Stdlib) : ControlPlane → List Call → Prop
  | _, [] => True
  | db, call :: calls =>
    (match call with
      | .runDiscoveryJob ctx env snapshotId profiling =>
        Succeeds std db (.runDiscoveryJob ctx env snapshotId profiling) → ∃ s calls',
          (step std db (.runDiscoveryJob ctx env snapshotId profiling)).snapshots.find? snapshotId
            = some s ∧ calls = .suspendAffectedByDrift ctx s :: calls'
      | _ => True) ∧ Suspends std (step std db call) calls

/-- The discovery drops the column `plate` between the approval and the activation of a document
that reads it. The suspension that follows skips the mapping, which is not active yet. -/
theorem uncovered_activation :
    ¬∀ (std : Stdlib) (db₀ : ControlPlane), Initial db₀ → ∀ calls : List Call,
      Suspends std db₀ calls → Meets (step std) (ActivatesCovered std) db₀ calls := by
  intro h
  have hstored : (run (step Sample.std) Sample.db Sample.reviewThenDiscovery).snapshots.find? 21
      = some Sample.stored := by
    have hsome : ((run (step Sample.std) Sample.db
      Sample.reviewThenDiscovery).snapshots.find? 21).isSome = true := by decide +kernel
    obtain ⟨s, hs⟩ := Option.isSome_iff_exists.1 hsome
    rw [Sample.stored, hs]
    rfl
  have hsus : Suspends Sample.std Sample.db (Sample.reviewThenDiscovery ++
      [.suspendAffectedByDrift Sample.ctx Sample.stored] ++ [.activate Sample.ctx 30]) := by
    simp only [Sample.reviewThenDiscovery, Sample.discovery, Sample.discoveryJob, List.cons_append,
      List.nil_append, Suspends, true_and, and_true]
    exact fun _ => ⟨_, _, hstored, rfl⟩
  have key := meets_append.1 (h Sample.std Sample.db Sample.initial_db (Sample.reviewThenDiscovery ++
      [.suspendAffectedByDrift Sample.ctx Sample.stored] ++ [.activate Sample.ctx 30])
      hsus)
  have hact : (perform Sample.std (.activate Sample.ctx 30) (run (step Sample.std) Sample.db
      (Sample.reviewThenDiscovery ++ [.suspendAffectedByDrift Sample.ctx Sample.stored]))).toBool
      = true := by decide +kernel
  have hsnap : ((run (step Sample.std) Sample.db (Sample.reviewThenDiscovery ++
      [.suspendAffectedByDrift Sample.ctx Sample.stored])).snapshots.find? 21).map
      (fun s => (s.tenantId, s.connectionId, s.status, s.sequenceNumber,
        s.metadataDocument.map (·.result)))
      = some (1, 10, .COMPLETED, 2, some Sample.driftedSchema) := by decide +kernel
  have hconn : ((run (step Sample.std) Sample.db (Sample.reviewThenDiscovery ++
      [.suspendAffectedByDrift Sample.ctx Sample.stored])).snapshots.find? 20).map (·.connectionId)
      = some 10 := by decide +kernel
  have hseq : (run (step Sample.std) Sample.db (Sample.reviewThenDiscovery ++
      [.suspendAffectedByDrift Sample.ctx Sample.stored])).snapshots.rows.all
      (·.sequenceNumber ≤ 2) = true := by decide +kernel
  have hmap : (run (step Sample.std) Sample.db (Sample.reviewThenDiscovery ++
      [.suspendAffectedByDrift Sample.ctx Sample.stored])).mappings.rows.all
      (fun m => m.tenantId = 1 ∧ m.schemaSnapshotId = 20) = true := by decide +kernel
  have hplate : (run (step Sample.std) Sample.db (Sample.reviewThenDiscovery ++
      [.suspendAffectedByDrift Sample.ctx Sample.stored])).versions.rows.all
      (fun v => "plate" ∈ sourceColumns v.mappingDocument) = true := by decide +kernel
  replace key := key.2.1
  generalize run (step Sample.std) Sample.db (Sample.reviewThenDiscovery ++
    [.suspendAffectedByDrift Sample.ctx Sample.stored]) = db
    at hact hsnap hconn hseq hmap hplate key
  have hok : Succeeds Sample.std db (.activate Sample.ctx 30) := succeeds_of_toBool hact
  obtain ⟨_, hok'⟩ := discard_ok.1 hok
  obtain ⟨m, v, -, hreq, -, hv, -, -⟩ := activate_ok hok'
  obtain ⟨hf, -, -, -⟩ := require_row hreq
  have hvm := (mem_versionsOf.1 (latestVersionFor_ok hv).1).1
  have hm := of_decide_eq_true (List.all_eq_true.1 hmap m (Table.find?_eq_some.1 hf).1)
  obtain ⟨s, hs, hse⟩ := Option.map_eq_some_iff.1 hsnap
  simp only [Prod.mk.injEq] at hse
  obtain ⟨hst, hsc, hscomp, hsseq, hsdoc⟩ := hse
  have hcurrent : IsCurrent db m s := by
    refine ⟨(Table.find?_eq_some.1 hs).1, hst.trans hm.1.symm, ?_, hscomp, fun s' hs' _ _ _ => ?_⟩
    · rw [connectionOf, hm.2, hconn, hsc]
    · rw [hsseq]
      exact of_decide_eq_true (List.all_eq_true.1 hseq s' hs')
  obtain ⟨result, hres, hcov⟩ := key 30 v.id ⟨hok, Sample.ctx, m, v, rfl, hf, hv, rfl⟩ m hf v
    (Table.find?_key hvm) s hcurrent
  have hresult : result = Sample.driftedSchema := by
    obtain ⟨doc, hdoc, hde⟩ := Option.map_eq_some_iff.1 hsdoc
    rw [SchemaSnapshot.introspection, hdoc] at hres
    exact (Except.ok.inj hres).symm.trans hde
  obtain ⟨table, ht, -, hcols⟩ := hcov _ List.mem_cons_self
  have hlacks : ∀ t ∈ Sample.driftedSchema.tables, "plate" ∉ t.columns.map (·.name) := by decide
  exact hlacks table (hresult ▸ ht) (hcols "plate"
    (of_decide_eq_true (List.all_eq_true.1 hplate v hvm)))

end Lifecycle

end HermesRpt
