import HermesRpt.Lifecycle.Snapshots

/-!
# HermesRpt.Lifecycle.References

Who owns the rows that snapshots and mappings refer to. `start_discovery` and `create_draft` store
the id they are given; the foreign key checks that the row exists, nobody checks its tenant.

* `Consistent`    : every snapshot's connection and every mapping's snapshot is its own tenant's.
* `Misreferences` : a call stores the id of another tenant's row.
* `consistent_iff` : a run stays consistent exactly when none of its calls does so.
-/

namespace HermesRpt

namespace Lifecycle

open Keyed (Table)
open Transaction Machine
open Connectors Schemas Mappings

/-- Every reference is to a row of the same tenant. -/
def Consistent (db : ControlPlane) : Prop :=
  (∀ s ∈ db.snapshots, ∃ c, db.connections.find? s.connectionId = some c ∧ c.tenantId = s.tenantId) ∧
  ∀ m ∈ db.mappings, ∃ s, db.snapshots.find? m.schemaSnapshotId = some s ∧ s.tenantId = m.tenantId

/-- Some reference is to a row of another tenant. -/
def CrossTenant (db : ControlPlane) : Prop :=
  (∃ s ∈ db.snapshots, ∃ c, db.connections.find? s.connectionId = some c ∧
    c.tenantId ≠ s.tenantId) ∨
  ∃ m ∈ db.mappings, ∃ s, db.snapshots.find? m.schemaSnapshotId = some s ∧ s.tenantId ≠ m.tenantId

/-- The calls that create snapshots and mappings. -/
def Creates : Call → Prop
  | .startDiscovery .. | .createDraft .. => True
  | _ => False

/-- The call names a row of another tenant, and everything the code and the database check of the
call is in order: the ids it draws are unused, and the creator of a version is a known user. -/
def Misreferences (db : ControlPlane) : Call → Prop
  | .startDiscovery ctx connectionId snapshotId =>
    (∃ c, db.connections.find? connectionId = some c ∧ c.tenantId ≠ ctx.tenantId) ∧
    db.snapshots.find? snapshotId = none
  | .createDraft ctx schemaSnapshotId _ _ _ _ _ mappingId versionId =>
    (∃ s, db.snapshots.find? schemaSnapshotId = some s ∧ s.tenantId ≠ ctx.tenantId) ∧
    db.mappings.find? mappingId = none ∧ db.versions.find? versionId = none ∧
    ctx.principalId ∈ db.users ∧
    ∀ v ∈ db.versions, ¬(v.tenantId = ctx.tenantId ∧ v.schemaMappingId = mappingId ∧
      v.versionNumber = 1)
  | _ => False

variable {std : Stdlib} {db db' : ControlPlane} {call : Call} {ctx : TenantContext}

theorem CrossTenant.not_consistent (h : CrossTenant db) : ¬Consistent db := by
  rintro ⟨hs, hm⟩
  rcases h with ⟨s, hmem, c, hc, hne⟩ | ⟨m, hmem, s, hf, hne⟩
  · obtain ⟨c', hc', ht⟩ := hs s hmem
    rw [hc] at hc'; cases hc'
    exact hne ht
  · obtain ⟨s', hf', ht⟩ := hm m hmem
    rw [hf] at hf'; cases hf'
    exact hne ht

/-! ## The two calls -/

theorem lt_nextSequenceNumber {connectionId : Uuid} {s : SchemaSnapshot}
    (h : s ∈ snapshotsOf db connectionId ctx) :
    s.sequenceNumber < nextSequenceNumber db connectionId ctx :=
  Nat.lt_succ_of_le (List.le_max_of_le (List.mem_map_of_mem (f := (·.sequenceNumber)) h) le_rfl)

/-- A discovery starts whenever the connection exists and the id is new. -/
theorem startDiscovery_succeeds {connectionId snapshotId : Uuid} {c : CustomerDatabaseConnection}
    (hc : db.connections.find? connectionId = some c) (hnew : db.snapshots.find? snapshotId = none) :
    Succeeds std db (.startDiscovery ctx connectionId snapshotId) := by
  obtain ⟨snapshots, hins⟩ := Table.insert?_isSome (t := db.snapshots)
    (r := pending db ctx connectionId snapshotId) hnew
  have hadmits : Stored.admits db (pending db ctx connectionId snapshotId) = true := by
    simp only [Stored.admits, Bool.and_eq_true, List.all_eq_true, Bool.not_eq_true',
      decide_eq_false_iff_not]
    refine ⟨Option.isSome_iff_exists.2 ⟨c, hc⟩, fun r hr hsame => ?_⟩
    have hlt : r.sequenceNumber < nextSequenceNumber db connectionId ctx :=
      lt_nextSequenceNumber (mem_snapshotsOf.2 ⟨hr, hsame.1, hsame.2.1⟩)
    exact hlt.ne hsame.2.2
  have hadd : add ctx (pending db ctx connectionId snapshotId) db
      = .ok ((), { db with snapshots }) := add_ok.2 ⟨rfl, hadmits, snapshots, hins, rfl⟩
  have hok : ∃ r, startDiscovery ctx connectionId snapshotId db = .ok r :=
    ⟨_, read_bind_ok.2 ⟨_, rfl, unit_bind_ok.2 ⟨_, hadd, unit_bind_ok.2 ⟨_, record_ok.2 rfl,
      pure_ok.2 rfl⟩⟩⟩⟩
  obtain ⟨⟨s, db'⟩, hok⟩ := hok
  have h : perform std (.startDiscovery ctx connectionId snapshotId) db = .ok ((), db') :=
    discard_ok.2 ⟨s, hok⟩
  rw [Succeeds, step, after_ok h, h]

/-- A draft is created whenever the snapshot exists, the ids are new and the user is known. -/
theorem createDraft_succeeds {schemaSnapshotId mappingId versionId : Uuid}
    {document : MappingDocument} {ontologyVersion : String} {ai : Bool} {confidence : Option ℚ}
    {explanation : Option String} {s : SchemaSnapshot}
    (hs : db.snapshots.find? schemaSnapshotId = some s) (hm : db.mappings.find? mappingId = none)
    (hv : db.versions.find? versionId = none) (hu : ctx.principalId ∈ db.users)
    (hnum : ∀ v ∈ db.versions, ¬(v.tenantId = ctx.tenantId ∧ v.schemaMappingId = mappingId ∧
      v.versionNumber = 1)) :
    Succeeds std db (.createDraft ctx schemaSnapshotId document ontologyVersion ai confidence
      explanation mappingId versionId) := by
  let mapping : SchemaMapping := {
    id := mappingId, tenantId := ctx.tenantId, entityName := document.entity, schemaSnapshotId,
    ontologyVersion, state := .DRAFT }
  let version : MappingVersion := {
    id := versionId, tenantId := ctx.tenantId, schemaMappingId := mapping.id, versionNumber := 1,
    mappingDocument := document, isAiSuggested := ai, confidence, explanation,
    createdByUserId := some ctx.principalId }
  obtain ⟨mappings, hmi⟩ := Table.insert?_isSome (t := db.mappings) (r := mapping) hm
  obtain ⟨versions, hvi⟩ := Table.insert?_isSome (t := db.versions) (r := version) hv
  have hadd₁ : add ctx mapping db = .ok ((), { db with mappings }) :=
    add_ok.2 ⟨rfl, Option.isSome_iff_exists.2 ⟨s, hs⟩, mappings, hmi, rfl⟩
  have hrow : mappings.find? mapping.id = some mapping :=
    (Table.find?_insert? hmi mapping.id).trans (if_pos rfl)
  have hadmits : Stored.admits { db with mappings } version = true := by
    simp only [Stored.admits, Bool.and_eq_true, List.all_eq_true, Bool.not_eq_true',
      decide_eq_false_iff_not]
    exact ⟨⟨Option.isSome_iff_exists.2 ⟨_, hrow⟩, decide_eq_true hu⟩, hnum⟩
  have hadd₂ : add ctx version { db with mappings } = .ok ((), { db with mappings, versions }) :=
    add_ok.2 ⟨rfl, hadmits, versions, hvi, rfl⟩
  have hok : ∃ r, createDraft ctx schemaSnapshotId document ontologyVersion ai confidence explanation
      mappingId versionId db = .ok r :=
    ⟨_, unit_bind_ok.2 ⟨_, hadd₁, unit_bind_ok.2 ⟨_, hadd₂, unit_bind_ok.2 ⟨_, record_ok.2 rfl,
      pure_ok.2 rfl⟩⟩⟩⟩
  obtain ⟨⟨r, db'⟩, hok⟩ := hok
  have h : perform std (.createDraft ctx schemaSnapshotId document ontologyVersion ai confidence
      explanation mappingId versionId) db = .ok ((), db') := discard_ok.2 ⟨r, hok⟩
  rw [Succeeds, step, after_ok h, h]

/-! ## Steps and runs -/

/-- A call that does not misreference keeps the references consistent. -/
theorem consistent_step (h : Consistent db) (hcall : Creates call) (hno : ¬Misreferences db call) :
    Consistent (step std db call) := by
  rcases step_cases std db call with hs | ⟨-, hstep⟩
  case inr => rw [hstep]; exact h
  unfold Succeeds at hs
  cases call with
  | startDiscovery ctx connectionId snapshotId =>
    obtain ⟨s, hs⟩ := discard_ok.1 hs
    obtain ⟨rfl, ⟨c, hc⟩, snapshots, log, hins, hstep⟩ := startDiscovery_ok hs
    have hnew : db.snapshots.find? snapshotId = none := (Table.insert?_eq_some.1 hins).1
    rw [hstep]
    refine ⟨fun s hs => ?_, fun m hm => ?_⟩
    · rcases (Table.mem_insert? hins).1 hs with hs | rfl
      · exact h.1 s hs
      · refine ⟨c, hc, ?_⟩
        by_contra hne
        exact hno ⟨⟨c, hc, hne⟩, hnew⟩
    · obtain ⟨s, hs, ht⟩ := h.2 m hm
      refine ⟨s, ?_, ht⟩
      rw [Table.find?_insert? hins, if_neg, hs]
      rintro hk
      rw [← hk] at hs
      cases hnew.symm.trans hs
  | createDraft ctx snapshotId document ontologyVersion ai confidence explanation mappingId id =>
    obtain ⟨⟨m, v⟩, hs⟩ := discard_ok.1 hs
    obtain ⟨rfl, rfl, ⟨s, hf⟩, hu, hnum, mappings, versions, log, hmi, hvi, hstep⟩ := createDraft_ok hs
    have hm : db.mappings.find? mappingId = none := (Table.insert?_eq_some.1 hmi).1
    have hv : db.versions.find? id = none := (Table.insert?_eq_some.1 hvi).1
    rw [hstep]
    refine ⟨h.1, fun m hm' => ?_⟩
    rcases (Table.mem_insert? hmi).1 hm' with hm' | rfl
    · exact h.2 m hm'
    · refine ⟨s, hf, ?_⟩
      by_contra hne
      exact hno ⟨⟨s, hf, hne⟩, hm, hv, hu, hnum⟩
  | _ => cases hcall

/-- A call that misreferences stores a reference to another tenant's row. -/
theorem crossTenant_of_misreferences (h : Misreferences db call) : CrossTenant (step std db call) := by
  cases call with
  | startDiscovery ctx connectionId snapshotId =>
    obtain ⟨⟨c, hc, hne⟩, hnew⟩ := h
    have hok : Succeeds std db (.startDiscovery ctx connectionId snapshotId) :=
      startDiscovery_succeeds hc hnew
    obtain ⟨s, hs⟩ := discard_ok.1 hok
    obtain ⟨rfl, -, snapshots, log, hins, hstep⟩ := startDiscovery_ok hs
    rw [hstep]
    exact .inl ⟨_, (Table.mem_insert? hins).2 (.inr rfl), c, hc, hne⟩
  | createDraft ctx snapshotId document ontologyVersion ai confidence explanation mappingId id =>
    obtain ⟨⟨s, hf, hne⟩, hm, hv, hu, hnum⟩ := h
    have hok : Succeeds std db (.createDraft ctx snapshotId document ontologyVersion ai confidence
      explanation mappingId id) := createDraft_succeeds hf hm hv hu hnum
    obtain ⟨⟨m, v⟩, hs⟩ := discard_ok.1 hok
    obtain ⟨rfl, rfl, -, -, -, mappings, versions, log, hmi, -, hstep⟩ := createDraft_ok hs
    rw [hstep]
    exact .inr ⟨_, (Table.mem_insert? hmi).2 (.inr rfl), s, hf, hne⟩
  | _ => cases h

/-- No later call mends a reference. -/
theorem CrossTenant.step (h : CrossTenant db) (hcall : Creates call) :
    CrossTenant (HermesRpt.step std db call) := by
  rcases step_cases std db call with hs | ⟨-, hstep⟩
  case inr => rw [hstep]; exact h
  unfold Succeeds at hs
  cases call with
  | startDiscovery ctx connectionId snapshotId =>
    obtain ⟨s, hs⟩ := discard_ok.1 hs
    obtain ⟨rfl, -, snapshots, log, hins, hstep⟩ := startDiscovery_ok hs
    have hnew : db.snapshots.find? snapshotId = none := (Table.insert?_eq_some.1 hins).1
    rw [hstep]
    rcases h with ⟨s, hmem, hc⟩ | ⟨m, hmem, s, hf, hne⟩
    · exact .inl ⟨s, (Table.mem_insert? hins).2 (.inl hmem), hc⟩
    · refine .inr ⟨m, hmem, s, ?_, hne⟩
      rw [Table.find?_insert? hins, if_neg, hf]
      rintro hk
      rw [← hk] at hf
      cases hnew.symm.trans hf
  | createDraft ctx snapshotId document ontologyVersion ai confidence explanation mappingId id =>
    obtain ⟨⟨m, v⟩, hs⟩ := discard_ok.1 hs
    obtain ⟨-, -, -, -, -, mappings, versions, log, hmi, -, hstep⟩ := createDraft_ok hs
    rw [hstep]
    refine h.imp_right ?_
    rintro ⟨m, hmem, hs⟩
    exact ⟨m, (Table.mem_insert? hmi).2 (.inl hmem), hs⟩
  | _ => cases hcall

theorem crossTenant_run (h : CrossTenant db) {calls : List Call} (hcalls : ∀ call ∈ calls, Creates call) :
    CrossTenant (run (HermesRpt.step std) db calls) := by
  induction calls generalizing db with
  | nil => exact h
  | cons call calls ih =>
    exact ih (h.step (hcalls call (by simp))) fun c hc => hcalls c (List.mem_cons_of_mem _ hc)

theorem consistent_sample : Consistent Sample.db := by
  refine ⟨fun s hs => ?_, fun m hm => ?_⟩
  · obtain rfl : s = Sample.snapshot := List.mem_singleton.1 hs
    exact ⟨Sample.connection, rfl, rfl⟩
  · exact absurd hm List.not_mem_nil

/-- A run of discoveries and drafts from a consistent state ends in a consistent state if and only if
no call of it stores the id of another tenant's row. -/
theorem consistent_iff (std : Stdlib) (db : ControlPlane) (h : Consistent db) (calls : List Call)
    (hcalls : ∀ call ∈ calls, Creates call) :
    Consistent (run (step std) db calls) ↔
      Meets (step std) (fun db call => ¬Misreferences db call) db calls := by
  induction calls generalizing db with
  | nil => exact iff_of_true h trivial
  | cons call calls ih =>
    have hrest : ∀ c ∈ calls, Creates c := fun c hc => hcalls c (List.mem_cons_of_mem _ hc)
    rw [run_cons, Meets]
    by_cases hmis : Misreferences db call
    · have hbad : CrossTenant (run (step std) (step std db call) calls) :=
        crossTenant_run (crossTenant_of_misreferences hmis) hrest
      exact iff_of_false hbad.not_consistent fun hm => hm.1 hmis
    · rw [ih _ (consistent_step h (hcalls call (by simp)) hmis) hrest]
      exact (and_iff_right hmis).symm

/-- Another tenant starts a discovery of the sample connection. -/
theorem crossTenant_discovery :
    ¬∀ (std : Stdlib) (db : ControlPlane), Consistent db → ∀ calls : List Call,
      (∀ call ∈ calls, Creates call) → Consistent (run (step std) db calls) := by
  intro h
  have key := h Sample.std Sample.db consistent_sample [Sample.foreignDiscovery]
    (by simp [Sample.foreignDiscovery, Creates])
  have hmis : Misreferences Sample.db Sample.foreignDiscovery :=
    ⟨⟨Sample.connection, rfl, by decide⟩, rfl⟩
  have hbad : CrossTenant (step Sample.std Sample.db Sample.foreignDiscovery) :=
    crossTenant_of_misreferences hmis
  exact hbad.not_consistent key

/-- A discovery of the tenant's own connection. -/
theorem consistent_iff_sample : Consistent (run (step Sample.std) Sample.db [Sample.discovery]) := by
  refine (consistent_iff Sample.std Sample.db consistent_sample [Sample.discovery]
    (by simp [Sample.discovery, Creates])).2 ⟨?_, trivial⟩
  rintro ⟨⟨c, hc, hne⟩, -⟩
  have : c = Sample.connection := (Option.some.inj hc).symm
  rw [this] at hne
  exact hne rfl

end Lifecycle

end HermesRpt
