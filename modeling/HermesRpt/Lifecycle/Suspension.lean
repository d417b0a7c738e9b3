import HermesRpt.Lifecycle.Drift

/-!
# HermesRpt.Lifecycle.Suspension

Which mappings `suspend_affected_by_drift` suspends: the active ones of the tenant whose source
table an event names. A table name does not say of which connection it is, and the loop does not
ask.

* `AffectedHere`      : an affected mapping of the snapshot's own connection.
* `SuspendsExactly`   : these are suspended and nothing else changes.
-/

namespace HermesRpt

namespace Lifecycle

open Keyed (Table)
open Transaction Machine
open Connectors Schemas Mappings

/-- An active mapping of the tenant, of the snapshot's connection, whose active version reads a
table that an event names. -/
def AffectedHere (db : ControlPlane) (ctx : TenantContext) (snapshot : SchemaSnapshot)
    (m : SchemaMapping) : Prop :=
  m.tenantId = ctx.tenantId ∧ connectionOf db m = some snapshot.connectionId ∧
    isAffected db ctx snapshot m

/-- The affected mappings of the connection are suspended; the others, and all versions, are as they
were. -/
structure SuspendsExactly (db : ControlPlane) (ctx : TenantContext) (snapshot : SchemaSnapshot)
    (db' : ControlPlane) : Prop where
  hit : ∀ m ∈ db.mappings, AffectedHere db ctx snapshot m →
    db'.mappings.find? m.id = some (suspended m)
  spared : ∀ m ∈ db.mappings, ¬AffectedHere db ctx snapshot m →
    db'.mappings.find? m.id = some m
  absent : ∀ k, db.mappings.find? k = none → db'.mappings.find? k = none
  versions : db'.versions = db.versions

section

variable {std : Stdlib} {db : ControlPlane} {ctx : TenantContext} {snapshot : SchemaSnapshot}

theorem suspended_eq_self {m : SchemaMapping} :
    suspended m = m ↔ m.suspendedDueToDrift = true := by
  constructor
  · intro h
    rw [← h, suspended, bumped_suspendedDueToDrift]
  · intro h
    rw [suspended, bumped, if_pos]
    rw [← h]

/-- One pass of the loop does not raise when the active version is there. -/
theorem suspendIfAffected_succeeds {m : SchemaMapping} {s : ControlPlane}
    (hrow : s.mappings.find? m.id = some m)
    (hversion : m.state = .ACTIVE → ∃ v, require MappingVersion s v.id ctx = .ok v ∧
      m.activeVersionId = some v.id) :
    ∃ r, suspendIfAffected ctx snapshot m s = .ok r := by
  unfold suspendIfAffected
  cases hactive : m.activeVersionId with
  | none => exact ⟨_, pure_ok.2 rfl⟩
  | some activeVersionId =>
    by_cases hstate : m.state = .ACTIVE
    · obtain ⟨v, hv, ha⟩ := hversion hstate
      rw [hactive] at ha
      cases ha
      dsimp only
      rw [if_neg (not_not.2 hstate)]
      refine read_bind_succeeds hv ?_
      by_cases haffected : v.mappingDocument.source.qualifiedName ∈ snapshot.affectedTables
      · rw [if_pos haffected]
        exact ⟨_, unit_bind_ok.2 ⟨_, (flushMapping_ok hrow).2 rfl, unit_bind_ok.2 ⟨_,
          record_ok.2 rfl, pure_ok.2 rfl⟩⟩⟩
      · rw [if_neg haffected]
        exact ⟨_, pure_ok.2 rfl⟩
    · dsimp only
      rw [if_pos hstate]
      exact ⟨_, pure_ok.2 rfl⟩

/-- The call does not raise: every active version is stored. -/
theorem suspendAffectedByDrift_succeeds (hr : Reachable std db) (ctx : TenantContext)
    (snapshot : SchemaSnapshot) : Succeeds std db (.suspendAffectedByDrift ctx snapshot) := by
  have hpass : ∀ m rest s, Suspending db ctx snapshot (m :: rest) s →
      ∃ r, suspendIfAffected ctx snapshot m s = .ok r ∧ Suspending db ctx snapshot rest r.2 := by
    intro m rest s hI
    obtain ⟨hm, ht⟩ := hI.owned m List.mem_cons_self
    obtain ⟨r, hs⟩ : ∃ r, suspendIfAffected ctx snapshot m s = .ok r := by
      refine suspendIfAffected_succeeds hI.row fun hstate => ?_
      obtain ⟨v, hv, ha, htenant, -, -⟩ := active_version_stored hr hm hstate
      obtain ⟨mappings, log, rfl⟩ := hI.elsewhere
      exact ⟨v, require_ok.2 ⟨Table.find?_key hv, htenant.trans ht⟩, ha⟩
    exact ⟨r, hs, hI.step hs⟩
  obtain ⟨⟨as, db'⟩, hrun⟩ : ∃ r, suspendAffectedByDrift ctx snapshot db = .ok r := by
    unfold suspendAffectedByDrift
    by_cases hnone : snapshot.affectedTables = []
    · rw [if_pos hnone]
      exact ⟨_, pure_ok.2 rfl⟩
    · rw [if_neg hnone]
      exact read_bind_succeeds rfl (gather_succeeds hpass (Suspending.start db ctx snapshot))
  have hdiscard : perform std (.suspendAffectedByDrift ctx snapshot) db = .ok ((), db') :=
    discard_ok.2 ⟨as, hrun⟩
  rw [Succeeds, step, after_ok hdiscard, hdiscard]

end

/-- In every reachable state the call succeeds, and it suspends exactly the affected mappings of the
snapshot's connection if and only if each other affected mapping of the tenant, of a connection with
an equally named table, is suspended already. -/
theorem suspension_exact_iff (std : Stdlib) (db : ControlPlane) (hr : Reachable std db)
    (ctx : TenantContext) (snapshot : SchemaSnapshot) :
    Succeeds std db (.suspendAffectedByDrift ctx snapshot) ∧
      (SuspendsExactly db ctx snapshot (step std db (.suspendAffectedByDrift ctx snapshot)) ↔
        ∀ m ∈ db.mappings, m.tenantId = ctx.tenantId → isAffected db ctx snapshot m →
          connectionOf db m ≠ some snapshot.connectionId → m.suspendedDueToDrift = true) := by
  have hok := suspendAffectedByDrift_succeeds hr ctx snapshot
  refine ⟨hok, ?_⟩
  obtain ⟨as, h⟩ := discard_ok.1 hok
  obtain ⟨mappings, log, hstep, hrows, habsent⟩ := suspendAffectedByDrift_ok h
  constructor
  · intro hexact m hm ht haffected hother
    have hspared := hexact.spared m hm fun hhere => hother hhere.2.1
    rw [hstep] at hspared
    rcases hrows m hm with ⟨-, hnot⟩ | ⟨hrow, -, -⟩
    · exact absurd ⟨ht, haffected⟩ hnot
    · have hsame : suspended m = m := Option.some.inj (hrow.symm.trans hspared)
      exact suspended_eq_self.1 hsame
  · intro hall
    rw [hstep]
    refine ⟨fun m hm hhere => ?_, fun m hm hnot => ?_, habsent, rfl⟩
    · rcases hrows m hm with ⟨-, hno⟩ | ⟨hrow, -, -⟩
      · exact absurd ⟨hhere.1, hhere.2.2⟩ hno
      · exact hrow
    · rcases hrows m hm with ⟨hrow, -⟩ | ⟨hrow, ht, haffected⟩
      · exact hrow
      · have hother : connectionOf db m ≠ some snapshot.connectionId := fun hc =>
          hnot ⟨ht, hc, haffected⟩
        exact hrow.trans (congrArg some (suspended_eq_self.2 (hall m hm ht haffected hother)))

namespace Sample

open HermesRpt.Sample (std ctx)

/-- Another connection of the tenant, to a database with an equally named table. -/
def depot : CustomerDatabaseConnection := { HermesRpt.Sample.connection with id := 12, name := "depot" }

/-- Its second snapshot, with drift events. -/
def depotDrift : SchemaSnapshot := { HermesRpt.Sample.drifted with id := 22, connectionId := 12 }

def twoFleets : ControlPlane :=
  { HermesRpt.Sample.db with
    connections := ⟨[HermesRpt.Sample.connection, depot], by decide⟩
    snapshots := ⟨[HermesRpt.Sample.snapshot, depotDrift], by decide⟩ }

/-- The mapping of the first connection is active. -/
def activeFleet : ControlPlane := run (step std) twoFleets HermesRpt.Sample.activation

theorem reachable_activeFleet : Reachable std activeFleet :=
  ⟨twoFleets, HermesRpt.Sample.activation, ⟨rfl, rfl⟩, rfl⟩

end Sample

theorem suspension_exact_iff_sample :
    Succeeds HermesRpt.Sample.std Sample.activeFleet
        (.suspendAffectedByDrift HermesRpt.Sample.ctx Sample.depotDrift) ∧
      (SuspendsExactly Sample.activeFleet HermesRpt.Sample.ctx Sample.depotDrift
          (step HermesRpt.Sample.std Sample.activeFleet
            (.suspendAffectedByDrift HermesRpt.Sample.ctx Sample.depotDrift)) ↔
        ∀ m ∈ Sample.activeFleet.mappings, m.tenantId = HermesRpt.Sample.ctx.tenantId →
          isAffected Sample.activeFleet HermesRpt.Sample.ctx Sample.depotDrift m →
          connectionOf Sample.activeFleet m ≠ some Sample.depotDrift.connectionId →
            m.suspendedDueToDrift = true) :=
  suspension_exact_iff _ _ Sample.reachable_activeFleet _ _

/-- A drift of the other connection suspends the mapping of the first. -/
theorem other_connection_suspended :
    ¬∀ (std : Stdlib) (db : ControlPlane), Reachable std db → ∀ (ctx : TenantContext),
      ∀ snapshot ∈ db.snapshots, snapshot.tenantId = ctx.tenantId → snapshot.status = .COMPLETED →
        SuspendsExactly db ctx snapshot (step std db (.suspendAffectedByDrift ctx snapshot)) := by
  intro h
  have hsnapshots : Sample.activeFleet.snapshots = Sample.twoFleets.snapshots := rfl
  have hexact := h HermesRpt.Sample.std Sample.activeFleet Sample.reachable_activeFleet
    HermesRpt.Sample.ctx Sample.depotDrift
    (hsnapshots ▸ List.mem_cons_of_mem _ List.mem_cons_self) rfl rfl
  have hm : (Sample.activeFleet.mappings.find? 30).map (fun m =>
      (m.suspendedDueToDrift, (connectionOf Sample.activeFleet m))) = some (false, some 10) := by
    decide +kernel
  have hm' : ((step HermesRpt.Sample.std Sample.activeFleet (.suspendAffectedByDrift
      HermesRpt.Sample.ctx Sample.depotDrift)).mappings.find? 30).map (·.suspendedDueToDrift) =
        some true := by decide +kernel
  obtain ⟨m, hfind, hme⟩ := Option.map_eq_some_iff.1 hm
  simp only [Prod.mk.injEq] at hme
  obtain ⟨hmem, hid⟩ := Table.find?_eq_some.1 hfind
  have hother : ¬AffectedHere Sample.activeFleet HermesRpt.Sample.ctx Sample.depotDrift m := by
    rintro ⟨-, hc, -⟩
    rw [hme.2] at hc
    cases hc
  have hspared := hexact.spared m hmem hother
  have hid : m.id = 30 := hid
  rw [hid] at hspared
  rw [hspared, Option.map_some, hme.1] at hm'
  cases hm'

end Lifecycle

end HermesRpt
