import HermesRpt.Lifecycle.Interleaving
import HermesRpt.Lifecycle.Review

/-!
# HermesRpt.Lifecycle.Concurrency

Which version becomes active when the transactions on a mapping interleave. The version counter of
the mapping's row stops a transaction only when another one has changed that row; a new version of a
mapping in `DRAFT` does not change it.

* `Undisturbed` : no version slips in between a validation and its commit, or into a mapping that
  has left `DRAFT`.
* `Inv`         : what holds of the stored mapping and of every open transaction.
* `active_version_validated` : under the condition, an active version has passed the validation.
-/

namespace HermesRpt

namespace Lifecycle

open Keyed (Table)
open Transaction Machine
open Schemas Mappings

/-- A submission of version `id` with this document is committed; the document was valid when the
transaction read it. -/
def Validated (std : Stdlib) (k id : Uuid) (document : MappingDocument) (w : World) (a : Action) :
    Prop :=
  ∃ tid ctx mapping version db',
    a = .commit tid ∧ w.flights tid = some ⟨ctx, .submitForValidation, mapping, some version⟩ ∧
    version.schemaMappingId = k ∧ version.id = id ∧ version.mappingDocument = document ∧
    (∃ db, validateVersion std db mapping version ctx = .ok ()) ∧
    writes ctx mapping .submitForValidation version w.db = .ok ((), db')

/-- What the commit of a method must still find. The version counter does not check it: a submitted
version is still the latest one, and a mapping that gets a version without an `UPDATE` is still in
`DRAFT`. -/
def Method.finds (k : Uuid) (db : ControlPlane) (ctx : TenantContext) (mapping : SchemaMapping) :
    (method : Method) → method.Seen → Prop
  | .submitForValidation, version => ∀ row, db.mappings.find? k = some row →
    row.version = mapping.version → ∀ id c, (view db k).Latest id c → id = version.id
  | .createNewVersion document isAiSuggested confidence explanation versionId, number =>
    mapping.state = .DRAFT →
    Stored.admits db (newVersion ctx mapping document isAiSuggested confidence explanation versionId
      number) = true →
    db.versions.find? versionId = none → ∀ row, db.mappings.find? k = some row → row.state = .DRAFT
  | _, _ => True

/-- The action is not a commit that comes too late. -/
def Undisturbed (k : Uuid) (w : World) : Action → Prop
  | .commit tid => ∀ ctx method mapping seen,
    w.flights tid = some ⟨ctx, method, mapping, some seen⟩ → method.finds k w.db ctx mapping seen
  | _ => True

/-! ## The invariant -/

section Invariant

variable (std : Stdlib) (k : Uuid) (Passed : Uuid → VersionCore → Prop)

/-- While a mapping is under review its latest version has passed; when it is active, its active
version has. -/
def RowOk (w : View) : Prop :=
  ∀ m, w.row = some m → match m.state with
    | .PENDING_VALIDATION | .APPROVED => ∀ id c, w.Latest id c → Passed id c
    | .ACTIVE => ∃ id c, m.activeVersionId = some id ∧ w.versions id = some c ∧ Passed id c
    | _ => True

/-- What is true of what a transaction saw: a submitted version was valid, and a version to be
activated has passed, unless the mapping has changed since. -/
def SeenOk (db : ControlPlane) (ctx : TenantContext) (mapping : SchemaMapping) :
    (method : Method) → method.Seen → Prop
  | .submitForValidation, version => (view db k).versions version.id = some (core version) ∧
    ∃ db, validateVersion std db mapping version ctx = .ok ()
  | .activate, version => (view db k).versions version.id = some (core version) ∧
    ∀ row, db.mappings.find? k = some row → row.version = mapping.version →
      Passed version.id (core version)
  | _, _ => True

/-- A transaction has read the mapping's row as it was at some time: the stored row is this one, or
it has a higher version. -/
structure FlightOk (db : ControlPlane) (f : Flight) : Prop where
  id : f.mapping.id = k
  tenant : f.mapping.tenantId = f.ctx.tenantId
  accepts : f.method.accepts f.mapping.state = .ok ()
  row : ∃ row, db.mappings.find? k = some row ∧ row.tenantId = f.mapping.tenantId ∧
    (row = f.mapping ∨ f.mapping.version < row.version)
  seen : ∀ seen, f.seen = some seen → SeenOk std k Passed db f.ctx f.mapping f.method seen

structure Inv (w : World) : Prop where
  wf : (view w.db k).WF
  row : RowOk Passed (view w.db k)
  flights : ∀ tid f, w.flights tid = some f → FlightOk std k Passed w.db f

end Invariant

variable {std : Stdlib} {k : Uuid} {Passed Passed' : Uuid → VersionCore → Prop}
  {db db' : ControlPlane} {ctx : TenantContext} {mapping : SchemaMapping} {w : World}

theorem RowOk.mono {v : View} (h : RowOk Passed v) (hP : ∀ id c, Passed id c → Passed' id c) :
    RowOk Passed' v := by
  intro m hm
  have := h m hm
  cases hs : m.state <;> rw [hs] at this <;> dsimp only at this ⊢
  case PENDING_VALIDATION | APPROVED => exact fun id c hl => hP id c (this id c hl)
  case ACTIVE =>
    obtain ⟨id, c, ha, hc, hp⟩ := this
    exact ⟨id, c, ha, hc, hP id c hp⟩

/-- An open transaction stays as it should when the mapping's row is left alone or gets a higher
version, and versions are only added. -/
theorem FlightOk.mono {f : Flight} (h : FlightOk std k Passed db f)
    (hrow : ∀ row, db.mappings.find? k = some row → ∃ row', db'.mappings.find? k = some row' ∧
      row'.tenantId = row.tenantId ∧ (row' = row ∨ row.version < row'.version))
    (hversions : ∀ id c, (view db k).versions id = some c → (view db' k).versions id = some c)
    (hP : ∀ id c, Passed id c → Passed' id c) : FlightOk std k Passed' db' f := by
  obtain ⟨row, hf, ht, hv⟩ := h.row
  obtain ⟨row', hf', ht', hv'⟩ := hrow row hf
  refine ⟨h.id, h.tenant, h.accepts, ⟨row', hf', ht'.trans ht, ?_⟩, fun seen hseen => ?_⟩
  · rcases hv' with rfl | hlt
    · exact hv
    · rcases hv with rfl | hlt'
      · exact .inr hlt
      · exact .inr (hlt'.trans hlt)
  · have hs := h.seen seen hseen
    obtain ⟨ctx, method, mapping, seen'⟩ := f
    cases method with
    | submitForValidation => exact ⟨hversions _ _ hs.1, hs.2⟩
    | activate =>
      refine ⟨hversions _ _ hs.1, fun row₁ hf₁ hver => hP _ _ ?_⟩
      rw [hf'] at hf₁; cases hf₁
      refine hs.2 row hf ?_
      -- a row with a higher version than the one the transaction read excludes the commit
      rcases hv' with rfl | hlt
      · exact hver
      · dsimp only at hv hver
        rcases hv with rfl | hlt' <;> omega
    | createNewVersion => trivial
    | approve => trivial

/-- The same database; only what has passed grows. -/
theorem FlightOk.mono_passed {f : Flight} (h : FlightOk std k Passed db f)
    (hP : ∀ id c, Passed id c → Passed' id c) : FlightOk std k Passed' db f :=
  h.mono (fun row hrow => ⟨row, hrow, rfl, .inl rfl⟩) (fun _ _ hc => hc) hP

/-! ## Reads -/

/-- The state in which each method found the mapping. -/
theorem accepts_state {method : Method} {state : MappingState} (h : method.accepts state = .ok ()) :
    match method with
    | .createNewVersion .. => True
    | .submitForValidation => state = .DRAFT
    | .approve => state = .PENDING_VALIDATION
    | .activate => state = .APPROVED := by
  cases method with
  | createNewVersion => trivial
  | submitForValidation | approve | activate =>
    simp only [Method.accepts] at h
    split at h
    · cases h
    · rename_i hs
      exact not_not.1 hs

theorem readMapping_ok {method : Method} (h : readMapping ctx k method db = .ok mapping) :
    require SchemaMapping db k ctx = .ok mapping ∧ method.accepts mapping.state = .ok () := by
  unfold readMapping at h
  cases hm : require SchemaMapping db k ctx with
  | error e => rw [hm] at h; cases h
  | ok m =>
    rw [hm] at h
    simp only [bind, Except.bind] at h
    cases ha : method.accepts m.state with
    | error e => rw [ha] at h; cases h
    | ok u => rw [ha] at h; cases h; exact ⟨rfl, ha⟩

/-- A transaction that has just read the mapping. -/
theorem flightOk_begin {method : Method} (h : readMapping ctx k method db = .ok mapping) :
    FlightOk std k Passed db ⟨ctx, method, mapping, none⟩ := by
  obtain ⟨hreq, ha⟩ := readMapping_ok h
  obtain ⟨hf, ht, hid, -⟩ := require_row hreq
  exact ⟨hid, ht, ha, ⟨mapping, hf, rfl, .inl rfl⟩, fun seen hs => nomatch hs⟩

/-- The stored version a transaction found latest. -/
theorem latestVersionFor_stored {v : MappingVersion} (hid : mapping.id = k)
    (h : latestVersionFor db mapping ctx = .ok v) :
    (view db k).versions v.id = some (core v) ∧ v.schemaMappingId = k := by
  obtain ⟨hmem, -, hvk⟩ := mem_versionsOf.1 (latestVersionFor_ok h).1
  have hfind : db.versions.find? v.id = some v := Table.find?_key hmem
  refine ⟨?_, hvk.trans hid⟩
  simp [view, hfind, core, hvk, hid]

/-- What a transaction sees of the versions is as it should be. -/
theorem seenOk_look {method : Method} {seen : method.Seen} (hinv : Inv std k Passed w)
    (hf : FlightOk std k Passed w.db ⟨ctx, method, mapping, none⟩)
    (h : readVersions std ctx mapping method w.db = .ok seen) :
    SeenOk std k Passed w.db ctx mapping method seen := by
  cases method with
  | createNewVersion => trivial
  | approve => trivial
  | submitForValidation =>
    simp only [readVersions] at h
    cases hv : latestVersionFor w.db mapping ctx with
    | error e => rw [hv] at h; cases h
    | ok v =>
      rw [hv] at h
      simp only [bind, Except.bind] at h
      cases hc : validateVersion std w.db mapping v ctx with
      | error e => rw [hc] at h; cases h
      | ok u =>
        rw [hc] at h; cases h
        exact ⟨(latestVersionFor_stored hf.id hv).1, w.db, hc⟩
  | activate =>
    refine ⟨(latestVersionFor_stored hf.id h).1, fun row hrow hver => ?_⟩
    obtain ⟨row', hrow', ht, hv⟩ := hf.row
    obtain rfl : row = row' := Option.some.inj (hrow.symm.trans hrow')
    rcases hv with rfl | hlt
    · -- the row is still the approved one, so its latest version has passed
      have hstate : row.state = .APPROVED := accepts_state hf.accepts
      have hpassed := hinv.row row hrow
      rw [hstate] at hpassed
      exact hpassed _ _ (latest_view hinv.wf hrow hf.tenant h)
    · dsimp only at hlt
      omega

/-! ## Commits -/

/-- What the commit of a method does to the versions of the mapping. -/
inductive Stores (k : Uuid) (db : ControlPlane) (ctx : TenantContext) (mapping : SchemaMapping) :
    (method : Method) → method.Seen → View → Prop
  | none {method : Method} {seen : method.Seen}
      (other : ∀ d a c e i, method ≠ .createNewVersion d a c e i) :
      Stores k db ctx mapping method seen (view db k)
  | version {document : MappingDocument} {ai : Bool} {confidence : Option ℚ}
      {explanation : Option String} {versionId : Uuid} {number : Nat}
      (admitted : Stored.admits db
        (newVersion ctx mapping document ai confidence explanation versionId number) = true)
      (unused : db.versions.find? versionId = none) :
      Stores k db ctx mapping (.createNewVersion document ai confidence explanation versionId) number
        ((view db k).addVersion versionId
          (core (newVersion ctx mapping document ai confidence explanation versionId number)))

theorem recordMethod_ok {method : Method} {seen : method.Seen} {u : Unit}
    (h : recordMethod ctx mapping method seen db = .ok (u, db')) :
    ∃ log, db' = { db with audit := log } := by
  cases method <;> exact ⟨_, record_ok.1 h⟩

theorem writesVersion_ok {method : Method} {seen : method.Seen} {u : Unit} (hid : mapping.id = k)
    (h : writesVersion ctx mapping method seen db = .ok (u, db')) :
    db'.mappings = db.mappings ∧ Stores k db ctx mapping method seen (view db' k) := by
  cases method with
  | createNewVersion document ai confidence explanation versionId =>
    obtain ⟨-, ha, versions, hins, rfl⟩ := add_ok.1 h
    refine ⟨rfl, ?_⟩
    have hview : view { db with versions } k = if k = (newVersion ctx mapping document ai confidence
        explanation versionId seen).schemaMappingId then _ else _ := view_insertVersion hins
    have hrw := hview.trans (if_pos hid.symm)
    exact hrw ▸ .version ha (Table.insert?_eq_some.1 hins).1
  | approve =>
    obtain ⟨-, rfl⟩ := flushApproval_ok.1 h
    exact ⟨rfl, (view_setApproval seen.id ctx.principalId).symm ▸ .none (by simp)⟩
  | submitForValidation =>
    cases pure_ok.1 h
    exact ⟨rfl, .none (by simp)⟩
  | activate =>
    cases pure_ok.1 h
    exact ⟨rfl, .none (by simp)⟩

/-- After its version is stored (`v`), a commit writes the mapping's row unless nothing of it changes;
the stored row then still has the version that was read. -/
def WritesRow (k : Uuid) (db : ControlPlane) (mapping row' : SchemaMapping) (v v' : View) : Prop :=
  row' = mapping ∧ v' = v ∨
    row' ≠ mapping ∧ (∃ row, db.mappings.find? k = some row ∧ row.version = mapping.version) ∧
      v' = v.setRow (bumped mapping row')

theorem writes_ok {method : Method} {seen : method.Seen} {u : Unit} (hid : mapping.id = k)
    (h : writes ctx mapping method seen db = .ok (u, db')) :
    ∃ v, Stores k db ctx mapping method seen v ∧
      WritesRow k db mapping (written mapping method seen) v (view db' k) := by
  obtain ⟨db₁, h₁, h⟩ := unit_bind_ok.1 h
  obtain ⟨db₂, h₂, h₃⟩ := unit_bind_ok.1 h
  obtain ⟨hmap, hstores⟩ := writesVersion_ok hid h₁
  obtain ⟨log, rfl⟩ := recordMethod_ok h₃
  refine ⟨view db₁ k, hstores, ?_⟩
  rcases flushMapping_cases.1 h₂ with ⟨hsame, rfl⟩ | ⟨hne, row, hrow, hver, rfl⟩
  · exact .inl ⟨hsame, rfl⟩
  · have hwid : (written mapping method seen).id = mapping.id := by cases method <;> rfl
    have hb : (bumped mapping (written mapping method seen)).id = mapping.id := bumped_id _ _ hwid
    refine .inr ⟨hne, ⟨row, ?_, hver⟩, ?_⟩
    · rw [← hid, ← hmap]
      exact hrow
    · have hv := view_setMapping (k := k) (hb.symm ▸ hrow)
      exact hv.trans (if_pos (hid.symm.trans hb.symm))

theorem written_tenantId (mapping : SchemaMapping) (method : Method) (seen : method.Seen) :
    (written mapping method seen).tenantId = mapping.tenantId := by
  cases method <;> rfl

theorem Stores.row {method : Method} {seen : method.Seen} {v : View}
    (h : Stores k db ctx mapping method seen v) : v.row = (view db k).row := by
  cases h <;> rfl

/-- A stored version has an id of its own. -/
theorem Stores.keeps {method : Method} {seen : method.Seen} {v : View}
    (h : Stores k db ctx mapping method seen v) {id : Uuid} {c : VersionCore}
    (hc : (view db k).versions id = some c) : v.versions id = some c := by
  cases h with
  | none => exact hc
  | version admitted unused =>
    refine (View.addVersion_of_ne ?_).trans hc
    rintro rfl
    simp only [view, unused] at hc
    cases hc

/-- A stored version has a number of its own, and the tenant of the mapping. -/
theorem Stores.wf {method : Method} {seen : method.Seen} {v : View} (hid : mapping.id = k)
    (h : Stores k db ctx mapping method seen v) (wf : (view db k).WF) {row : SchemaMapping}
    (hrow : (view db k).row = some row) (ht : row.tenantId = ctx.tenantId) : v.WF := by
  cases h with
  | none => exact wf
  | @version document ai confidence explanation versionId number admitted unused =>
    refine wf.addVersion hrow ht fun id c hc hnum => ?_
    obtain ⟨row', hrow', ht'⟩ := wf.owned id c hc
    obtain rfl : row = row' := Option.some.inj (hrow.symm.trans hrow')
    simp only [view, Option.filter_eq_some_iff, Option.map_eq_some_iff, decide_eq_true_eq] at hc
    obtain ⟨⟨r, hr, rfl⟩, hrk⟩ := hc
    simp only [Stored.admits, Bool.and_eq_true, List.all_eq_true, Bool.not_eq_true',
      decide_eq_false_iff_not] at admitted
    exact admitted.2 r (Table.find?_eq_some.1 hr).1
      ⟨ht'.symm.trans ht, hrk.trans hid.symm, hnum⟩

theorem WritesRow.versions {row' : SchemaMapping} {v v' : View}
    (h : WritesRow k db mapping row' v v') : v'.versions = v.versions := by
  rcases h with ⟨-, rfl⟩ | ⟨-, -, rfl⟩ <;> rfl

theorem Stores.wf_commit {method : Method} {seen : method.Seen} {v : View}
    (h : Stores k db ctx mapping method seen v)
    (hf : FlightOk std k Passed db ⟨ctx, method, mapping, some seen⟩) (wf : (view db k).WF)
    (hwritten : WritesRow k db mapping (written mapping method seen) v (view db' k)) :
    (view db' k).WF := by
  obtain ⟨row, hrow, ht, -⟩ := hf.row
  have hv := h.wf hf.id wf hrow (ht.trans hf.tenant)
  rcases hwritten with ⟨-, hw⟩ | ⟨-, -, hw⟩
  · rw [hw]; exact hv
  · rw [hw]
    refine hv.setRow (h.row.trans hrow) ?_
    rw [bumped_tenantId, written_tenantId, ht]

/-- The row after a commit: the one before, or one with a higher version. -/
theorem commit_row {method : Method} {seen : method.Seen} {v : View}
    (hf : FlightOk std k Passed db ⟨ctx, method, mapping, some seen⟩)
    (hstores : Stores k db ctx mapping method seen v)
    (hwritten : WritesRow k db mapping (written mapping method seen) v (view db' k)) :
    ∀ row, db.mappings.find? k = some row → ∃ row', db'.mappings.find? k = some row' ∧
      row'.tenantId = row.tenantId ∧ (row' = row ∨ row.version < row'.version) := by
  intro row hrow
  have hview : db'.mappings.find? k = (view db' k).row := rfl
  rcases hwritten with ⟨-, hv⟩ | ⟨hne, ⟨row₁, hrow₁, hver⟩, hv⟩
  · rw [hview, hv, hstores.row]
    exact ⟨row, hrow, rfl, .inl rfl⟩
  · obtain rfl : row = row₁ := Option.some.inj (hrow.symm.trans hrow₁)
    obtain ⟨row₂, hrow₂, ht, -⟩ := hf.row
    obtain rfl : row = row₂ := Option.some.inj (hrow.symm.trans hrow₂)
    rw [hview, hv]
    refine ⟨_, rfl, ?_, .inr ?_⟩
    · rw [bumped_tenantId, written_tenantId, ht]
    · rw [bumped_version hne, hver]
      omega

/-- The mapping that a commit changes is the one its transaction read. -/
theorem FlightOk.row_eq {f : Flight} (h : FlightOk std k Passed db f) {row : SchemaMapping}
    (hrow : db.mappings.find? k = some row) (hver : row.version = f.mapping.version) :
    row = f.mapping := by
  obtain ⟨row', hrow', -, hv⟩ := h.row
  obtain rfl : row = row' := Option.some.inj (hrow.symm.trans hrow')
  exact hv.resolve_right (by omega)

/-- A commit that comes in time keeps what holds of the stored mapping. -/
theorem rowOk_commit {method : Method} {seen : method.Seen} {v : View} (hinv : Inv std k Passed w)
    (hf : FlightOk std k Passed w.db ⟨ctx, method, mapping, some seen⟩)
    (hfinds : method.finds k w.db ctx mapping seen)
    (hstores : Stores k w.db ctx mapping method seen v)
    (hwritten : WritesRow k w.db mapping (written mapping method seen) v (view db' k))
    (hP : ∀ id c, Passed id c → Passed' id c)
    (hV : ∀ version : MappingVersion, (⟨method, seen⟩ : Σ m : Method, m.Seen)
      = ⟨.submitForValidation, version⟩ → Passed' version.id (core version)) :
    RowOk Passed' (view db' k) := by
  have hseen := hf.seen seen rfl
  intro m hm
  cases hstores with
  | @version document ai confidence explanation versionId number admitted unused =>
    -- after a new version the mapping is in `DRAFT`
    have hstate : m.state = .DRAFT := by
      rcases hwritten with ⟨hsame, hv⟩ | ⟨-, -, hv⟩
      · have hdraft : mapping.state = .DRAFT := (congrArg SchemaMapping.state hsame).symm
        rw [hv] at hm
        exact hfinds hdraft admitted unused m hm
      · rw [hv] at hm
        cases hm
        exact bumped_state _ _
    rw [hstate]
    trivial
  | none other =>
    cases method with
    | createNewVersion d a c e i => exact absurd rfl (other d a c e i)
    | submitForValidation =>
      have hdraft : mapping.state = .DRAFT := accepts_state hf.accepts
      rcases hwritten with ⟨hsame, -⟩ | ⟨-, ⟨row, hrow, hver⟩, hv⟩
      · have := congrArg SchemaMapping.state hsame
        rw [hdraft] at this
        cases this
      · rw [hv] at hm
        cases hm
        rw [bumped_state]
        intro id c hl
        rw [hv] at hl
        obtain rfl := hfinds row hrow hver id c hl
        obtain rfl : core seen = c := Option.some.inj (hseen.1.symm.trans hl.1)
        exact hV seen rfl
    | approve =>
      have hpending : mapping.state = .PENDING_VALIDATION := accepts_state hf.accepts
      rcases hwritten with ⟨hsame, -⟩ | ⟨-, ⟨row, hrow, hver⟩, hv⟩
      · have := congrArg SchemaMapping.state hsame
        rw [hpending] at this
        cases this
      · obtain rfl : row = mapping := hf.row_eq hrow hver
        have hrowOk := hinv.row row hrow
        rw [hpending] at hrowOk
        rw [hv] at hm
        cases hm
        rw [bumped_state]
        intro id c hl
        rw [hv] at hl
        exact hP id c (hrowOk id c hl)
    | activate =>
      have happroved : mapping.state = .APPROVED := accepts_state hf.accepts
      rcases hwritten with ⟨hsame, -⟩ | ⟨-, ⟨row, hrow, hver⟩, hv⟩
      · have := congrArg SchemaMapping.state hsame
        rw [happroved] at this
        cases this
      · rw [hv] at hm ⊢
        cases hm
        rw [bumped_state]
        exact ⟨seen.id, core seen, bumped_activeVersionId _ _, hseen.1,
          hP _ _ (hseen.2 row hrow hver)⟩

/-! ## Steps and runs -/

/-- Every action of the machine keeps the invariant, unless it is a commit that comes too late. -/
theorem inv_step {a : Action} (h : Inv std k Passed w) (hok : Undisturbed k w a)
    (hP : ∀ id c, Passed id c → Passed' id c)
    (hV : ∀ id c, Validated std k id c.mappingDocument w a → Passed' id c) :
    Inv std k Passed' (interleave std k w a) := by
  have idle : Inv std k Passed' w :=
    ⟨h.wf, h.row.mono hP, fun tid f hf => (h.flights tid f hf).mono_passed hP⟩
  have set : ∀ tid f, (∀ f', f = some f' → FlightOk std k Passed' w.db f') →
      Inv std k Passed' (w.setFlight tid f) := by
    intro tid f hf
    refine ⟨h.wf, h.row.mono hP, fun tid' f' hf' => ?_⟩
    simp only [World.setFlight, Function.update_apply] at hf'
    split at hf'
    · exact hf f' hf'
    · exact (h.flights tid' f' hf').mono_passed hP
  cases a with
  | begin tid ctx method =>
    simp only [interleave]
    split
    · rename_i mapping _ hread
      refine set tid _ fun f' hf' => ?_
      cases hf'
      exact flightOk_begin hread
    · exact idle
  | look tid =>
    simp only [interleave]
    split
    · rename_i ctx method mapping hf
      have hflight := h.flights tid _ hf
      split
      · rename_i seen hread
        refine set tid _ fun f' hf' => ?_
        cases hf'
        have hflight' := hflight.mono_passed hP
        refine ⟨hflight'.id, hflight'.tenant, hflight'.accepts, hflight'.row, fun seen' hs => ?_⟩
        cases hs
        exact seenOk_look idle hflight' hread
      · exact set tid none fun f' hf' => by cases hf'
    · exact idle
  | commit tid =>
    simp only [interleave]
    split
    · rename_i ctx method mapping seen hf
      have hflight := h.flights tid _ hf
      rcases after_cases (writes ctx mapping method seen) w.db with ⟨⟨⟩, hcommit⟩ | ⟨-, hrolled⟩
      · generalize after (writes ctx mapping method seen) w.db = db' at hcommit ⊢
        obtain ⟨v, hstores, hwritten⟩ := writes_ok hflight.id hcommit
        have hvalidated : ∀ version : MappingVersion, (⟨method, seen⟩ : Σ m : Method, m.Seen)
            = ⟨.submitForValidation, version⟩ → Passed' version.id (core version) := by
          intro version he
          cases he
          have hseen := hflight.seen version rfl
          have hstored := hseen.1
          simp only [view, Option.filter_eq_some_iff, decide_eq_true_eq] at hstored
          exact hV _ _ ⟨tid, ctx, mapping, version, db', rfl, hf, hstored.2, rfl, rfl, hseen.2, hcommit⟩
        refine ⟨hstores.wf_commit hflight h.wf hwritten,
          rowOk_commit h hflight (hok _ _ _ _ hf) hstores hwritten hP hvalidated, fun tid' f' hf' => ?_⟩
        simp only [World.setFlight, Function.update_apply] at hf'
        split at hf'
        · cases hf'
        · exact (h.flights tid' f' hf').mono (commit_row hflight hstores hwritten)
            (fun id c hc => hwritten.versions ▸ hstores.keeps hc) hP
      · rw [hrolled]
        exact set tid none fun f' hf' => by cases hf'
    · exact idle

/-- The version was submitted by a call before the transactions began, or by one of them. -/
def HasPassed (std : Stdlib) (db₀ : ControlPlane) (calls : List Call) (k : Uuid)
    (actions : List Action) (id : Uuid) (c : VersionCore) : Prop :=
  Saw (step std) db₀ calls [Submitted std k id] ∨
  Saw (interleave std k) (.quiet (run (step std) db₀ calls)) actions
    [Validated std k id c.mappingDocument]

/-- The calls before the transactions have brought the mapping where it is. -/
theorem inv_start {db₀ : ControlPlane} (h₀ : Initial db₀) (calls : List Call) :
    Inv std k (HasPassed std db₀ calls k []) (.quiet (run (step std) db₀ calls)) := by
  have hr : Reachable std (run (step std) db₀ calls) := h₀.reachable.run calls
  refine ⟨wf_of_reachable hr k, fun m hm => ?_, fun tid f hf => nomatch hf⟩
  have hreviewed : Reviewed std False db₀ k calls (view (run (step std) db₀ calls) k) :=
    reviewed_of_initial h₀ k calls
  have := hreviewed m hm
  cases hs : m.state <;> rw [hs] at this <;> dsimp only at this ⊢
  case PENDING_VALIDATION =>
    obtain ⟨id', c', hl', hsaw⟩ := this
    intro id c hl
    obtain rfl := hl'.unique hl
    exact .inl hsaw.tail
  case APPROVED =>
    obtain ⟨id', c', hl', hsaw⟩ := this
    intro id c hl
    obtain rfl := hl'.unique hl
    have htail : Saw (step std) db₀ calls ([Submitted std k id'] ++ [Approved std k id']) := hsaw.tail
    exact .inl htail.init
  case ACTIVE =>
    obtain ⟨id, c, hl, ha, hsaw⟩ := this.resolve_right fun h => h.1.elim
    have htail : Saw (step std) db₀ calls
        ([Submitted std k id] ++ [Approved std k id, Activated std k id]) := hsaw.tail
    exact ⟨id, c, ha, hl.1, .inl htail.init⟩

/-- The run lemma of `inv_step`. -/
theorem inv_run {db₀ : ControlPlane} (h₀ : Initial db₀) (calls : List Call) {actions : List Action}
    (hok : Meets (interleave std k) (Undisturbed k) (.quiet (run (step std) db₀ calls)) actions) :
    Inv std k (HasPassed std db₀ calls k actions)
      (run (interleave std k) (.quiet (run (step std) db₀ calls)) actions) := by
  refine run_history (fun actions w => Meets (interleave std k) (Undisturbed k)
    (.quiet (run (step std) db₀ calls)) actions → Inv std k (HasPassed std db₀ calls k actions) w)
    (fun _ => inv_start h₀ calls) ?_ actions hok
  intro actions a ih hmeets
  obtain ⟨hmeets, hlast⟩ := meets_append.1 hmeets
  refine inv_step (ih hmeets) hlast.1 (fun id c hp => ?_) fun id c hv => ?_
  · exact hp.imp_right fun hsaw => hsaw.append [a]
  · exact .inr ((saw_nil _ actions).snoc hv)

/-- When no version slips in between a validation and its commit or into a mapping that has left
`DRAFT`, then in every interleaving the active version of an active mapping has passed the
validation with the document it has. -/
theorem active_version_validated (std : Stdlib) (db₀ : ControlPlane) (h₀ : Initial db₀)
    (calls : List Call) (k : Uuid) (actions : List Action)
    (hok : Meets (interleave std k) (Undisturbed k) (.quiet (run (step std) db₀ calls)) actions)
    (m : SchemaMapping)
    (hm : (run (interleave std k) (.quiet (run (step std) db₀ calls)) actions).db.mappings.find? k
      = some m) (hs : m.state = .ACTIVE) :
    ∃ v ∈ (run (interleave std k) (.quiet (run (step std) db₀ calls)) actions).db.versions,
      m.activeVersionId = some v.id ∧ v.schemaMappingId = k ∧
      (Saw (step std) db₀ calls [Submitted std k v.id] ∨
        Saw (interleave std k) (.quiet (run (step std) db₀ calls)) actions
          [Validated std k v.id v.mappingDocument]) := by
  have := (inv_run h₀ calls hok).row m hm
  rw [hs] at this
  obtain ⟨id, c, ha, hc, hp⟩ := this
  simp only [view, Option.filter_eq_some_iff, Option.map_eq_some_iff, decide_eq_true_eq] at hc
  obtain ⟨⟨v, hv, rfl⟩, hk⟩ := hc
  obtain ⟨hvm, hid⟩ := Table.find?_eq_some.1 hv
  have hid : v.id = id := hid
  subst hid
  exact ⟨v, hvm, ha, hk, hp⟩

/-- The version whose submission the action commits. -/
def submission (w : World) : Action → List Uuid
  | .commit tid =>
    match w.flights tid with
    | some ⟨_, .submitForValidation, _, some version⟩ => [version.id]
    | _ => []
  | _ => []

/-- The versions whose submissions are committed in a run. -/
def submissions (std : Stdlib) (k : Uuid) (w : World) : List Action → List Uuid
  | [] => []
  | a :: actions => submission w a ++ submissions std k (interleave std k w a) actions

theorem mem_submissions {w : World} {actions : List Action} {id : Uuid} {document : MappingDocument}
    (h : Saw (interleave std k) w actions [Validated std k id document]) :
    id ∈ submissions std k w actions := by
  induction actions generalizing w with
  | nil => exact h.elim
  | cons a actions ih =>
    rw [submissions, List.mem_append]
    rcases h with ⟨⟨tid, ctx, mapping, version, db', rfl, hf, -, rfl, -⟩, -⟩ | h
    · refine .inl ?_
      rw [submission, hf]
      exact List.mem_singleton_self _
    · exact .inr (ih h)

/-- The submission of the first version is overtaken by a second version, which is then approved and
activated and was never validated. -/
theorem unvalidated_activation :
    ¬∀ (std : Stdlib) (db₀ : ControlPlane), Initial db₀ → ∀ (calls : List Call) (k : Uuid)
      (actions : List Action) (m : SchemaMapping),
      (run (interleave std k) (.quiet (run (step std) db₀ calls)) actions).db.mappings.find? k
        = some m → m.state = .ACTIVE →
      ∃ v ∈ (run (interleave std k) (.quiet (run (step std) db₀ calls)) actions).db.versions,
        m.activeVersionId = some v.id ∧ v.schemaMappingId = k ∧
        (Saw (step std) db₀ calls [Submitted std k v.id] ∨
          Saw (interleave std k) (.quiet (run (step std) db₀ calls)) actions
            [Validated std k v.id v.mappingDocument]) := by
  intro h
  have hm : ((run (interleave Sample.std 30) (.quiet (run (step Sample.std) Sample.db Sample.draft))
      Sample.overtaken).db.mappings.find? 30).map (fun m => (m.state, m.activeVersionId))
      = some (.ACTIVE, some 41) := by decide +kernel
  have hno : 41 ∉ submissions Sample.std 30 (.quiet (run (step Sample.std) Sample.db Sample.draft))
      Sample.overtaken := by decide +kernel
  obtain ⟨m, hm, he⟩ := Option.map_eq_some_iff.1 hm
  simp only [Prod.mk.injEq] at he
  obtain ⟨v, -, ha, -, hp⟩ := h _ _ Sample.initial_db _ 30 _ m hm he.1
  have hv : 41 = v.id := Option.some.inj (he.2.symm.trans ha)
  rw [← hv] at hp
  rcases hp with ((⟨⟨-, ctx, m, v, hcall, -⟩, -⟩ | hp) | hp)
  · cases hcall
  · exact hp.elim
  · exact hno (mem_submissions hp)

/-- An activation as a transaction, after the calls of a review. -/
theorem active_version_validated_sample :
    ∃ (m : SchemaMapping) (v : MappingVersion), (run (interleave Sample.std 30) (.quiet (run (step Sample.std) Sample.db Sample.reviewed))
        (Sample.alone 0 .activate)).db.mappings.find? 30 = some m ∧ m.activeVersionId = some v.id ∧
      (Saw (step Sample.std) Sample.db Sample.reviewed [Submitted Sample.std 30 v.id] ∨
        Saw (interleave Sample.std 30) (.quiet (run (step Sample.std) Sample.db Sample.reviewed))
          (Sample.alone 0 .activate) [Validated Sample.std 30 v.id v.mappingDocument]) := by
  have hm : ((run (interleave Sample.std 30) (.quiet (run (step Sample.std) Sample.db
      Sample.reviewed)) (Sample.alone 0 .activate)).db.mappings.find? 30).map (·.state)
      = some .ACTIVE := by decide +kernel
  have hmethod : ((run (interleave Sample.std 30) (.quiet (run (step Sample.std) Sample.db
      Sample.reviewed)) [.begin 0 Sample.ctx .activate, .look 0]).flights 0).all
      (fun f => match f.method with | .activate => true | _ => false) = true := by decide +kernel
  have hok : Meets (interleave Sample.std 30) (Undisturbed 30) (.quiet (run (step Sample.std)
      Sample.db Sample.reviewed)) (Sample.alone 0 .activate) := by
    refine ⟨trivial, trivial, fun ctx method mapping seen hf => ?_, trivial⟩
    rw [run_cons, run_cons, run_nil, hf] at hmethod
    cases method with
    | approve | activate => trivial
    | createNewVersion | submitForValidation => cases hmethod
  obtain ⟨m, hm, hs⟩ := Option.map_eq_some_iff.1 hm
  obtain ⟨v, -, ha, -, hp⟩ := active_version_validated Sample.std Sample.db Sample.initial_db
    Sample.reviewed 30 (Sample.alone 0 .activate) hok m hm hs
  exact ⟨m, v, hm, ha, hp⟩

end Lifecycle

end HermesRpt
