import HermesRpt.Lifecycle.Review

/-!
# HermesRpt.Lifecycle.Uniqueness

How many mappings of an entity are active at once. The resolver looks an entity's mapping up by name
and refuses a second row; an activation looks at its own mapping only.

* `UniqueActive`      : no tenant has two active mappings of one entity.
* `ActivatesAlone`    : no other mapping of the entity is active when one is activated.
* `unique_active_iff` : the runs in which every state is unique.
* `resolver_agrees`   : where it is, the resolver and `get_production_version` agree.
-/

namespace HermesRpt

namespace Lifecycle

open Keyed (Table)
open Transaction Machine
open Schemas Mappings Features

variable {std : Stdlib} {db : ControlPlane} {k : Uuid} {ctx : TenantContext} {call : Call}

/-- Active mappings of the tenant's entity. -/
def ActiveFor (db : ControlPlane) (tenantId : Uuid) (entityName : String) (m : SchemaMapping) :
    Prop :=
  m ∈ db.mappings ∧ m.tenantId = tenantId ∧ m.entityName = entityName ∧ m.state = .ACTIVE

def UniqueActive (db : ControlPlane) : Prop :=
  ∀ tenantId entityName m₁ m₂, ActiveFor db tenantId entityName m₁ →
    ActiveFor db tenantId entityName m₂ → m₁ = m₂

/-- No other mapping of the same tenant and entity is active when an approved one is activated. -/
def ActivatesAlone (db : ControlPlane) : Call → Prop
  | .activate ctx mappingId => ∀ m, db.mappings.find? mappingId = some m →
    m.tenantId = ctx.tenantId → m.state = .APPROVED →
      ∀ m', ¬ActiveFor db m.tenantId m.entityName m'
  | _ => True

/-! ## Lookups -/

theorem mem_active {tenantId : Uuid} {entityName : String} {m : SchemaMapping} :
    m ∈ db.mappings.rows.filter (fun m =>
      m.tenantId = tenantId ∧ m.entityName = entityName ∧ m.state = .ACTIVE) ↔
      ActiveFor db tenantId entityName m := by
  rw [List.mem_filter, decide_eq_true_eq]
  rfl

/-- The lookup finds the entity's active mapping, if there is at most one. -/
theorem getActiveByEntityName_of_unique {entityName : String}
    (h : ∀ m₁ m₂, ActiveFor db ctx.tenantId entityName m₁ →
      ActiveFor db ctx.tenantId entityName m₂ → m₁ = m₂) :
    ∃ found, getActiveByEntityName db entityName ctx = .ok found ∧
      ∀ m, ActiveFor db ctx.tenantId entityName m ↔ found = some m := by
  have hmem := fun m => @mem_active db ctx.tenantId entityName m
  have hnodup : (db.mappings.rows.filter fun m => m.tenantId = ctx.tenantId ∧
      m.entityName = entityName ∧ m.state = .ACTIVE).Nodup :=
    (List.Nodup.of_map _ db.mappings.nodup_keys).filter _
  unfold getActiveByEntityName
  generalize (db.mappings.rows.filter fun m => m.tenantId = ctx.tenantId ∧
    m.entityName = entityName ∧ m.state = .ACTIVE) = active at hmem hnodup
  match active with
  | [] => exact ⟨none, rfl, fun m => by rw [← hmem m]; simp⟩
  | [a] => exact ⟨some a, rfl, fun m => by rw [← hmem m]; simp [eq_comm]⟩
  | a :: b :: rest =>
    have hne : a ≠ b := by
      rintro rfl
      simp at hnodup
    exact absurd (h a b ((hmem a).1 (by simp)) ((hmem b).1 (by simp))) hne

/-- The resolver raises only when the lookup does. -/
theorem resolve_isOk {entityName : String} {found : Option SchemaMapping}
    (h : getActiveByEntityName db entityName ctx = .ok found) :
    ∃ resolved, resolve db entityName ctx = .ok resolved := by
  unfold resolve
  rw [h]
  simp only [bind, Except.bind]
  cases found with
  | none => exact ⟨none, rfl⟩
  | some mapping =>
    dsimp only
    split
    · split
      · exact ⟨none, rfl⟩
      · exact ⟨_, rfl⟩
    · exact ⟨none, rfl⟩

theorem UniqueActive.lookups (h : UniqueActive db) (entityName : String) (ctx : TenantContext) :
    (∃ found, getActiveByEntityName db entityName ctx = .ok found) ∧
      ∃ resolved, resolve db entityName ctx = .ok resolved := by
  obtain ⟨found, hfound, -⟩ := getActiveByEntityName_of_unique (h ctx.tenantId entityName)
  exact ⟨⟨found, hfound⟩, resolve_isOk hfound⟩

/-! ## Activations -/

/-- An active mapping after a step was active before it, or the call has activated it. -/
theorem active_of_move {w : View} (hmove : Move std k db call w) {m' : SchemaMapping}
    (hrow : w.row = some m') (hactive : m'.state = .ACTIVE) :
    ∃ m, db.mappings.find? k = some m ∧ m.tenantId = m'.tenantId ∧ m.entityName = m'.entityName ∧
      (m.state = .ACTIVE ∨
        m.state = .APPROVED ∧ ∃ ctx, call = .activate ctx k ∧ m.tenantId = ctx.tenantId) := by
  cases hmove with
  | idle => exact ⟨m', hrow, rfl, rfl, .inl hactive⟩
  | drafted created fresh state =>
    cases hrow
    rw [state] at hactive
    cases hactive
  | @activated id c m activated row state latest =>
    cases hrow
    refine ⟨m, row, by rw [bumped_tenantId], by rw [bumped_entityName], .inr ⟨state, ?_⟩⟩
    obtain ⟨hs, ctx, m₁, version, rfl, hm₁, -, -⟩ := activated
    refine ⟨ctx, rfl, ?_⟩
    obtain ⟨_, hok⟩ := discard_ok.1 hs
    obtain ⟨m₂, -, -, hreq, -⟩ := activate_ok hok
    obtain ⟨hm₂, ht, -, -⟩ := require_row hreq
    obtain rfl : m₂ = m := Option.some.inj (hm₂.symm.trans row)
    exact ht
  | @suspended ctx snapshot m suspension row state =>
    cases hrow
    exact ⟨m, row, by rw [suspended, bumped_tenantId], by rw [suspended, bumped_entityName],
      .inl state⟩
  | revised | submitted | approved | deprecated | rejected =>
    cases hrow
    rw [bumped_state] at hactive
    cases hactive

theorem uniqueActive_step (hr : Reachable std db) (h : UniqueActive db)
    (halone : ActivatesAlone db call) : UniqueActive (step std db call) := by
  have before {tenantId : Uuid} {entityName : String} {m' : SchemaMapping}
      (h' : ActiveFor (step std db call) tenantId entityName m') :
      ∃ m, db.mappings.find? m'.id = some m ∧ m.tenantId = tenantId ∧ m.entityName = entityName ∧
        (m.state = .ACTIVE ∨
          m.state = .APPROVED ∧ ∃ ctx, call = .activate ctx m'.id ∧ m.tenantId = ctx.tenantId) := by
    obtain ⟨hmem, ht, he, hs⟩ := h'
    obtain ⟨m, hm, htm, hem, hcase⟩ :=
      active_of_move (step_move (wf_of_reachable hr m'.id)) (Table.find?_key hmem) hs
    exact ⟨m, hm, htm.trans ht, hem.trans he, hcase⟩
  intro tenantId entityName m₁ m₂ h₁ h₂
  obtain ⟨n₁, hn₁, ht₁, he₁, hc₁⟩ := before h₁
  obtain ⟨n₂, hn₂, ht₂, he₂, hc₂⟩ := before h₂
  have hid : m₁.id = m₂.id := by
    rcases hc₁ with ha₁ | ⟨hp₁, ctx₁, hcall₁, hctx₁⟩ <;>
      rcases hc₂ with ha₂ | ⟨hp₂, ctx₂, hcall₂, hctx₂⟩
    · have hsame : n₁ = n₂ := h tenantId entityName n₁ n₂
        ⟨(Table.find?_eq_some.1 hn₁).1, ht₁, he₁, ha₁⟩
        ⟨(Table.find?_eq_some.1 hn₂).1, ht₂, he₂, ha₂⟩
      rw [← hsame] at hn₂
      exact (Table.find?_eq_some.1 hn₁).2.symm.trans (Table.find?_eq_some.1 hn₂).2
    · rw [hcall₂] at halone
      refine absurd ?_ (halone n₂ hn₂ hctx₂ hp₂ n₁)
      exact ⟨(Table.find?_eq_some.1 hn₁).1, ht₁.trans ht₂.symm, he₁.trans he₂.symm, ha₁⟩
    · rw [hcall₁] at halone
      refine absurd ?_ (halone n₁ hn₁ hctx₁ hp₁ n₂)
      exact ⟨(Table.find?_eq_some.1 hn₂).1, ht₂.trans ht₁.symm, he₂.trans he₁.symm, ha₂⟩
    · rw [hcall₁, Call.activate.injEq] at hcall₂
      exact hcall₂.2
  exact Table.eq_of_key_eq h₁.1 h₂.1 hid

/-- The activation of an approved mapping succeeds: it has a version. -/
theorem activate_succeeds (hr : Reachable std db) {m : SchemaMapping}
    (hm : db.mappings.find? k = some m) (ht : m.tenantId = ctx.tenantId)
    (hs : m.state = .APPROVED) : Succeeds std db (.activate ctx k) := by
  have hwf := wf_of_reachable hr k
  obtain ⟨id, c, hlatest⟩ : ∃ id c, (view db k).Latest id c := by
    obtain ⟨db₀, calls, hinitial, rfl⟩ := hr
    have hreviewed : Reviewed std False db₀ k calls (view (run (step std) db₀ calls) k) :=
      reviewed_of_initial hinitial k calls
    have hlatest := hreviewed m hm
    rw [hs] at hlatest
    obtain ⟨id, c, hlatest, -⟩ := hlatest
    exact ⟨id, c, hlatest⟩
  obtain ⟨v, hv, rfl, rfl⟩ := stored_of_view hlatest.1
  have hmem := (mem_versionsOf_view hwf hm ht).2 ⟨hv, hlatest.1⟩
  have hversion : ∃ version, latestVersionFor db m ctx = .ok version := by
    unfold latestVersionFor
    cases hmax : (versionsOf db m ctx).argmax (·.versionNumber) with
    | none => rw [List.argmax_eq_none.1 hmax] at hmem; cases hmem
    | some version => exact ⟨version, rfl⟩
  obtain ⟨version, hversion⟩ := hversion
  have hreq : require SchemaMapping db k ctx = .ok m :=
    require_ok.2 ⟨hm, ht⟩
  have hok : ∃ r, Mappings.activate ctx k db = .ok r :=
    ⟨_, read_bind_ok.2 ⟨m, hreq, raiseIf_bind_ok.2 ⟨not_not.2 hs, read_bind_ok.2 ⟨version, hversion,
      unit_bind_ok.2 ⟨_, (flushMapping_ok (require_row hreq).2.2.2).2 rfl,
        unit_bind_ok.2 ⟨_, record_ok.2 rfl, pure_ok.2 rfl⟩⟩⟩⟩⟩⟩
  obtain ⟨⟨m', db'⟩, hok⟩ := hok
  have h : perform std (.activate ctx k) db = .ok ((), db') :=
    discard_ok.2 ⟨m', hok⟩
  rw [Succeeds, step, after_ok h, h]

/-- An activation beside another active mapping leaves two. -/
theorem not_uniqueActive_step (hr : Reachable std db) (hno : ¬ActivatesAlone db call) :
    ¬UniqueActive (step std db call) := by
  cases call with
  | activate ctx k =>
    simp only [ActivatesAlone, not_forall, not_not] at hno
    obtain ⟨m, hm, ht, hs, m', hother⟩ := hno
    have hok : Succeeds std db (.activate ctx k) := activate_succeeds hr hm ht hs
    obtain ⟨_, hok⟩ := discard_ok.1 hok
    obtain ⟨m₁, version, log, hreq, -, -, rfl, hstep⟩ := activate_ok hok
    obtain ⟨hm₁, -, hid, hrow⟩ := require_row hreq
    obtain rfl : m₁ = m := Option.some.inj (hm₁.symm.trans hm)
    intro hunique
    rw [hstep] at hunique
    have hb := bumped_id m₁ { m₁ with
      activeVersionId := some version.id, state := .ACTIVE, suspendedDueToDrift := false } rfl
    have hfind := fun k' => find?_setMapping db k' (hb.symm ▸ hrow)
    simp only [hb] at hfind
    have hself := (hfind m₁.id).trans (if_pos rfl)
    have hne : m'.id ≠ m₁.id := by
      intro he
      have hsame : m' = m₁ := Table.eq_of_key_eq hother.1 (Table.find?_eq_some.1 hm).1 he
      rw [hsame] at hother
      rw [hother.2.2.2] at hs
      cases hs
    have hkept := (hfind m'.id).trans ((if_neg hne).trans (Table.find?_key hother.1))
    have hsame := hunique m₁.tenantId m₁.entityName _ m'
      ⟨(Table.find?_eq_some.1 hself).1, bumped_tenantId _ _, bumped_entityName _ _,
        bumped_state _ _⟩
      ⟨(Table.find?_eq_some.1 hkept).1, hother.2⟩
    exact hne ((congrArg SchemaMapping.id hsame).symm.trans hb)
  | _ => exact absurd trivial hno

/-! ## Runs -/

theorem uniqueActive_of_initial (h : Initial db) : UniqueActive db := by
  rintro tenantId entityName m₁ m₂ ⟨hmem, -⟩
  rw [Table.mem_def, h.1] at hmem
  cases hmem

theorem unique_run (hr : Reachable std db) (h : UniqueActive db) (calls : List Call) :
    (∀ before, before <+: calls → UniqueActive (run (step std) db before)) ↔
      Meets (step std) ActivatesAlone db calls := by
  induction calls generalizing db with
  | nil =>
    refine iff_of_true (fun before hbefore => ?_) trivial
    rw [List.prefix_nil.1 hbefore]
    exact h
  | cons call calls ih =>
    constructor
    · intro hall
      have hstep : UniqueActive (step std db call) := hall [call] ⟨calls, rfl⟩
      have halone : ActivatesAlone db call := by
        by_contra hno
        exact not_uniqueActive_step hr hno hstep
      refine ⟨halone, (ih hr.step hstep).1 fun before hbefore => ?_⟩
      exact hall (call :: before) (List.prefix_cons_inj call |>.2 hbefore)
    · rintro ⟨halone, hrest⟩ before hbefore
      have hstep := uniqueActive_step hr h halone
      rcases List.prefix_cons_iff.1 hbefore with rfl | ⟨rest, rfl, hprefix⟩
      · exact h
      · exact (ih hr.step hstep).2 hrest rest hprefix

/-- No state of a run has two active mappings of one entity and tenant, so that no lookup by name
finds several rows, if and only if every activation of the run finds no other active mapping of the
entity. -/
theorem unique_active_iff (std : Stdlib) (db₀ : ControlPlane) (h₀ : Initial db₀)
    (calls : List Call) :
    (∀ before, before <+: calls → UniqueActive (run (step std) db₀ before) ∧
      ∀ entityName ctx,
        (∃ found, getActiveByEntityName (run (step std) db₀ before) entityName ctx = .ok found) ∧
        ∃ resolved, resolve (run (step std) db₀ before) entityName ctx = .ok resolved) ↔
      Meets (step std) ActivatesAlone db₀ calls := by
  rw [← unique_run h₀.reachable (uniqueActive_of_initial h₀) calls]
  constructor
  · intro h before hbefore
    exact (h before hbefore).1
  · intro h before hbefore
    exact ⟨h before hbefore, (h before hbefore).lookups⟩

namespace Sample

/-- A second mapping of the entity goes through the same review. -/
def secondActivation : List Call :=
  HermesRpt.Sample.activation ++ [
    .createDraft HermesRpt.Sample.ctx 20 HermesRpt.Sample.document "1" false none none 31 42,
    .submitForValidation HermesRpt.Sample.ctx 31, .approve HermesRpt.Sample.ctx 31,
    .activate HermesRpt.Sample.ctx 31]

end Sample

/-- Two mappings of one entity are both active, and the lookup by name raises. -/
theorem two_active_mappings :
    ¬∀ (std : Stdlib) (db₀ : ControlPlane), Initial db₀ → ∀ calls : List Call,
      UniqueActive (run (step std) db₀ calls) ∧ ∀ entityName ctx,
        (∃ found, getActiveByEntityName (run (step std) db₀ calls) entityName ctx = .ok found) ∧
        ∃ resolved, resolve (run (step std) db₀ calls) entityName ctx = .ok resolved := by
  intro h
  have hraises : (getActiveByEntityName (run (step HermesRpt.Sample.std) HermesRpt.Sample.db
      Sample.secondActivation) "Vehicle" HermesRpt.Sample.ctx).toBool = false := by decide +kernel
  obtain ⟨found, hfound⟩ := ((h _ _ HermesRpt.Sample.initial_db Sample.secondActivation).2
    "Vehicle" HermesRpt.Sample.ctx).1
  rw [hfound] at hraises
  cases hraises

/-- One mapping of the sample's entity is activated, with no other one there. -/
theorem unique_active_iff_sample :
    UniqueActive (run (step HermesRpt.Sample.std) HermesRpt.Sample.db HermesRpt.Sample.activation) :=
  by
  have hnone : (run (step HermesRpt.Sample.std) HermesRpt.Sample.db
      (HermesRpt.Sample.activation.take 3)).mappings.rows.all (·.state ≠ .ACTIVE) = true := by
    decide +kernel
  refine ((unique_active_iff HermesRpt.Sample.std HermesRpt.Sample.db HermesRpt.Sample.initial_db
    HermesRpt.Sample.activation).2 ⟨trivial, trivial, trivial, ?_, trivial⟩ _ List.prefix_rfl).1
  rintro m - - - m' ⟨hmem, -, -, hactive⟩
  exact of_decide_eq_true (List.all_eq_true.1 hnone m' hmem) hactive

/-! ## The resolver and `get_production_version` -/

/-- The resolver returns the document of version `v`. -/
def Resolves (db : ControlPlane) (ctx : TenantContext) (entityName : String) (v : MappingVersion) :
    Prop :=
  ∃ resolved, resolve db entityName ctx = .ok (some resolved) ∧
    resolved.schemaMapping.activeVersionId = some v.id ∧ v ∈ db.versions ∧
    resolved.document = v.mappingDocument

section

variable {entityName : String} {v : MappingVersion}

/-- The mapping that `get_production_version` serves is the entity's active one. -/
theorem activeFor_of_production {m : SchemaMapping} (hm : m ∈ db.mappings)
    (he : m.entityName = entityName) (h : getProductionVersion db ctx m.id = .ok v) :
    ActiveFor db ctx.tenantId entityName m := by
  obtain ⟨m', a, hreq, hs, -, -, -⟩ := getProductionVersion_ok.1 h
  obtain ⟨hm', ht, -, -⟩ := require_row hreq
  obtain rfl : m' = m := Option.some.inj (hm'.symm.trans (Table.find?_key hm))
  exact ⟨hm, ht, he, hs⟩

theorem resolves_of_production {m : SchemaMapping}
    (hfound : getActiveByEntityName db entityName ctx = .ok (some m)) (hm : m ∈ db.mappings)
    (h : getProductionVersion db ctx m.id = .ok v) : Resolves db ctx entityName v := by
  obtain ⟨m', a, hreq, hs, ha, hsus, hversion⟩ := getProductionVersion_ok.1 h
  obtain ⟨hm', -, -, -⟩ := require_row hreq
  obtain rfl : m' = m := Option.some.inj (hm'.symm.trans (Table.find?_key hm))
  obtain ⟨hv, ht⟩ := require_ok.1 hversion
  obtain ⟨hmem, hid⟩ := Table.find?_eq_some.1 hv
  have hid : v.id = a := hid
  subst hid
  refine ⟨⟨m', v.mappingDocument⟩, ?_, ha, hmem, rfl⟩
  have hget : (get db v.id ctx : Option MappingVersion) = some v := get_eq_some.2 ⟨hv, ht⟩
  unfold resolve
  rw [hfound]
  simp only [bind, Except.bind, ha, hsus, hget]
  rfl

theorem production_of_resolves (h : Resolves db ctx entityName v) :
    ∃ m ∈ db.mappings, m.tenantId = ctx.tenantId ∧ m.entityName = entityName ∧
      getProductionVersion db ctx m.id = .ok v := by
  obtain ⟨resolved, hresolve, ha, hv, -⟩ := h
  obtain ⟨version, hunique, hsus, ha', hversion, ht, -⟩ := resolve_some hresolve
  obtain rfl : version = v := by
    rw [ha] at ha'
    have hid : v.id = version.id := Option.some.inj ha'
    rw [← hid] at hversion
    exact Option.some.inj (hversion.symm.trans (Table.find?_key hv))
  obtain ⟨hm, htm, he, hs⟩ := (hunique _).2 rfl
  exact ⟨resolved.schemaMapping, hm, htm, he, getProductionVersion_ok.2 ⟨resolved.schemaMapping,
    version.id, require_ok.2 ⟨Table.find?_key hm, htm⟩, hs, ha, hsus, require_ok.2 ⟨hversion, ht⟩⟩⟩

/-- What the resolver finds is the document of a stored version. -/
theorem resolves_of_some {resolved : ResolvedMapping}
    (h : resolve db entityName ctx = .ok (some resolved)) : ∃ v, Resolves db ctx entityName v := by
  obtain ⟨version, -, -, ha, hversion, -, hdocument⟩ := resolve_some h
  exact ⟨version, resolved, h, ha, (Table.find?_eq_some.1 hversion).1, hdocument⟩

end

/-- Where at most one mapping of the tenant's entity is active, the resolver returns the document of
a version exactly when `get_production_version` returns this version for a mapping of the entity;
otherwise it returns nothing, and `get_production_version` raises for every mapping of the entity. -/
theorem resolver_agrees (db : ControlPlane) (ctx : TenantContext) (entityName : String)
    (hunique : ∀ m₁ m₂, ActiveFor db ctx.tenantId entityName m₁ →
      ActiveFor db ctx.tenantId entityName m₂ → m₁ = m₂) :
    (∀ v, Resolves db ctx entityName v ↔ ∃ m ∈ db.mappings, m.tenantId = ctx.tenantId ∧
      m.entityName = entityName ∧ getProductionVersion db ctx m.id = .ok v) ∧
    ((∀ v, ¬Resolves db ctx entityName v) → resolve db entityName ctx = .ok none ∧
      ∀ m ∈ db.mappings, m.entityName = entityName →
        ∃ e, getProductionVersion db ctx m.id = .error e) := by
  obtain ⟨found, hfound, hactive⟩ := getActiveByEntityName_of_unique hunique
  have hresolves : ∀ m ∈ db.mappings, m.entityName = entityName → ∀ v,
      getProductionVersion db ctx m.id = .ok v → Resolves db ctx entityName v := by
    intro m hm he v h
    have hsome := (hactive m).1 (activeFor_of_production hm he h)
    rw [hsome] at hfound
    exact resolves_of_production hfound hm h
  refine ⟨fun v => ⟨production_of_resolves, ?_⟩, fun hnone => ⟨?_, fun m hm he => ?_⟩⟩
  · rintro ⟨m, hm, -, he, h⟩
    exact hresolves m hm he v h
  · obtain ⟨resolved, hresolved⟩ := resolve_isOk hfound
    cases resolved with
    | none => exact hresolved
    | some resolved =>
      obtain ⟨v, hv⟩ := resolves_of_some hresolved
      exact absurd hv (hnone v)
  · cases h : getProductionVersion db ctx m.id with
    | error e => exact ⟨e, rfl⟩
    | ok v => exact absurd (hresolves m hm he v h) (hnone v)

/-- The sample's mapping, active and alone. -/
theorem resolver_agrees_sample :
    ∃ v, Resolves (run (step HermesRpt.Sample.std) HermesRpt.Sample.db HermesRpt.Sample.activation)
      HermesRpt.Sample.ctx "Vehicle" v := by
  have hproduction : (getProductionVersion (run (step HermesRpt.Sample.std) HermesRpt.Sample.db
      HermesRpt.Sample.activation) HermesRpt.Sample.ctx 30).toBool = true := by decide +kernel
  have hrow : ((run (step HermesRpt.Sample.std) HermesRpt.Sample.db
      HermesRpt.Sample.activation).mappings.rows.map fun m => (m.id, m.entityName)) =
        [(30, "Vehicle")] := by decide +kernel
  generalize run (step HermesRpt.Sample.std) HermesRpt.Sample.db HermesRpt.Sample.activation = db at *
  obtain ⟨m, hm, hpair⟩ : ∃ m, db.mappings.rows = [m] ∧ (m.id, m.entityName) = (30, "Vehicle") := by
    cases hrows : db.mappings.rows with
    | nil => rw [hrows] at hrow; cases hrow
    | cons m rest =>
      rw [hrows] at hrow
      simp only [List.map_cons, List.cons.injEq, List.map_eq_nil_iff] at hrow
      exact ⟨m, by rw [hrow.2], hrow.1⟩
  obtain ⟨hid, he⟩ := Prod.mk.inj hpair
  have hmem : ∀ m', m' ∈ db.mappings ↔ m' = m := fun m' => by rw [Table.mem_def, hm]; simp
  cases hv : getProductionVersion db HermesRpt.Sample.ctx 30 with
  | error e => rw [hv] at hproduction; cases hproduction
  | ok v =>
    rw [← hid] at hv
    obtain ⟨-, ht, -⟩ := activeFor_of_production ((hmem m).2 rfl) he hv
    exact ⟨v, ((resolver_agrees db HermesRpt.Sample.ctx "Vehicle" fun m₁ m₂ h₁ h₂ =>
      ((hmem m₁).1 h₁.1).trans ((hmem m₂).1 h₂.1).symm).1 v).2
        ⟨m, (hmem m).2 rfl, ht, he, hv⟩⟩

end Lifecycle

end HermesRpt
