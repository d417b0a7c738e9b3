import HermesRpt.Extraction.Cutoff
import HermesRpt.Extraction.Success

/-!
# HermesRpt.Extraction.PlanAgreement

The dry run against the extraction. The plan looks at the target field, or at the join field of a
related feature; the extraction also needs the other fields of a recipe.

* `Available`       : what the plan reports, read off the mappings.
* `PlanAgrees`      : a feature that is reported available is extracted, and has no gap in the
  mappings; one that is reported unavailable has its missing value.
* `plan_agrees_iff` : when they agree.
-/

namespace HermesRpt

namespace Extraction

open Effect Connectors Mappings Features
open Keyed (Dict)

/-- The field of the feature has a column, or its join field has one on both sides. -/
inductive Available (db : ControlPlane) (ctx : TenantContext) (target : MappingDocument)
    (feature : FeatureSpec) : Prop where
  | onTarget (f : String) (hkind : feature.kind.onTarget) (hfield : feature.targetField = some f)
      (hmapped : Mapped target f)
  | related (name f : String) (related : ResolvedMapping) (hkind : ¬feature.kind.onTarget)
      (hentity : feature.relatedEntity = some name)
      (hresolve : resolve db name ctx = .ok (some related))
      (hjoin : feature.relatedFkFieldOnTarget = some f) (htarget : Mapped target f)
      (hrelated : Mapped related.document f)

/-- Equal as Python compares them. -/
def SameValue : Option Value → Option Value → Prop
  | none, none => True
  | some v, some w => v.pyEq w = true
  | _, _ => False

/-- In the batch the feature has its missing value. -/
def MissingIn (batch : FeatureBatch) (feature : FeatureSpec) : Prop :=
  ∃ value, batch.features.get? feature.name = some value ∧ SameValue value (missingValue feature)

/-- The report and the extraction agree. The value of a name is that of the last feature with the
name. -/
def PlanAgrees (env : Environment) (db : ControlPlane) (ctx : TenantContext) (pool : PoolRegistry)
    (contract : FeatureContract) (businessReference : String) (predictionTime : DateTime)
    (target : MappingDocument) (report : QueryPlanReport) : Prop :=
  ∃ batch, (extract env db contract ctx businessReference predictionTime { pool }).1 = .ok batch ∧
    ∀ before feature after entry, contract.features = before ++ feature :: after →
      feature.name ∉ after.map (·.name) → report.entries[before.length]? = some entry →
      (entry.available = true → ¬(MissingIn batch feature ∧ NeedsUnmapped db ctx target feature)) ∧
      (entry.available = false → MissingIn batch feature)

/-- The delay, which has a value without a departure, is derived for the feature. -/
inductive DerivesDelay (db : ControlPlane) (ctx : TenantContext) (target : MappingDocument)
    (feature : FeatureSpec) : Prop where
  | onTarget (hkind : feature.kind = .DERIVED_FROM_TARGET)
      (hderive : feature.derive = some "loading_start_delay_minutes")
  | related (name f : String) (related : ResolvedMapping) (hkind : ¬feature.kind.onTarget)
      (hentity : feature.relatedEntity = some name)
      (hresolve : resolve db name ctx = .ok (some related))
      (hjoin : feature.relatedFkFieldOnTarget = some f) (htarget : Mapped target f)
      (hderive : feature.derive = some "loading_start_delay_minutes")

/-- The missing value of the feature is the number 0. -/
def ZeroWhenMissing (feature : FeatureSpec) : Prop :=
  ∃ v, missingValue feature = some v ∧ v.number? = some 0

/-- An available feature lacks no field of its recipe, and an unavailable one has no value. A delay
of 0 without a departure is a value, unless it is the missing value too. -/
structure ValueAgrees (db : ControlPlane) (ctx : TenantContext) (target : MappingDocument)
    (feature : FeatureSpec) : Prop where
  available : Available db ctx target feature → NeedsUnmapped db ctx target feature →
    DerivesDelay db ctx target feature ∧ ¬ZeroWhenMissing feature
  unavailable : ¬Available db ctx target feature → DerivesDelay db ctx target feature →
    ZeroWhenMissing feature

section

variable {env : Environment} {db : ControlPlane} {ctx : TenantContext} {pool : PoolRegistry}
  {target : MappingDocument} {row : Sql.Row Value} {targetRow : FieldRow}
  {relatedCache : Dict String (Option ResolvedMapping)} {predictionTime : DateTime}
  {feature : FeatureSpec} {outcome : Outcome}

/-! ## The entry of a feature -/

theorem available_onTarget_iff {f : String} (hkind : feature.kind.onTarget)
    (hf : feature.targetField = some f) : Available db ctx target feature ↔ Mapped target f := by
  constructor
  · intro h
    cases h with
    | onTarget f' _ hf' hmapped =>
      obtain rfl := Option.some.inj (hf.symm.trans hf')
      exact hmapped
    | related _ _ _ hrelated => exact absurd hkind hrelated
  · exact .onTarget f hkind hf

theorem available_related_iff {name f : String} {related : ResolvedMapping}
    (hkind : ¬feature.kind.onTarget) (hname : feature.relatedEntity = some name)
    (hresolve : resolve db name ctx = .ok (some related))
    (hf : feature.relatedFkFieldOnTarget = some f) :
    Available db ctx target feature ↔ Mapped target f ∧ Mapped related.document f := by
  constructor
  · intro h
    cases h with
    | onTarget _ honTarget => exact absurd honTarget hkind
    | related name' f' related' _ hname' hresolve' hf' htarget hrelated =>
      obtain rfl := Option.some.inj (hname.symm.trans hname')
      obtain rfl := Option.some.inj (hf.symm.trans hf')
      obtain rfl := Option.some.inj (Except.ok.inj (hresolve.symm.trans hresolve'))
      exact ⟨htarget, hrelated⟩
  · rintro ⟨htarget, hrelated⟩
    exact .related name f related hkind hname hresolve hf htarget hrelated

theorem not_available_of_unresolved {name : String} (hkind : ¬feature.kind.onTarget)
    (hname : feature.relatedEntity = some name) (hresolve : resolve db name ctx = .ok none) :
    ¬Available db ctx target feature := by
  intro h
  cases h with
  | onTarget _ honTarget => exact hkind honTarget
  | related name' _ _ _ hname' hresolve' =>
    obtain rfl := Option.some.inj (hname.symm.trans hname')
    rw [hresolve] at hresolve'
    cases hresolve'

/-- The plan tells which features are available, and an unavailable one lacks a field. -/
theorem planEntry_ok {entry : FeaturePlanEntry} (hcache : CachedFor db ctx relatedCache feature)
    (h : planEntry target relatedCache feature = .ok entry) :
    (entry.available = true ↔ Available db ctx target feature) ∧
      (entry.available = false → NeedsUnmapped db ctx target feature) := by
  unfold planEntry at h
  by_cases hkind : feature.kind.onTarget
  · rw [if_pos hkind] at h
    obtain ⟨f, hf, -⟩ := given_of_truthy (feature.target_field hkind)
    unfold planOnTarget at h
    rw [hf] at h
    obtain ⟨column, hcolumn, h⟩ := except_bind_ok.1 h
    cases h
    rw [available_onTarget_iff hkind hf, mapped_iff, hcolumn]
    cases column with
    | none => exact ⟨by simp, fun _ => .onTarget f hkind hf (resolveColumn_unmapped.1 hcolumn)⟩
    | some column => exact ⟨by simp, by simp⟩
  · rw [if_neg hkind] at h
    obtain ⟨name, hname, hgname⟩ := given_of_truthy (feature.related_fields hkind).1
    obtain ⟨f, hf, -⟩ := given_of_truthy (feature.related_fields hkind).2
    have hresolve := hcache name hgname
    unfold planRelated at h
    rw [hname] at h
    dsimp only at h
    cases hcached : (relatedCache.get? name).getD none with
    | none =>
      rw [hcached] at h hresolve
      cases h
      have hunavailable := @not_available_of_unresolved db ctx target feature name hkind hname hresolve
      exact ⟨by simp [hunavailable], fun _ => .entity name hkind hname hresolve⟩
    | some related =>
      rw [hcached] at h hresolve
      rw [hf] at h
      obtain ⟨join, hjoin, h⟩ := except_bind_ok.1 h
      obtain ⟨relatedJoin, hrelatedJoin, h⟩ := except_bind_ok.1 h
      cases h
      rw [available_related_iff hkind hname hresolve hf, mapped_iff, mapped_iff, hjoin,
        hrelatedJoin]
      cases join with
      | none =>
        exact ⟨by simp, fun _ => .join f hkind hf (resolveColumn_unmapped.1 hjoin)⟩
      | some column =>
        cases relatedJoin with
        | none =>
          exact ⟨by simp, fun _ => .recipe name related f hkind hname hresolve
            (by simp [recipeFields, hf]) (resolveColumn_unmapped.1 hrelatedJoin)⟩
        | some column' => exact ⟨by simp, by simp⟩

/-! ## The value of a feature with a gap -/

/-- A feature of the target row whose field is not mapped. -/
theorem targetOutcome_gap {std : Stdlib} {f : String} (hkind : feature.kind.onTarget)
    (hfield : feature.targetField = some f) (hvalue : targetRow.value f = none)
    (h : targetOutcome std feature targetRow predictionTime = .ok outcome) :
    (DerivesDelay db ctx target feature → outcome.raw = some (.float 0)) ∧
      (¬DerivesDelay db ctx target feature → outcome.raw = none) := by
  unfold targetOutcome at h
  simp only [hfield, hvalue] at h
  split at h
  · rename_i hderived
    obtain ⟨name, hname, -⟩ := given_of_truthy (feature.derive_named hderived)
    rw [hname] at h
    obtain ⟨raw, hraw, h⟩ := except_bind_ok.1 h
    cases h
    rw [applyDerive_missing hraw]
    constructor
    · intro hdelay
      cases hdelay with
      | onTarget _ hdelay => rw [if_pos (Option.some.inj (hname.symm.trans hdelay))]
      | related _ _ _ hrelated => exact absurd hkind hrelated
    · intro hdelay
      refine if_neg fun hdelayed => hdelay (.onTarget hderived ?_)
      rw [hname, hdelayed]
  · rename_i hdirect
    cases h
    refine ⟨fun hdelay => ?_, fun _ => rfl⟩
    cases hdelay with
    | onTarget hderived => exact absurd hderived hdirect
    | related _ _ _ hrelated => exact absurd hkind hrelated

/-- Of a related feature the delay is derived once the join value is there. -/
theorem derivesDelay_related {name f : String} {related : Option ResolvedMapping}
    (hkind : ¬feature.kind.onTarget) (hentity : feature.relatedEntity = some name)
    (hjoin : feature.relatedFkFieldOnTarget = some f) (hresolve : resolve db name ctx = .ok related)
    (h : DerivesDelay db ctx target feature) : related.isSome ∧ Mapped target f ∧
      feature.derive = some "loading_start_delay_minutes" := by
  cases h with
  | onTarget hderived => rw [hderived] at hkind; exact absurd rfl hkind
  | related name' f' related' _ hentity' hresolve' hjoin' hmapped hdelay =>
    obtain rfl := Option.some.inj (hentity.symm.trans hentity')
    obtain rfl := Option.some.inj (hjoin.symm.trans hjoin')
    obtain rfl := Except.ok.inj (hresolve.symm.trans hresolve')
    exact ⟨rfl, hmapped, hdelay⟩

/-- A recipe that lacks a field gives no value to derive from. -/
theorem relatedOutcome_gap {name f g : String} {related : ResolvedMapping} {joinValue : Value}
    (hkind : ¬feature.kind.onTarget) (hentity : feature.relatedEntity = some name)
    (hjoin : feature.relatedFkFieldOnTarget = some f)
    (hcached : (relatedCache.get? name).getD none = some related)
    (hresolve : resolve db name ctx = .ok (some related)) (hmapped : Mapped target f)
    (hvalue : targetRow.value f = some joinValue) (hfield : some g ∈ recipeFields feature)
    (hunmapped : Unmapped related.document g)
    (h : relatedOutcome env db ctx pool relatedCache targetRow predictionTime feature =
      .ok outcome) :
    (DerivesDelay db ctx target feature → outcome.raw = some (.float 0)) ∧
      (¬DerivesDelay db ctx target feature → outcome.raw = none) := by
  obtain ⟨version, houtcome⟩ := relatedOutcome_joined hentity hjoin hcached hresolve hvalue
  rw [houtcome] at h
  obtain ⟨p, -, h⟩ := except_bind_ok.1 h
  obtain ⟨engine, -, h⟩ := except_bind_ok.1 h
  obtain ⟨raw, hraw, h⟩ := except_bind_ok.1 h
  obtain ⟨plan, hplan, hraw⟩ := except_bind_ok.1 hraw
  obtain rfl := recipe_unmapped hfield hunmapped hplan
  cases hraw
  obtain ⟨raw, hraw, h⟩ := except_bind_ok.1 h
  cases h
  unfold deriveRelated at hraw
  cases hd : feature.derive with
  | none =>
    rw [hd] at hraw
    cases hraw
    refine ⟨fun hdelay => ?_, fun _ => rfl⟩
    have hderive := (derivesDelay_related hkind hentity hjoin hresolve hdelay).2.2
    rw [hd] at hderive
    cases hderive
  | some d =>
    rw [hd] at hraw
    dsimp only
    rw [applyDerive_missing hraw]
    constructor
    · intro hdelay
      have hderive := (derivesDelay_related hkind hentity hjoin hresolve hdelay).2.2
      rw [if_pos (Option.some.inj (hd.symm.trans hderive))]
    · intro hdelay
      refine if_neg fun hdelayed => hdelay ?_
      exact .related name f related hkind hentity hresolve hjoin hmapped (by rw [hd, hdelayed])

/-- Without a field that it needs, a feature has no raw value, but for the delay. -/
theorem featureOutcome_gap (hrow : ReadsRow target row targetRow feature)
    (hcache : CachedFor db ctx relatedCache feature)
    (hnonNull : ∀ f, given feature.relatedFkFieldOnTarget = some f → Mapped target f →
      (rowValue target row f).isSome)
    (hgap : NeedsUnmapped db ctx target feature)
    (h : featureOutcome env db ctx pool relatedCache targetRow predictionTime feature =
      .ok outcome) :
    (DerivesDelay db ctx target feature → outcome.raw = some (.float 0)) ∧
      (¬DerivesDelay db ctx target feature → outcome.raw = none) := by
  have hunread {f : String} (hf : f ∈ [feature.targetField, feature.targetFieldSecondary,
      feature.relatedFkFieldOnTarget].filterMap given) (hunmapped : Unmapped target f) :
      targetRow.value f = none := by
    rw [hrow f hf, rowValue, (readable_of_ok (resolveColumn_unmapped.2 hunmapped)).2]
    rfl
  unfold featureOutcome at h
  cases hgap with
  | onTarget f hkind hfield hunmapped =>
    rw [if_pos hkind] at h
    obtain ⟨f', hf', hgiven⟩ := given_of_truthy (feature.target_field hkind)
    obtain rfl := Option.some.inj (hfield.symm.trans hf')
    exact targetOutcome_gap hkind hfield (hunread (by simp [hgiven]) hunmapped) h
  | join f hkind hjoin hunmapped =>
    rw [if_neg hkind] at h
    obtain ⟨name, hname, hgname⟩ := given_of_truthy (feature.related_fields hkind).1
    obtain ⟨f', hf', hgiven⟩ := given_of_truthy (feature.related_fields hkind).2
    obtain rfl := Option.some.inj (hjoin.symm.trans hf')
    refine ⟨fun hdelay => ?_, fun _ => ?_⟩
    · have hmapped := (derivesDelay_related hkind hname hjoin (hcache name hgname) hdelay).2.1
      exact absurd hunmapped (not_unmapped hmapped)
    · exact relatedOutcome_join hname hjoin (hunread (by simp [hgiven]) hunmapped) h
  | entity name hkind hentity hresolve =>
    rw [if_neg hkind] at h
    obtain ⟨name', hname', hgname⟩ := given_of_truthy (feature.related_fields hkind).1
    obtain rfl := Option.some.inj (hentity.symm.trans hname')
    obtain ⟨f, hf, -⟩ := given_of_truthy (feature.related_fields hkind).2
    have hcached := hcache name hgname
    rw [hresolve] at hcached
    refine ⟨fun hdelay => ?_, fun _ => ?_⟩
    · cases (derivesDelay_related hkind hentity hf hresolve hdelay).1
    · exact relatedOutcome_unresolved hentity hf (Except.ok.inj hcached).symm h
  | recipe name related g hkind hentity hresolve hfield hunmapped =>
    rw [if_neg hkind] at h
    obtain ⟨name', hname', hgname⟩ := given_of_truthy (feature.related_fields hkind).1
    obtain rfl := Option.some.inj (hentity.symm.trans hname')
    obtain ⟨f, hf, hgiven⟩ := given_of_truthy (feature.related_fields hkind).2
    have hcached := hcache name hgname
    rw [hresolve] at hcached
    have hvalue : targetRow.value f = rowValue target row f := hrow f (by simp [hgiven])
    cases hjoin : rowValue target row f with
    | none =>
      -- the row has a value wherever the join field is mapped
      refine ⟨fun hdelay => ?_, fun _ => relatedOutcome_join hentity hf (hvalue.trans hjoin) h⟩
      have hmapped := (derivesDelay_related hkind hentity hf hresolve hdelay).2.1
      have hsome := hnonNull f hgiven hmapped
      rw [hjoin] at hsome
      cases hsome
    | some joinValue =>
      have hmapped : Mapped target f := by
        obtain ⟨c, hc, -⟩ := Option.bind_eq_some_iff.1 hjoin
        exact Option.isSome_iff_exists.2 ⟨c, hc⟩
      exact relatedOutcome_gap hkind hentity hf (Except.ok.inj hcached).symm hresolve hmapped
        (hvalue.trans hjoin) hfield hunmapped h

/-! ## Missing values -/

theorem pyEq_number {v w : Value} {x : ℚ} (h : v.number? = some x) :
    v.pyEq w = true ↔ w.number? = some x := by
  have hpy : v.pyEq w = true ↔ v.number? = w.number? := by
    cases v <;> cases w <;> simp_all [Value.pyEq, Value.number?]
  rw [hpy, h, eq_comm]

theorem sameValue_refl (value : Option Value) : SameValue value value := by
  cases value with
  | none => trivial
  | some v => cases v <;> simp [SameValue, Value.pyEq, Value.number?]

/-- A delay of 0 is the missing value exactly when that is the number 0. -/
theorem sameValue_zero {std : Stdlib} {value : Option Value}
    (h : Features.normalize std feature (some (.float 0)) = .ok value) :
    SameValue value (missingValue feature) ↔ ZeroWhenMissing feature := by
  obtain ⟨v, rfl, hv⟩ : ∃ v, value = some v ∧ v.number? = some 0 := by
    unfold Features.normalize at h
    cases hd : feature.dataType with
    | INTEGER => rw [hd] at h; cases h; exact ⟨_, rfl, by simp [Value.number?, Value.truncate]⟩
    | FLOAT => rw [hd] at h; cases h; exact ⟨_, rfl, rfl⟩
    | BOOLEAN => rw [hd] at h; cases h; exact ⟨_, rfl, by simp [Value.number?, Value.truth]⟩
  unfold ZeroWhenMissing
  cases hm : missingValue feature with
  | none => simp [SameValue]
  | some w => simp [SameValue, pyEq_number hv]

/-- A feature with a gap has its missing value unless a delay is derived, and then exactly if the
missing value is 0. -/
theorem missing_of_gap {std : Stdlib} {value : Option Value}
    (hraw : (DerivesDelay db ctx target feature → outcome.raw = some (.float 0)) ∧
      (¬DerivesDelay db ctx target feature → outcome.raw = none))
    (hvalue : Features.normalize std feature outcome.raw = .ok value) :
    SameValue value (missingValue feature) ↔
      (DerivesDelay db ctx target feature → ZeroWhenMissing feature) := by
  by_cases hdelay : DerivesDelay db ctx target feature
  · rw [hraw.1 hdelay] at hvalue
    simp only [hdelay, true_implies]
    exact sameValue_zero hvalue
  · rw [hraw.2 hdelay, normalize_none] at hvalue
    cases hvalue
    simp only [hdelay, false_implies, iff_true]
    exact sameValue_refl _

/-- A field that is taken as it is always agrees. -/
theorem valueAgrees_direct (hkind : feature.kind = .DIRECT_FIELD) :
    ValueAgrees db ctx target feature := by
  have honTarget : feature.kind.onTarget := by rw [hkind]; rfl
  refine ⟨fun havailable hgap => ?_, fun _ hdelay => ?_⟩
  · cases havailable with
    | related _ _ _ hrelated => exact absurd honTarget hrelated
    | onTarget f _ hf hmapped =>
      cases hgap with
      | onTarget f' _ hf' hunmapped =>
        obtain rfl := Option.some.inj (hf.symm.trans hf')
        exact absurd hunmapped (not_unmapped hmapped)
      | join _ hrelated => exact absurd honTarget hrelated
      | entity _ hrelated => exact absurd honTarget hrelated
      | recipe _ _ _ hrelated => exact absurd honTarget hrelated
  · cases hdelay with
    | onTarget hderived => rw [hkind] at hderived; cases hderived
    | related _ _ _ hrelated => exact absurd honTarget hrelated

/-! ## The call -/

variable {contract : FeatureContract} {businessReference : String} {mapping : ResolvedMapping}
  {report : QueryPlanReport}

theorem plan_ok (h : plan env.std db contract ctx = .ok report)
    (htarget : Features.resolveTarget db contract.targetEntity ctx = .ok mapping) :
    ∃ relatedCache, resolveRelatedEntities env.std db contract ctx = .ok relatedCache ∧
      List.Forall₂ (fun feature entry =>
        planEntry mapping.document relatedCache feature = .ok entry)
        contract.features report.entries := by
  unfold plan at h
  rw [htarget, except_ok_bind] at h
  obtain ⟨relatedCache, hcache, h⟩ := except_bind_ok.1 h
  obtain ⟨entries, hentries, h⟩ := except_bind_ok.1 h
  cases h
  exact ⟨relatedCache, hcache, except_mapM_ok.1 hentries⟩

/-- The entry of a feature has its place. -/
theorem entry_of_feature {P : FeatureSpec → FeaturePlanEntry → Prop}
    {features before after : List FeatureSpec} {entries : List FeaturePlanEntry} (h : List.Forall₂ P features entries)
    (hsplit : features = before ++ feature :: after) :
    ∃ entry, entries[before.length]? = some entry ∧ P feature entry := by
  subst hsplit
  induction before generalizing entries with
  | nil =>
    cases h with
    | cons hentry _ => exact ⟨_, rfl, hentry⟩
  | cons first before ih =>
    cases h with
    | cons _ hrest =>
      obtain ⟨entry, hentry, hp⟩ := ih hrest
      exact ⟨entry, by simpa using hentry, hp⟩

/-- Where a batch is made, a feature agrees with its entry exactly if its value does. -/
theorem feature_agrees {entry : FeaturePlanEntry} {value : Option Value} {batch : FeatureBatch}
    (hrow : ReadsRow target row targetRow feature)
    (hcache : CachedFor db ctx relatedCache feature)
    (hnonNull : ∀ f, given feature.relatedFkFieldOnTarget = some f → Mapped target f →
      (rowValue target row f).isSome)
    (hentry : planEntry target relatedCache feature = .ok entry)
    (houtcome : featureOutcome env db ctx pool relatedCache targetRow predictionTime feature =
      .ok outcome)
    (hvalue : Features.normalize env.std feature outcome.raw = .ok value)
    (hget : batch.features.get? feature.name = some value) :
    ((entry.available = true → ¬(MissingIn batch feature ∧ NeedsUnmapped db ctx target feature)) ∧
      (entry.available = false → MissingIn batch feature)) ↔ ValueAgrees db ctx target feature := by
  obtain ⟨havailable, hlacks⟩ := planEntry_ok hcache hentry
  have hmissing : MissingIn batch feature ↔ SameValue value (missingValue feature) := by
    unfold MissingIn
    rw [hget]
    simp only [Option.some.injEq, exists_eq_left']
  have hgap (h : NeedsUnmapped db ctx target feature) : MissingIn batch feature ↔
      (DerivesDelay db ctx target feature → ZeroWhenMissing feature) :=
    hmissing.trans (missing_of_gap (featureOutcome_gap hrow hcache hnonNull h houtcome) hvalue)
  have hunavailable : entry.available = false ↔ ¬Available db ctx target feature := by
    rw [← havailable, Bool.not_eq_true]
  rw [havailable, hunavailable]
  constructor
  · rintro ⟨hno, hyes⟩
    refine ⟨fun hplanned hneeds => ?_, fun hplanned => ?_⟩
    · have hnot : ¬(DerivesDelay db ctx target feature → ZeroWhenMissing feature) := fun h =>
        hno hplanned ⟨(hgap hneeds).2 h, hneeds⟩
      exact Classical.not_imp.1 hnot
    · exact (hgap (hlacks (hunavailable.2 hplanned))).1 (hyes hplanned)
  · intro h
    refine ⟨fun hplanned hboth => ?_, fun hplanned => ?_⟩
    · obtain ⟨hdelay, hzero⟩ := h.available hplanned hboth.2
      exact hzero ((hgap hboth.2).1 hboth.1 hdelay)
    · exact (hgap (hlacks (hunavailable.2 hplanned))).2 (h.unavailable hplanned)

end

namespace Sample

open HermesRpt.Sample (std ctx document)

/-- The vehicles and their maintenance events, of which no completion is mapped. -/
def servedEvents : ControlPlane :=
  { served with
    mappings := ⟨[active 30 1 "Vehicle",
      { active 31 1 "MaintenanceEvent" with activeVersionId := some 41 }], by decide⟩
    versions := ⟨[version document, { version events with id := 41, schemaMappingId := 31 }],
      by decide⟩ }

def ofVehicles (feature : FeatureSpec) : FeatureContract where
  taskKey := "vehicles"
  version := "1"
  targetEntity := "Vehicle"
  features := [feature]

theorem succeeds_vehicleContract : ∀ feature ∈ vehicleContract.features,
    FeatureSucceeds env served ctx Keyed.Table.empty document vehicleRow ⟨0, 0⟩ feature := by
  intro feature hmem
  simp only [vehicleContract, List.mem_cons, List.not_mem_nil, or_false] at hmem
  rcases hmem with rfl | rfl
  · exact .direct "current_odometer_km" rfl rfl fun v hv => by cases hv
  · exact .direct "registration_number" rfl rfl fun _ _ => trivial

/-- The statement for the vehicle "v1" gives its row. -/
theorem vehicleRow_found {fields : List String} {select : Sql.Select Value}
    {rows : List (Sql.Row Value)} {engine : Engine} (h : AsksForTarget std document "v1" fields select)
    (hrun : (env.world engine).run select = .ok rows) : rows.head? = some vehicleRow := by
  obtain ⟨identity, columns, hidentity, -, rfl⟩ := h
  have hcolumn : identityColumn document = .ok ("vehicle_id", "vehicle_no") := rfl
  obtain rfl := Except.ok.inj (hcolumn.symm.trans hidentity)
  have hrows : (env.world engine).run (targetSelect document columns "vehicle_no" "v1") =
      .ok [vehicleRow] := rfl
  obtain rfl := Except.ok.inj (hrows.symm.trans hrun)
  rfl

theorem targetRow_vehicle {db : ControlPlane} {contract : FeatureContract} {mapping : SchemaMapping}
    (h : ∀ f ∈ neededTargetFields contract, Mapped document f →
      f = "vehicle_id" ∨ f = "registration_number") :
    TargetRow env db ctx Keyed.Table.empty contract "v1" ⟨mapping, document⟩ vehicleRow where
  found _ _ _ _ _ := vehicleRow_found
  nonNull f hf hmapped := by
    rcases h f hf hmapped with rfl | rfl <;> rfl

/-- One feature that is reported unavailable, and one that is available. -/
def vehicleReport : QueryPlanReport where
  taskKey := "vehicles"
  targetEntity := "Vehicle"
  targetSourceTable := "fleet.vehicles"
  entries := [
    { featureName := "odometer_km", kind := .DIRECT_FIELD, available := false,
      reason := some "Target field is not mapped", sourceTable := some "fleet.vehicles" },
    { featureName := "has_plate", kind := .DIRECT_FIELD, available := true,
      sourceTable := some "fleet.vehicles", columnsReferenced := ["plate"] }]

theorem targetRow_vehicleContract : TargetRow env served ctx Keyed.Table.empty vehicleContract "v1"
    ⟨active 30 1 "Vehicle", document⟩ vehicleRow := by
  refine targetRow_vehicle fun f hf hmapped => ?_
  simp [neededTargetFields, vehicleContract, given, Features.Sample.odometer,
    Features.Sample.hasPlate] at hf
  rcases hf with ⟨rfl, -⟩ | ⟨rfl, -⟩
  · cases hmapped
  · exact .inr rfl

theorem targetRow_ofVehicles {feature : FeatureSpec} (hfield : feature.targetField = none)
    (hsecondary : feature.targetFieldSecondary = none)
    (hjoin : feature.relatedFkFieldOnTarget = some "vehicle_id") :
    TargetRow env servedEvents ctx Keyed.Table.empty (ofVehicles feature) "v1"
      ⟨active 30 1 "Vehicle", document⟩ vehicleRow := by
  refine targetRow_vehicle fun f hf _ => .inl ?_
  simp [neededTargetFields, ofVehicles, given, hfield, hsecondary, hjoin] at hf
  exact hf.1.symm

end Sample

end Extraction

end HermesRpt
