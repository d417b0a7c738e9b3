import HermesRpt.Extraction.FieldErrors
import HermesRpt.Extraction.Isolation

/-!
# HermesRpt.Extraction.Degradation

A field that a feature needs and the mappings leave out makes the feature missing; it does not stop
the extraction. A field that is mapped to a constant or an expression does stop it, by
`resolve_column`.

* `NeedsUnmapped`       : a feature that needs a field which is not mapped.
* `feature_recorded`    : the value of a feature in the batch is its own.
* `degrades_to_missing` : what the batch holds for each feature.
-/

namespace HermesRpt

namespace Extraction

open Effect Connectors Schemas Mappings Features
open Keyed (Dict)
open FeatureKind ( RELATED_RATIO)

section

variable {env : Environment} {db : ControlPlane} {ctx : TenantContext} {pool : PoolRegistry}

/-! ## Missing values -/

/-- A field the document has no entry for. -/
def Unmapped (document : MappingDocument) (fieldName : String) : Prop :=
  document.allFieldMappings.get? fieldName = none

/-- The related fields without which a recipe has no value. -/
def recipeFields (feature : FeatureSpec) : List (Option String) :=
  feature.relatedFkFieldOnTarget :: match feature.kind with
    | RELATED_RATIO => [feature.relatedFilterField]
    | .RELATED_LATEST_VALUE => [feature.relatedValueField]
    | _ => []

/-- A feature that needs a field which is not mapped, on the target or on the related entity. -/
inductive NeedsUnmapped (db : ControlPlane) (ctx : TenantContext) (target : MappingDocument)
    (feature : FeatureSpec) : Prop where
  | onTarget (f : String) (hkind : feature.kind.onTarget) (hfield : feature.targetField = some f)
      (hunmapped : Unmapped target f)
  | join (f : String) (hkind : ¬feature.kind.onTarget)
      (hfield : feature.relatedFkFieldOnTarget = some f) (hunmapped : Unmapped target f)
  | entity (name : String) (hkind : ¬feature.kind.onTarget)
      (hentity : feature.relatedEntity = some name) (hresolve : resolve db name ctx = .ok none)
  | recipe (name : String) (related : ResolvedMapping) (f : String) (hkind : ¬feature.kind.onTarget)
      (hentity : feature.relatedEntity = some name)
      (hresolve : resolve db name ctx = .ok (some related)) (hfield : some f ∈ recipeFields feature)
      (hunmapped : Unmapped related.document f)

/-- The feature's `missing_value_behavior`. -/
def missingValue (feature : FeatureSpec) : Option Value :=
  match feature.missingValueBehavior with
  | .ZERO => some (.int 0)
  | .CONSTANT => feature.defaultValue.map .float
  | .NULL => none

theorem normalize_none (std : Stdlib) (feature : FeatureSpec) :
    Features.normalize std feature none = .ok (missingValue feature) := rfl

/-- Nothing is derived from a missing value, but for the delay that is 0 without a departure. -/
theorem applyDerive_none {std : Stdlib} {name : String} {secondary raw : Option Value}
    {predictionTime : DateTime} (hname : name ≠ "loading_start_delay_minutes")
    (h : applyDerive std name none secondary predictionTime = .ok raw) : raw = none := by
  have hcoerced {fn : Option DateTime → Option DateTime → Option Value}
      (hfn : ∀ s, fn none s = none)
      (h : (do return fn (← coerceDatetime std none) (← coerceDatetime std secondary)) = .ok raw) :
      raw = none := by
    obtain ⟨v, hv, h⟩ := except_bind_ok.1 h
    cases hv
    obtain ⟨s, -, h⟩ := except_bind_ok.1 h
    cases h
    exact hfn s
  unfold applyDerive at h
  dsimp only at h
  split at h
  · rw [except_ok_bind] at h
    exact hcoerced (by intros; rfl) h
  · rw [except_ok_bind] at h
    exact hcoerced (by intros; rfl) h
  · rw [except_ok_bind] at h
    exact hcoerced (by intros; rfl) h
  · exact absurd rfl hname
  · cases h

/-- A recipe without one of its fields has no value. -/
theorem recipe_unmapped {feature : FeatureSpec} {document : MappingDocument} {f : String}
    (hfield : some f ∈ recipeFields feature) (h : Unmapped document f) {std : Stdlib}
    {joinValue : Value} {predictionTime : DateTime} {connection : CustomerDatabaseConnection}
    {plan : Plan (Option Value)}
    (hplan : relatedFeaturePlan std feature document joinValue predictionTime connection = .ok plan) :
    plan = .done none := by
  have hresolved : resolveColumn document f = .ok none := resolveColumn_unmapped.2 h
  obtain ⟨-, ⟨-, rfl⟩ | ⟨join, time, times, hjoin, -, -, hrecipe⟩⟩ := relatedFeaturePlan_ok hplan
  · rfl
  obtain ⟨g, hg, hcolumn⟩ := assertedColumn_some.1 hjoin
  have hne : feature.relatedFkFieldOnTarget ≠ some f := by
    intro hf
    rw [hf] at hg
    cases hg
    rw [resolveColumn_mapped.2 hcolumn] at hresolved
    cases hresolved
  rcases List.mem_cons.1 hfield with hf | hfield
  · exact absurd hf.symm hne
  cases recipePlan_iff.1 hrecipe with
  | unfiltered => rfl
  | valueless => rfl
  | ratio column v hkind hcolumn hvalue =>
    rw [hkind] at hfield
    rw [← List.mem_singleton.1 hfield, assertedColumn, hresolved] at hcolumn
    cases hcolumn
  | latest column hkind hcolumn =>
    rw [hkind] at hfield
    rw [← List.mem_singleton.1 hfield, assertedColumn, hresolved] at hcolumn
    cases hcolumn
  | count filter hkind => rw [hkind] at hfield; cases hfield
  | recency column hkind => rw [hkind] at hfield; cases hfield

theorem targetOutcome_unmapped {std : Stdlib} {feature : FeatureSpec} {f : String}
    (hfield : feature.targetField = some f) {targetRow : FieldRow} (hvalue : targetRow.value f = none)
    (hderive : feature.derive ≠ some "loading_start_delay_minutes") {predictionTime : DateTime}
    {outcome : Outcome} (h : targetOutcome std feature targetRow predictionTime = .ok outcome) :
    outcome.raw = none := by
  unfold targetOutcome at h
  simp only [hfield, hvalue] at h
  split at h
  · cases hd : feature.derive with
    | none => rw [hd] at h; cases h
    | some d =>
      rw [hd] at h
      obtain ⟨raw, hraw, h⟩ := except_bind_ok.1 h
      cases h
      refine applyDerive_none ?_ hraw
      rintro rfl
      exact hderive hd
  · cases h
    rfl

theorem deriveRelated_none {std : Stdlib} {feature : FeatureSpec}
    (hderive : feature.derive ≠ some "loading_start_delay_minutes") {predictionTime : DateTime}
    {raw : Option Value} (h : deriveRelated std feature none predictionTime = .ok raw) :
    raw = none := by
  unfold deriveRelated at h
  cases hd : feature.derive with
  | none =>
    rw [hd] at h
    cases h
    rfl
  | some d =>
    rw [hd] at h
    refine applyDerive_none ?_ h
    rintro rfl
    exact hderive hd

section

variable {feature : FeatureSpec} {relatedCache : Dict String (Option ResolvedMapping)}
  {targetRow : FieldRow} {predictionTime : DateTime} {outcome : Outcome}

/-- Without a value to join by, nothing is asked for. -/
theorem relatedOutcome_join {name f : String} (hentity : feature.relatedEntity = some name)
    (hfield : feature.relatedFkFieldOnTarget = some f) (hvalue : targetRow.value f = none)
    (h : relatedOutcome env db ctx pool relatedCache targetRow predictionTime feature =
      .ok outcome) : outcome.raw = none := by
  unfold relatedOutcome at h
  simp only [hentity, hfield, hvalue] at h
  split at h <;> cases h <;> rfl

theorem relatedOutcome_unresolved {name f : String} (hentity : feature.relatedEntity = some name)
    (hfield : feature.relatedFkFieldOnTarget = some f)
    (hnone : (relatedCache.get? name).getD none = none)
    (h : relatedOutcome env db ctx pool relatedCache targetRow predictionTime feature =
      .ok outcome) : outcome.raw = none := by
  unfold relatedOutcome at h
  simp only [hentity, hfield, hnone] at h
  cases h
  rfl

theorem relatedOutcome_recipe {name join f : String} {related : ResolvedMapping}
    (hentity : feature.relatedEntity = some name)
    (hjoin : feature.relatedFkFieldOnTarget = some join)
    (hrelated : ∀ found, (relatedCache.get? name).getD none = some found → found = related)
    (hfield : some f ∈ recipeFields feature) (hunmapped : Unmapped related.document f)
    (hderive : feature.derive ≠ some "loading_start_delay_minutes")
    (h : relatedOutcome env db ctx pool relatedCache targetRow predictionTime feature =
      .ok outcome) : outcome.raw = none := by
  unfold relatedOutcome at h
  simp only [hentity, hjoin] at h
  split at h
  · rename_i found version hfound hversion
    obtain rfl := hrelated found hfound
    split at h
    · cases h
      rfl
    · obtain ⟨p, -, h⟩ := except_bind_ok.1 h
      obtain ⟨engine, -, h⟩ := except_bind_ok.1 h
      obtain ⟨raw, hraw, h⟩ := except_bind_ok.1 h
      obtain ⟨plan, hplan, hraw⟩ := except_bind_ok.1 hraw
      obtain rfl := recipe_unmapped hfield hunmapped hplan
      cases hraw
      obtain ⟨raw, hraw, h⟩ := except_bind_ok.1 h
      cases h
      exact deriveRelated_none hderive hraw
  · cases h
    rfl

/-- A feature that needs an unmapped field has no raw value. -/
theorem featureOutcome_unmapped {target : ResolvedMapping}
    (hcache : ∀ name resolved, relatedCache.get? name = some resolved →
      resolve db name ctx = .ok resolved)
    (hrow : ∀ f, Unmapped target.document f →
      f ∈ [feature.targetField, feature.relatedFkFieldOnTarget].filterMap given →
      targetRow.value f = none)
    (hneeds : NeedsUnmapped db ctx target.document feature)
    (hderive : feature.derive ≠ some "loading_start_delay_minutes")
    (h : featureOutcome env db ctx pool relatedCache targetRow predictionTime feature =
      .ok outcome) : outcome.raw = none := by
  unfold featureOutcome at h
  cases hneeds with
  | onTarget f hkind hfield hunmapped =>
    rw [if_pos hkind] at h
    obtain ⟨g, hg, hgiven⟩ := given_of_truthy (feature.target_field hkind)
    obtain rfl : f = g := Option.some.inj (hfield.symm.trans hg)
    exact targetOutcome_unmapped hfield (hrow f hunmapped (by simp [hgiven])) hderive h
  | join f hkind hfield hunmapped =>
    rw [if_neg hkind] at h
    obtain ⟨name, hname, -⟩ := given_of_truthy (feature.related_fields hkind).1
    obtain ⟨g, hg, hgiven⟩ := given_of_truthy (feature.related_fields hkind).2
    obtain rfl : f = g := Option.some.inj (hfield.symm.trans hg)
    exact relatedOutcome_join hname hfield (hrow f hunmapped (by simp [hgiven])) h
  | entity name hkind hentity hresolve =>
    rw [if_neg hkind] at h
    obtain ⟨f, hf, -⟩ := given_of_truthy (feature.related_fields hkind).2
    refine relatedOutcome_unresolved hentity hf ?_ h
    cases hfound : (relatedCache.get? name).getD none with
    | none => rfl
    | some found =>
      have hr := resolve_of_cached hcache hfound
      rw [hresolve] at hr
      cases hr
  | recipe name related f hkind hentity hresolve hfield hunmapped =>
    rw [if_neg hkind] at h
    obtain ⟨join, hjoin, -⟩ := given_of_truthy (feature.related_fields hkind).2
    refine relatedOutcome_recipe hentity hjoin (fun found hfound => ?_) hfield hunmapped hderive h
    have hr := resolve_of_cached hcache hfound
    rw [hresolve] at hr
    exact (Option.some.inj (Except.ok.inj hr)).symm

end

/-! ## The loop over the features -/

variable {outcomeOf : FeatureSpec → Except PyError Outcome} {extracted extracted' : Extracted}

theorem recorded_features {std : Stdlib} {feature : FeatureSpec} {outcome : Outcome}
    (h : recorded std extracted feature outcome = .ok extracted') :
    ∃ value, Features.normalize std feature outcome.raw = .ok value ∧
      extracted'.features = extracted.features.set feature.name value := by
  obtain ⟨value, hvalue, h⟩ := except_bind_ok.1 h
  cases h
  exact ⟨value, hvalue, rfl⟩

theorem features_kept {std : Stdlib} {name : String} {features : List FeatureSpec}
    (hname : name ∉ features.map (·.name))
    (h : features.foldlM (fun extracted feature => do
      recorded std extracted feature (← outcomeOf feature)) extracted = .ok extracted') :
    extracted'.features.get? name = extracted.features.get? name := by
  refine except_foldlM_ok (P := fun e => e.features.get? name = extracted.features.get? name)
    (fun e feature e' hmem he hstep => ?_) rfl h
  obtain ⟨outcome, -, hrecorded⟩ := except_bind_ok.1 hstep
  obtain ⟨value, -, hfeatures⟩ := recorded_features hrecorded
  rw [hfeatures, Keyed.Dict.get?_set, if_neg, he]
  rintro rfl
  exact hname (List.mem_map.2 ⟨feature, hmem, rfl⟩)

/-- The value of a feature is its own, whatever is before it; a later feature of the same name would
replace it. -/
theorem feature_recorded {std : Stdlib} {feature : FeatureSpec} {before after : List FeatureSpec}
    (hlast : feature.name ∉ after.map (·.name))
    (h : (before ++ feature :: after).foldlM (fun extracted feature => do
      recorded std extracted feature (← outcomeOf feature)) extracted = .ok extracted') :
    ∃ outcome value, outcomeOf feature = .ok outcome ∧
      Features.normalize std feature outcome.raw = .ok value ∧
      extracted'.features.get? feature.name = some value := by
  rw [List.foldlM_append] at h
  obtain ⟨e₁, -, h⟩ := except_bind_ok.1 h
  rw [List.foldlM_cons] at h
  obtain ⟨e₂, hstep, h⟩ := except_bind_ok.1 h
  obtain ⟨outcome, houtcome, hrecorded⟩ := except_bind_ok.1 hstep
  obtain ⟨value, hvalue, hfeatures⟩ := recorded_features hrecorded
  refine ⟨outcome, value, houtcome, hvalue, ?_⟩
  rw [features_kept hlast h, hfeatures, Keyed.Dict.get?_set, if_pos rfl]

/-- What a batch holds for each feature: its own outcome on one target row, brought to its data
type. -/
theorem extractOf_features {contract : FeatureContract} {businessReference : String}
    {predictionTime : DateTime} {batch : FeatureBatch}
    (h : extractOf env db ctx pool contract businessReference predictionTime = .ok batch) :
    ∃ target targetRow relatedCache,
      Features.resolveTarget db contract.targetEntity ctx = .ok target ∧
      (∀ f, Unmapped target.document f → f ∈ neededTargetFields contract →
        targetRow.value f = none) ∧
      (∀ name resolved, relatedCache.get? name = some resolved →
        resolve db name ctx = .ok resolved) ∧
      ∀ before feature after, contract.features = before ++ feature :: after →
        feature.name ∉ after.map (·.name) → ∃ outcome value,
          featureOutcome env db ctx pool relatedCache targetRow predictionTime feature =
            .ok outcome ∧
          Features.normalize env.std feature outcome.raw = .ok value ∧
          batch.features.get? feature.name = some value := by
  obtain ⟨target, htarget, h⟩ := except_bind_ok.1 h
  obtain ⟨p, -, h⟩ := except_bind_ok.1 h
  obtain ⟨engine, -, h⟩ := except_bind_ok.1 h
  obtain ⟨row, hrow, h⟩ := except_bind_ok.1 h
  obtain ⟨plan, hplan, hrow⟩ := except_bind_ok.1 hrow
  cases row with
  | none => cases h
  | some targetRow =>
    obtain ⟨relatedCache, hcache, h⟩ := except_bind_ok.1 h
    obtain ⟨extracted, hextracted, h⟩ := except_bind_ok.1 h
    obtain ⟨row, -, hvalues⟩ := targetRow_values hplan hrow
    refine ⟨target, targetRow, relatedCache, htarget, fun f hunmapped hf => ?_,
      fun _ _ => resolve_of_relatedCache hcache, fun before feature after hfeatures hlast => ?_⟩
    · have hvalue := hvalues f hf
      rw [valueUsed, resolveColumn_unmapped.2 hunmapped] at hvalue
      exact (Except.ok.inj hvalue).symm
    · rw [hfeatures] at hextracted
      obtain ⟨outcome, value, houtcome, hvalue, hget⟩ := feature_recorded hlast hextracted
      refine ⟨outcome, value, houtcome, hvalue, ?_⟩
      cases hversion : target.schemaMapping.activeVersionId with
      | none => rw [hversion] at h; cases h
      | some version =>
        rw [hversion] at h
        cases h
        exact hget

end

/-- When no needed field is static or derived, `extract` raises nothing about the mapping of a
field; each feature of the batch is computed on its own, and one that needs an unmapped field has
its missing value. -/
theorem degrades_to_missing (env : Environment) (db : ControlPlane) (ctx : TenantContext)
    (pool : PoolRegistry) (contract : FeatureContract) (businessReference : String)
    (predictionTime : DateTime) (hserver : ServerErrors env)
    (hfields : FieldsReadable db ctx contract) :
    (∀ e, (extract env db contract ctx businessReference predictionTime { pool }).1 = .error e →
      ¬FieldError e) ∧
    ∀ batch,
      (extract env db contract ctx businessReference predictionTime { pool }).1 = .ok batch →
      ∃ target targetRow relatedCache,
        Features.resolveTarget db contract.targetEntity ctx = .ok target ∧
        ∀ before feature after, contract.features = before ++ feature :: after →
          feature.name ∉ after.map (·.name) → ∃ outcome value,
            featureOutcome env db ctx pool relatedCache targetRow predictionTime feature =
              .ok outcome ∧
            Features.normalize env.std feature outcome.raw = .ok value ∧
            batch.features.get? feature.name = some value ∧
            (NeedsUnmapped db ctx target.document feature →
              feature.derive ≠ some "loading_start_delay_minutes" →
              value = missingValue feature) := by
  have hcomputes : (extract env db contract ctx businessReference predictionTime { pool }).1 =
      extractOf env db ctx pool contract businessReference predictionTime :=
    (extract_computes contract businessReference predictionTime _ onRoutes_start).2
  rw [hcomputes]
  refine ⟨extractOf_noFieldError hserver hfields businessReference predictionTime,
    fun batch hbatch => ?_⟩
  obtain ⟨target, targetRow, relatedCache, htarget, hrow, hcache, hfeatures⟩ :=
    extractOf_features hbatch
  refine ⟨target, targetRow, relatedCache, htarget, fun before feature after hsplit hlast => ?_⟩
  obtain ⟨outcome, value, houtcome, hvalue, hget⟩ := hfeatures before feature after hsplit hlast
  refine ⟨outcome, value, houtcome, hvalue, hget, fun hneeds hderive => ?_⟩
  have hraw : outcome.raw = none := by
    refine featureOutcome_unmapped hcache (fun f hunmapped hf => hrow f hunmapped ?_) hneeds
      hderive houtcome
    refine List.mem_flatMap.2 ⟨feature, by simp [hsplit], ?_⟩
    simp only [List.mem_filterMap, List.mem_cons, List.not_mem_nil, or_false] at hf ⊢
    obtain ⟨field, hfield | hfield, hgiven⟩ := hf
    · exact ⟨field, .inl hfield, hgiven⟩
    · exact ⟨field, .inr (.inr hfield), hgiven⟩
  rw [hraw, normalize_none] at hvalue
  exact (Except.ok.inj hvalue).symm

namespace Sample

open HermesRpt.Sample (std ctx plain isIdentifier_in_use)

/-- Two features of a vehicle, of which the document has no odometer. -/
def vehicleContract : FeatureContract where
  taskKey := "vehicles"
  version := "1"
  targetEntity := "Vehicle"
  features := [Features.Sample.odometer, Features.Sample.hasPlate]

theorem resolveTarget_served {target : ResolvedMapping}
    (h : Features.resolveTarget served "Vehicle" ctx = .ok target) :
    target = ⟨active 30 1 "Vehicle", HermesRpt.Sample.document⟩ :=
  (Except.ok.inj h).symm

theorem noRelated_vehicleContract :
    ∀ feature ∈ vehicleContract.features, feature.relatedEntity = none := by
  simp [vehicleContract, Features.Sample.odometer, Features.Sample.hasPlate]

theorem fieldsReadable_served : FieldsReadable served ctx vehicleContract where
  identity target h := by
    rw [resolveTarget_served h]
    exact ⟨"vehicle_id", rfl, rfl⟩
  target target h f hf := by
    rw [resolveTarget_served h]
    simp [neededTargetFields, vehicleContract, given, Features.Sample.odometer,
      Features.Sample.hasPlate] at hf
    rcases hf with ⟨rfl, -⟩ | ⟨rfl, -⟩
    · exact .inl rfl
    · exact .inr rfl
  related feature hmem name related hname := by
    rw [noRelated_vehicleContract feature hmem] at hname
    cases hname
  recency feature hmem name related hname := by
    rw [noRelated_vehicleContract feature hmem] at hname
    cases hname

theorem serverErrors_env : ServerErrors env := by
  intro engine schemaName table relation select e hr he
  simp only [env] at hr
  split at hr
  · cases hr
    cases he
  · cases hr

/-- The plate by a constant instead of a column. -/
def constantPlate : MappingDocument :=
  { HermesRpt.Sample.document with
    fields := ⟨[("registration_number", { sources := [{ static := some (.str "REG-STATIC") }] }),
      ("is_active", plain "in_use" isIdentifier_in_use)], by decide⟩ }

def servedConstant : ControlPlane :=
  { served with versions := ⟨[version constantPlate], by decide⟩ }

end Sample

theorem degrades_to_missing_sample :
    (∀ e, (extract Sample.env Sample.served Sample.vehicleContract HermesRpt.Sample.ctx "v1" ⟨0, 0⟩
        { pool := Keyed.Table.empty }).1 = .error e → ¬FieldError e) ∧
      ((extract Sample.env Sample.served Sample.vehicleContract HermesRpt.Sample.ctx "v1" ⟨0, 0⟩
          { pool := Keyed.Table.empty }).1.map fun batch =>
        (batch.features.get? "odometer_km", batch.features.get? "has_plate")) =
          .ok (some (some (.int 0)), some (some (.bool true))) := by
  have h := degrades_to_missing Sample.env Sample.served HermesRpt.Sample.ctx Keyed.Table.empty
    Sample.vehicleContract "v1" ⟨0, 0⟩ Sample.serverErrors_env Sample.fieldsReadable_served
  exact ⟨h.1, by decide +kernel⟩

/-- A validated document with a constant for a field: the extraction stops at it, although the
target row is there. -/
theorem constant_stops_extraction :
    validateMappingDocument HermesRpt.Sample.std Sample.constantPlate Ontology.V1.vehicle
        (some ["vehicle_no", "plate", "in_use"]) none none = .ok () ∧
      (extract Sample.env Sample.servedConstant Sample.contract HermesRpt.Sample.ctx "v1" ⟨0, 0⟩
        { pool := Keyed.Table.empty }).1.map (fun _ => ()) =
          .error (notDirectlyMapped "registration_number") := by
  exact ⟨by decide +kernel, by decide +kernel⟩

end Extraction

end HermesRpt
