import HermesRpt.Extraction.Degradation

/-!
# HermesRpt.Extraction.MissingLineage

Which features a batch lists as missing. A feature that is skipped is always listed; one that comes
back without a value only if it is required.

* `noRawValue`      : the feature has no value, so that its missing value is filled in.
* `ComesBackEmpty`  : the feature is asked for, and has no value.
* `reported`        : the feature is listed.
-/

namespace HermesRpt

namespace Extraction

open Effect Connectors Mappings Features
open Keyed (Dict)

/-- What the features of a call are computed from: the target row and the related mappings. -/
def readsOf (env : Environment) (db : ControlPlane) (ctx : TenantContext) (pool : PoolRegistry)
    (contract : FeatureContract) (businessReference : String) :
    Except PyError (FieldRow × Dict String (Option ResolvedMapping)) := do
  let target ← Features.resolveTarget db contract.targetEntity ctx
  let (connection, _) ← connectionAndSnapshotFor db target ctx
  let engine ← routeOf env db ctx pool connection.id
  let row ← targetRowPlan env.std target.document businessReference (neededTargetFields contract)
    connection >>= Plan.result (env.world engine)
  match row with
  | none => .error (targetRowNotFound contract businessReference)
  | some targetRow => return (targetRow, ← resolveRelatedEntities env.std db contract ctx)

section

variable (env : Environment) (db : ControlPlane) (ctx : TenantContext) (pool : PoolRegistry)
  (relatedCache : Dict String (Option ResolvedMapping)) (targetRow : FieldRow)
  (predictionTime : DateTime)

def noRawValue (feature : FeatureSpec) : Bool :=
  match featureOutcome env db ctx pool relatedCache targetRow predictionTime feature with
  | .ok outcome => outcome.raw.isNone
  | .error _ => false

/-- The feature is listed as missing. -/
def reported (feature : FeatureSpec) : Bool :=
  match featureOutcome env db ctx pool relatedCache targetRow predictionTime feature with
  | .ok outcome => (outcome.reason feature).isSome
  | .error _ => false

/-- The field is null on the target row, the derivation gives nothing, or the query of a related
entity with a mapping and a join value does. -/
inductive ComesBackEmpty (feature : FeatureSpec) : Prop where
  | direct (f : String) (hkind : feature.kind = .DIRECT_FIELD)
      (hfield : feature.targetField = some f) (hnull : targetRow.value f = none)
  | derived (f derive : String) (hkind : feature.kind = .DERIVED_FROM_TARGET)
      (hfield : feature.targetField = some f) (hderive : feature.derive = some derive)
      (hnull : applyDerive env.std derive (targetRow.value f)
        (((given feature.targetFieldSecondary).map targetRow.value).getD none) predictionTime =
          .ok none)
  | related (name fkField : String) (mapping : ResolvedMapping) (version : Uuid)
      (joinValue : Value) (p : CustomerDatabaseConnection × Schemas.SchemaSnapshot) (engine : Engine)
      (raw : Option Value) (hkind : ¬feature.kind.onTarget)
      (hentity : feature.relatedEntity = some name)
      (hfield : feature.relatedFkFieldOnTarget = some fkField)
      (hmapping : (relatedCache.get? name).getD none = some mapping)
      (hversion : mapping.schemaMapping.activeVersionId = some version)
      (hjoin : targetRow.value fkField = some joinValue)
      (hconnection : connectionAndSnapshotFor db mapping ctx = .ok p)
      (hengine : routeOf env db ctx pool p.1.id = .ok engine)
      (hraw : relatedFeaturePlan env.std feature mapping.document joinValue predictionTime p.1 >>=
        Plan.result (env.world engine) = .ok raw)
      (hnull : deriveRelated env.std feature raw predictionTime = .ok none)

end

section

variable {env : Environment} {db : ControlPlane} {ctx : TenantContext} {pool : PoolRegistry}
  {relatedCache : Dict String (Option ResolvedMapping)} {targetRow : FieldRow}
  {predictionTime : DateTime} {feature : FeatureSpec}

/-- A feature that comes back empty is one without a value that is not skipped. -/
theorem comesBackEmpty_iff :
    ComesBackEmpty env db ctx pool relatedCache targetRow predictionTime feature ↔
      ∃ outcome, featureOutcome env db ctx pool relatedCache targetRow predictionTime feature =
        .ok outcome ∧ outcome.skipped = none ∧ outcome.raw = none := by
  simp only [featureOutcome_iff]
  constructor
  · intro h
    cases h with
    | direct f hkind hfield hnull => exact ⟨_, .direct f hkind hfield, rfl, hnull⟩
    | derived f derive hkind hfield hderive hnull =>
      exact ⟨_, .derived f derive none hkind hfield hderive hnull, rfl, rfl⟩
    | related name fkField mapping version joinValue p engine raw hkind hentity hfield hmapping
        hversion hjoin hconnection hengine hraw hnull =>
      exact ⟨_, .asked name fkField mapping version joinValue p engine raw none hkind hentity hfield
        hmapping hversion hjoin hconnection hengine hraw hnull, rfl, rfl⟩
  · rintro ⟨outcome, h, hskipped, hnull⟩
    cases h with
    | direct f hkind hfield => exact .direct f hkind hfield hnull
    | derived f derive raw hkind hfield hderive happly =>
      obtain rfl : raw = none := hnull
      exact .derived f derive hkind hfield hderive happly
    | unmapped => cases hskipped
    | unjoined => cases hskipped
    | asked name fkField mapping version joinValue p engine raw value hkind hentity hfield hmapping
        hversion hjoin hconnection hengine hraw hvalue =>
      obtain rfl : value = none := hnull
      exact .related name fkField mapping version joinValue p engine raw hkind hentity hfield
        hmapping hversion hjoin hconnection hengine hraw hvalue

/-- A skipped feature has no value. -/
theorem raw_of_skipped {outcome : Outcome} {reason : String}
    (h : featureOutcome env db ctx pool relatedCache targetRow predictionTime feature = .ok outcome)
    (hskipped : outcome.skipped = some reason) : outcome.raw = none := by
  cases featureOutcome_iff.1 h with
  | unmapped => rfl
  | unjoined => rfl
  | direct => cases hskipped
  | derived => cases hskipped
  | asked => cases hskipped

/-- A feature is listed exactly if it has no value and does not come back empty while optional. -/
theorem reported_iff :
    reported env db ctx pool relatedCache targetRow predictionTime feature = true ↔
      noRawValue env db ctx pool relatedCache targetRow predictionTime feature = true ∧
        ¬(feature.required = false ∧
          ComesBackEmpty env db ctx pool relatedCache targetRow predictionTime feature) := by
  rw [comesBackEmpty_iff]
  unfold reported noRawValue
  cases h : featureOutcome env db ctx pool relatedCache targetRow predictionTime feature with
  | error e => simp
  | ok outcome =>
    cases hskipped : outcome.skipped with
    | some reason =>
      have hraw := raw_of_skipped h hskipped
      simp [Outcome.reason, hskipped, hraw]
    | none =>
      cases hraw : outcome.raw <;> cases hrequired : feature.required <;>
        simp [Outcome.reason, hskipped, hraw, hrequired]

theorem noRawValue_of_comesBackEmpty
    (h : ComesBackEmpty env db ctx pool relatedCache targetRow predictionTime feature) :
    noRawValue env db ctx pool relatedCache targetRow predictionTime feature = true := by
  obtain ⟨outcome, houtcome, -, hraw⟩ := comesBackEmpty_iff.1 h
  simp [noRawValue, houtcome, hraw]

/-! ## The list -/

/-- The loop lists the reported features in their order. -/
theorem missing_names {features : List FeatureSpec} {extracted extracted' : Extracted}
    (h : features.foldlM (fun extracted feature => do
      recorded env.std extracted feature (← featureOutcome env db ctx pool relatedCache targetRow
        predictionTime feature)) extracted = .ok extracted') :
    extracted'.missing.map (·.featureName) = extracted.missing.map (·.featureName) ++
      (features.filter (reported env db ctx pool relatedCache targetRow predictionTime)).map
        (·.name) := by
  induction features generalizing extracted with
  | nil =>
    cases h
    simp
  | cons feature features ih =>
    rw [List.foldlM_cons] at h
    obtain ⟨next, hstep, h⟩ := except_bind_ok.1 h
    obtain ⟨outcome, houtcome, hrecorded⟩ := except_bind_ok.1 hstep
    obtain ⟨value, -, hnext⟩ := except_bind_ok.1 hrecorded
    cases hnext
    rw [ih h]
    have hreported : reported env db ctx pool relatedCache targetRow predictionTime feature =
        (outcome.reason feature).isSome := by simp [reported, houtcome]
    cases hreason : outcome.reason feature <;> rw [hreason] at hreported <;>
      simp [hreported]

/-- The list of a successful call. -/
theorem extractOf_missing {contract : FeatureContract} {businessReference : String}
    {batch : FeatureBatch}
    (h : extractOf env db ctx pool contract businessReference predictionTime = .ok batch) :
    ∃ targetRow relatedCache,
      readsOf env db ctx pool contract businessReference = .ok (targetRow, relatedCache) ∧
      batch.lineage.missingFeatures.map (·.featureName) =
        (contract.features.filter
          (reported env db ctx pool relatedCache targetRow predictionTime)).map (·.name) := by
  obtain ⟨target, htarget, h⟩ := except_bind_ok.1 h
  obtain ⟨p, hp, h⟩ := except_bind_ok.1 h
  obtain ⟨engine, hengine, h⟩ := except_bind_ok.1 h
  obtain ⟨row, hrow, h⟩ := except_bind_ok.1 h
  cases row with
  | none => cases h
  | some targetRow =>
    obtain ⟨relatedCache, hcache, h⟩ := except_bind_ok.1 h
    obtain ⟨extracted, hextracted, h⟩ := except_bind_ok.1 h
    refine ⟨targetRow, relatedCache, ?_, ?_⟩
    · simp only [readsOf, htarget, hp, hengine, hrow, hcache, except_ok_bind]
      rfl
    · cases hversion : target.schemaMapping.activeVersionId with
      | none => rw [hversion] at h; cases h
      | some version =>
        rw [hversion] at h
        cases h
        simpa using missing_names hextracted

end

/-- A part of a filtered list is the whole only if it keeps every element. -/
theorem filter_map_eq_iff {α β : Type} {f : α → β} {p q : α → Bool} {l : List α}
    (h : ∀ a ∈ l, p a = true → q a = true) :
    (l.filter p).map f = (l.filter q).map f ↔ ∀ a ∈ l, q a = true → p a = true := by
  constructor
  · intro heq a ha hq
    have hsub : (l.filter p).Sublist (l.filter q) := by
      have hagain : l.filter p = (l.filter q).filter p := by
        rw [List.filter_filter]
        refine List.filter_congr fun a ha => ?_
        cases hp : p a with
        | false => rfl
        | true => rw [h a ha hp]; rfl
      rw [hagain]
      exact List.filter_sublist
    have hlength : (l.filter p).length = (l.filter q).length := by
      simpa using congrArg List.length heq
    have hmem : a ∈ l.filter p := by
      rw [hsub.eq_of_length hlength]
      exact List.mem_filter.2 ⟨ha, hq⟩
    exact (List.mem_filter.1 hmem).2
  · intro hall
    rw [List.filter_congr fun a ha => Bool.eq_iff_iff.2 ⟨h a ha, hall a ha⟩]

/-- The list names exactly the features without a value, each once, if and only if no optional
feature comes back empty. -/
theorem missing_features_iff (env : Environment) (db : ControlPlane) (ctx : TenantContext)
    (pool : PoolRegistry) (contract : FeatureContract) (businessReference : String)
    (predictionTime : DateTime) {batch : FeatureBatch}
    (h : (extract env db contract ctx businessReference predictionTime { pool }).1 = .ok batch) :
    ∃ targetRow relatedCache,
      readsOf env db ctx pool contract businessReference = .ok (targetRow, relatedCache) ∧
      (batch.lineage.missingFeatures.map (·.featureName) =
          (contract.features.filter
            (noRawValue env db ctx pool relatedCache targetRow predictionTime)).map (·.name) ↔
        ∀ feature ∈ contract.features, feature.required = false →
          ¬ComesBackEmpty env db ctx pool relatedCache targetRow predictionTime feature) := by
  have hcomputes : (extract env db contract ctx businessReference predictionTime { pool }).1 =
      extractOf env db ctx pool contract businessReference predictionTime :=
    (extract_computes contract businessReference predictionTime _ onRoutes_start).2
  rw [hcomputes] at h
  obtain ⟨targetRow, relatedCache, hreads, hmissing⟩ := extractOf_missing h
  refine ⟨targetRow, relatedCache, hreads, ?_⟩
  rw [hmissing, filter_map_eq_iff fun feature _ hreported => (reported_iff.1 hreported).1]
  constructor
  · intro hall feature hmem hoptional hempty
    have hreported := hall feature hmem (noRawValue_of_comesBackEmpty hempty)
    exact (reported_iff.1 hreported).2 ⟨hoptional, hempty⟩
  · intro hnone feature hmem hno
    exact reported_iff.2 ⟨hno, fun ⟨hoptional, hempty⟩ => hnone feature hmem hoptional hempty⟩

theorem missing_features_iff_sample :
    ∃ batch, (extract Sample.env Sample.served Sample.vehicleContract HermesRpt.Sample.ctx "v1"
        ⟨0, 0⟩ { pool := Keyed.Table.empty }).1 = .ok batch ∧
      ∃ targetRow relatedCache,
        readsOf Sample.env Sample.served HermesRpt.Sample.ctx Keyed.Table.empty
          Sample.vehicleContract "v1" = .ok (targetRow, relatedCache) ∧
        (batch.lineage.missingFeatures.map (·.featureName) =
            (Sample.vehicleContract.features.filter (noRawValue Sample.env Sample.served
              HermesRpt.Sample.ctx Keyed.Table.empty relatedCache targetRow ⟨0, 0⟩)).map (·.name) ↔
          ∀ feature ∈ Sample.vehicleContract.features, feature.required = false →
            ¬ComesBackEmpty Sample.env Sample.served HermesRpt.Sample.ctx Keyed.Table.empty
              relatedCache targetRow ⟨0, 0⟩ feature) := by
  obtain ⟨batch, h⟩ : ∃ batch, (extract Sample.env Sample.served Sample.vehicleContract
      HermesRpt.Sample.ctx "v1" ⟨0, 0⟩ { pool := Keyed.Table.empty }).1 = .ok batch := by
    have hok : (extract Sample.env Sample.served Sample.vehicleContract HermesRpt.Sample.ctx "v1"
        ⟨0, 0⟩ { pool := Keyed.Table.empty }).1.isOk = true := by decide +kernel
    cases hrun : (extract Sample.env Sample.served Sample.vehicleContract HermesRpt.Sample.ctx "v1"
        ⟨0, 0⟩ { pool := Keyed.Table.empty }).1 with
    | ok batch => exact ⟨batch, rfl⟩
    | error e =>
      rw [hrun] at hok
      cases hok
  exact ⟨batch, h, missing_features_iff _ _ _ _ _ _ _ h⟩

/-- A vehicle without an odometer mapping: the optional feature is filled with zero and the list is
empty. -/
theorem filled_not_listed :
    (extract Sample.env Sample.served Sample.vehicleContract HermesRpt.Sample.ctx "v1" ⟨0, 0⟩
        { pool := Keyed.Table.empty }).1.map (fun batch =>
      (batch.features.get? "odometer_km", batch.lineage.missingFeatures)) =
        .ok (some (some (.int 0)), []) ∧
      (readsOf Sample.env Sample.served HermesRpt.Sample.ctx Keyed.Table.empty
          Sample.vehicleContract "v1").map (fun p => Sample.vehicleContract.features.filter
            (noRawValue Sample.env Sample.served HermesRpt.Sample.ctx Keyed.Table.empty p.2 p.1
              ⟨0, 0⟩) |>.map (·.name)) = .ok ["odometer_km"] := by
  refine ⟨by decide +kernel, by decide +kernel⟩

end Extraction

end HermesRpt
