import HermesRpt.Extraction.Outcome
import HermesRpt.Extraction.Queries

/-!
# HermesRpt.Extraction.FieldErrors

The errors a field without a column could cause. When the fields that a contract needs are readable,
`extract` raises none of them.

* `FieldError`     : the mapping error of `resolve_column`, and the assertions.
* `FieldsReadable` : no needed field is static or derived, and a recency has its timestamp.
-/

namespace HermesRpt

namespace Extraction

open Effect Connectors Schemas Mappings Features
open Keyed (Dict)

/-- `ColumnNotDirectlyMappedError`, or an assertion of the code. -/
def FieldError (e : PyError) : Prop :=
  e.cls = .ColumnNotDirectlyMappedError ∨ e.cls = .AssertionError

instance (e : PyError) : Decidable (FieldError e) := inferInstanceAs (Decidable (_ ∨ _))

/-- Nothing about the mapping of a field is raised. -/
abbrev NoFieldError {α : Type} (r : Except PyError α) : Prop := RaisesOnly (fun e => ¬FieldError e) r

/-- What a customer database raises is a database error. -/
def ServerErrors (env : Environment) : Prop :=
  ∀ engine schemaName table relation select e,
    (env.world engine).relation schemaName table = some relation →
    relation.refuses select = some e → e.cls = .DatabaseError

/-- No field the contract needs is static or derived: the target's identity is one column, each
other field has a column or is not mapped, and the timestamp of a recency has a column. -/
structure FieldsReadable (db : ControlPlane) (ctx : TenantContext) (contract : FeatureContract) :
    Prop where
  identity : ∀ target, Features.resolveTarget db contract.targetEntity ctx = .ok target →
    HasIdentity target.document
  target : ∀ target, Features.resolveTarget db contract.targetEntity ctx = .ok target →
    ∀ f ∈ neededTargetFields contract, Readable target.document f
  related : ∀ feature ∈ contract.features, ∀ name related,
    feature.relatedEntity = some name → resolve db name ctx = .ok (some related) →
    ∀ f ∈ relatedFields feature, Readable related.document f
  recency : ∀ feature ∈ contract.features, ∀ name related,
    feature.relatedEntity = some name → resolve db name ctx = .ok (some related) →
    feature.kind = .RELATED_RECENCY_DAYS →
    ∀ f, feature.relatedTimestampField = some f → Mapped related.document f

section

variable {env : Environment} {db : ControlPlane} {ctx : TenantContext} {pool : PoolRegistry}

/-! ## Errors that are not about a field -/

theorem require_noFieldError {ρ : Type} [Keyed.HasKey ρ Uuid] [Stored ρ] (id : Uuid) :
    NoFieldError (require ρ db id ctx) := by
  unfold require
  cases (get db id ctx : Option ρ) with
  | none => exact .error (by simp [FieldError, notFound])
  | some entity => exact .ok entity

theorem resolve_noFieldError (name : String) : NoFieldError (resolve db name ctx) := by
  unfold resolve
  refine RaisesOnly.bind ?_ fun found _ => ?_
  · unfold getActiveByEntityName
    split
    · exact .ok none
    · exact .ok _
    · exact .error (by decide)
  · cases found with
    | none => exact .ok none
    | some mapping =>
      dsimp only
      split
      · split
        · exact .ok none
        · exact .ok _
      · exact .ok none

theorem resolveTarget_noFieldError (name : String) :
    NoFieldError (Features.resolveTarget db name ctx) := by
  refine (resolve_noFieldError name).bind fun resolved _ => ?_
  cases resolved with
  | none => exact .error (by simp [FieldError, targetMappingUnavailable])
  | some resolved => exact .ok resolved

theorem connectionAndSnapshotFor_noFieldError (resolved : ResolvedMapping) :
    NoFieldError (connectionAndSnapshotFor db resolved ctx) :=
  (require_noFieldError _).bind fun _ _ => (require_noFieldError _).bind fun _ _ => .ok _

theorem routeOf_noFieldError (connectionId : Uuid) :
    NoFieldError (routeOf env db ctx pool connectionId) := by
  unfold routeOf getOrCreateEngine
  refine RaisesOnly.bind ((require_noFieldError _).bind fun connection _ => ?_) fun r _ => .ok _
  split
  · exact .error (by simp [FieldError])
  · refine RaisesOnly.bind ((require_noFieldError _).bind fun credential _ => ?_) fun _ _ => .ok _
    cases env.secrets credential.referenceKey with
    | none => exact .error (by simp [FieldError, secretNotFound])
    | some password => exact .ok _

theorem checkAllowlisted_noFieldError (document : MappingDocument)
    (connection : CustomerDatabaseConnection) :
    NoFieldError (checkAllowlisted document connection) := by
  unfold checkAllowlisted assertObjectAllowed
  split
  · exact .error (by simp [FieldError, disallowedObject])
  · split
    · exact .error (by simp [FieldError, disallowedObject])
    · exact .ok ()

theorem coerceDatetime_noFieldError (std : Stdlib) (value : Option Value) :
    NoFieldError (coerceDatetime std value) := by
  unfold coerceDatetime
  split
  · exact .ok none
  · refine RaisesOnly.bind ?_ fun t _ => .ok _
    unfold parseDatetime
    split
    · exact .ok _
    · exact .error (by simp [FieldError])
  · exact .ok _
  · exact .error (by simp [FieldError])

theorem applyDerive_noFieldError (std : Stdlib) (name : String) (value secondary : Option Value)
    (predictionTime : DateTime) :
    NoFieldError (applyDerive std name value secondary predictionTime) := by
  have hcoerced (fn : Option DateTime → Option DateTime → Option Value) :
      NoFieldError (do
        let value ← coerceDatetime std value
        let secondary ← coerceDatetime std secondary
        return fn value secondary) :=
    (coerceDatetime_noFieldError std value).bind fun _ _ =>
      (coerceDatetime_noFieldError std secondary).bind fun _ _ => .ok _
  unfold applyDerive
  dsimp only
  split
  · exact hcoerced _
  · exact hcoerced _
  · exact hcoerced _
  · exact hcoerced _
  · exact .error (by simp [FieldError])

theorem normalize_noFieldError (std : Stdlib) (feature : FeatureSpec) (raw : Option Value) :
    NoFieldError (Features.normalize std feature raw) := by
  unfold Features.normalize
  cases raw with
  | none => exact .ok _
  | some v =>
    dsimp only
    cases feature.dataType with
    | INTEGER =>
      refine RaisesOnly.bind ?_ fun n _ => .ok _
      unfold Value.toInt
      split <;> first | exact .ok _ | skip
      · split
        · exact .ok _
        · exact .error (by simp [FieldError])
      · exact .error (by simp [FieldError])
    | FLOAT =>
      refine RaisesOnly.bind ?_ fun x _ => .ok _
      unfold Value.toFloat
      split
      · exact .ok _
      · split
        · exact .ok _
        · exact .error (by simp [FieldError])
      · exact .error (by simp [FieldError])
    | BOOLEAN => exact .ok _

/-- What is asked of a server raises its errors, and those of the answer. -/
theorem ask_noFieldError {α : Type} (hserver : ServerErrors env) (engine : Engine)
    (select : Sql.Select Value)
    {answer : Sql.Comparison Value → List (Sql.Row Value) → Except PyError α}
    (hanswer : ∀ compare rows, NoFieldError (answer compare rows)) :
    NoFieldError (Plan.result (env.world engine) (.ask select answer)) := by
  refine RaisesOnly.bind ?_ fun rows _ => hanswer _ rows
  unfold CustomerDatabase.run
  cases hr : (env.world engine).relation select.schemaName select.table with
  | none => exact .error (by decide)
  | some relation =>
    dsimp only
    cases he : relation.refuses select with
    | none => exact .ok _
    | some e =>
      have hcls := hserver engine _ _ relation select e hr he
      exact .error (by simp [FieldError, hcls])

/-! ## Fields that can be read -/

theorem targetRow_noFieldError (hserver : ServerErrors env) (engine : Engine)
    {document : MappingDocument} (connection : CustomerDatabaseConnection) (reference : String)
    {fields : List String} (hid : HasIdentity document)
    (hfields : ∀ f ∈ fields, Readable document f) :
    NoFieldError (targetRowPlan env.std document reference fields connection >>=
      Plan.result (env.world engine)) := by
  obtain ⟨identity, hidentity⟩ := identityColumn_iff.1 hid
  obtain ⟨columns, hcolumns⟩ := addColumns_of_readable (Dict.ofList [identity])
    fun f hf => hfields f ((env.std.mem_setOrder _ _).1 hf)
  refine RaisesOnly.bind ((checkAllowlisted_noFieldError document connection).bind fun _ _ => ?_)
    fun plan hplan => ?_
  · rw [hidentity]
    simp only [bind, Except.bind, hcolumns]
    exact .ok _
  · obtain ⟨-, _, columns', -, -, rfl⟩ := targetRowPlan_ok hplan
    exact ask_noFieldError hserver engine _ fun _ _ => .ok _

theorem assertedColumn_readable {document : MappingDocument} {field : Option String} {f : String}
    (hf : field = some f) (h : Readable document f) :
    assertedColumn document field = .ok (columnOf document f) := by
  rw [hf]
  exact resolveColumn_readable.1 h

theorem mem_relatedFields {feature : FeatureSpec} {f : String}
    (h : some f ∈ [feature.relatedFkFieldOnTarget, feature.relatedTimestampField,
      feature.relatedFilterField, feature.relatedValueField]) : f ∈ relatedFields feature :=
  List.mem_filterMap.2 ⟨some f, h, rfl⟩

/-- A recipe whose fields are readable asks for its value, or has none; only a recency has to parse
what it gets. -/
theorem recipePlan_noFieldError (hserver : ServerErrors env) (engine : Engine)
    {document : MappingDocument} {feature : FeatureSpec} (hkind : ¬feature.kind.onTarget)
    (hfields : ∀ f ∈ relatedFields feature, Readable document f)
    (hrecency : feature.kind = .RELATED_RECENCY_DAYS →
      ∀ f, feature.relatedTimestampField = some f → Mapped document f)
    (conditions : List (Sql.Condition Value)) (predictionTime : DateTime) :
    NoFieldError (recipePlan env.std feature document conditions
      ((given feature.relatedTimestampField).bind (columnOf document)) predictionTime >>=
        Plan.result (env.world engine)) := by
  cases hk : feature.kind with
  | RELATED_COUNT =>
    have hread : ∀ f v, given feature.relatedFilterField = some f →
        feature.relatedFilterEquals = some v → Readable document f := fun f v hf _ =>
      hfields f (mem_relatedFields (by simp [given_eq_some hf]))
    have hfilter := filterCondition_iff.2 ⟨hread, rfl⟩
    rw [recipePlan_iff.2 (.count _ hk hfilter), except_ok_bind]
    exact ask_noFieldError hserver engine _ fun _ _ => .ok _
  | RELATED_RATIO =>
    obtain ⟨hfield, hvalue⟩ := feature.filter_field hk
    obtain ⟨f, hf⟩ := Option.isSome_iff_exists.1 hfield
    obtain ⟨v, hv⟩ := Option.isSome_iff_exists.1 hvalue
    have hasserted := assertedColumn_readable hf (hfields f (mem_relatedFields (by simp [hf])))
    cases hc : columnOf document f with
    | none =>
      rw [recipePlan_iff.2 (.unfiltered hk (by rw [hasserted, hc])), except_ok_bind]
      exact .ok none
    | some c =>
      rw [recipePlan_iff.2 (.ratio c v hk (by rw [hasserted, hc]) hv), except_ok_bind]
      exact ask_noFieldError hserver engine _ fun _ _ => .ok _
  | RELATED_RECENCY_DAYS =>
    obtain ⟨f, hf, hgiven⟩ := given_of_truthy (feature.timestamp_field hkind (.inl hk))
    obtain ⟨c, hc⟩ := Option.isSome_iff_exists.1 (hrecency hk f hf)
    rw [recipePlan_iff.2 (.recency c hk (by rw [hgiven, Option.bind_some, hc])), except_ok_bind]
    refine ask_noFieldError hserver engine _ fun _ _ => ?_
    refine RaisesOnly.bind (coerceDatetime_noFieldError _ _) fun latest _ => ?_
    cases latest <;> exact .ok _
  | RELATED_LATEST_VALUE =>
    obtain ⟨f, hf⟩ := Option.isSome_iff_exists.1 (feature.value_field hk)
    have hasserted := assertedColumn_readable hf (hfields f (mem_relatedFields (by simp [hf])))
    cases hc : columnOf document f with
    | none =>
      rw [recipePlan_iff.2 (.valueless hk (by rw [hasserted, hc])), except_ok_bind]
      exact .ok none
    | some c =>
      rw [recipePlan_iff.2 (.latest c hk (by rw [hasserted, hc])), except_ok_bind]
      exact ask_noFieldError hserver engine _ fun _ _ => .ok _
  | DIRECT_FIELD => rw [hk] at hkind; exact absurd rfl hkind
  | DERIVED_FROM_TARGET => rw [hk] at hkind; exact absurd rfl hkind

theorem timeConditions_noFieldError (feature : FeatureSpec) (time : Option String)
    (predictionTime : DateTime) : NoFieldError (timeConditions feature time predictionTime) := by
  unfold timeConditions
  cases time with
  | none => exact .ok []
  | some column =>
    refine RaisesOnly.bind ?_ fun window _ => ?_
    · unfold enforceWindowLimit
      split
      · split
        · exact .error (by simp [FieldError])
        · exact .ok _
      · exact .ok none
    · cases window <;> exact .ok _

theorem relatedFeature_noFieldError (hserver : ServerErrors env) (engine : Engine)
    {document : MappingDocument} {feature : FeatureSpec} (hkind : ¬feature.kind.onTarget)
    (hfields : ∀ f ∈ relatedFields feature, Readable document f)
    (hrecency : feature.kind = .RELATED_RECENCY_DAYS →
      ∀ f, feature.relatedTimestampField = some f → Mapped document f)
    (joinValue : Value) (predictionTime : DateTime) (connection : CustomerDatabaseConnection) :
    NoFieldError (relatedFeaturePlan env.std feature document joinValue predictionTime connection >>=
      Plan.result (env.world engine)) := by
  obtain ⟨f, hf, -⟩ := given_of_truthy (feature.related_fields hkind).2
  have htime : timestampColumn document feature.relatedTimestampField = .ok _ :=
    timestampColumn_iff.2
      ⟨fun g hg => hfields g (mem_relatedFields (by simp [given_eq_some hg])), rfl⟩
  unfold relatedFeaturePlan
  rw [bind_assoc]
  refine (checkAllowlisted_noFieldError document connection).bind fun _ _ => ?_
  rw [assertedColumn_readable hf (hfields f (mem_relatedFields (by simp [hf])))]
  cases columnOf document f with
  | none => exact .ok none
  | some joinColumn =>
    simp only [htime, except_ok_bind, bind_assoc]
    refine RaisesOnly.bind ?_ fun times _ =>
      recipePlan_noFieldError hserver engine hkind hfields hrecency _ predictionTime
    exact timeConditions_noFieldError _ _ _

/-! ## The call -/

variable {contract : FeatureContract}

theorem targetOutcome_noFieldError (std : Stdlib) {feature : FeatureSpec}
    (hkind : feature.kind.onTarget) (targetRow : FieldRow) (predictionTime : DateTime) :
    NoFieldError (targetOutcome std feature targetRow predictionTime) := by
  obtain ⟨f, hf, -⟩ := given_of_truthy (feature.target_field hkind)
  unfold targetOutcome
  rw [hf]
  dsimp only
  split
  · rename_i hderived
    obtain ⟨d, hd, -⟩ := given_of_truthy (feature.derive_named hderived)
    rw [hd]
    exact (applyDerive_noFieldError std d _ _ predictionTime).bind fun _ _ => .ok _
  · exact .ok _

/-- A cache that is filled name by name holds what each name gives. -/
theorem resolved_of_cache (resolved : String → Except PyError (Option ResolvedMapping))
    {names : List String} {cache : Dict String (Option ResolvedMapping)}
    (h : names.foldlM (fun cache name => do return Keyed.Dict.set cache name (← resolved name))
      Keyed.Table.empty = .ok cache) {name : String} {found : Option ResolvedMapping}
    (hget : cache.get? name = some found) : resolved name = .ok found := by
  have hall := except_foldlM_ok (P := fun cache : Dict String (Option ResolvedMapping) =>
    ∀ name found, cache.get? name = some found → resolved name = .ok found)
    (fun cache n cache' _ hcache hstep name found hget => ?_) ?_ h
  · exact hall name found hget
  · obtain ⟨r, hr, hstep⟩ := except_bind_ok.1 hstep
    cases hstep
    rw [Keyed.Dict.get?_set] at hget
    split at hget
    · rename_i heq
      cases hget
      rw [heq, hr]
    · exact hcache name found hget
  · intro name found hget
    cases hget

/-- What the cache of a call holds is what the resolver gives. -/
theorem resolve_of_relatedCache {std : Stdlib} {relatedCache : Dict String (Option ResolvedMapping)}
    (h : resolveRelatedEntities std db contract ctx = .ok relatedCache) {name : String}
    {resolved : Option ResolvedMapping} (hget : relatedCache.get? name = some resolved) :
    resolve db name ctx = .ok resolved :=
  resolved_of_cache (fun name => resolve db name ctx) h hget

theorem resolve_of_cached {relatedCache : Dict String (Option ResolvedMapping)}
    (hcache : ∀ name resolved, relatedCache.get? name = some resolved →
      resolve db name ctx = .ok resolved) {name : String} {related : ResolvedMapping}
    (h : (relatedCache.get? name).getD none = some related) :
    resolve db name ctx = .ok (some related) := by
  cases hget : relatedCache.get? name with
  | none => rw [hget] at h; cases h
  | some resolved =>
    rw [hget, Option.getD_some] at h
    rw [← h]
    exact hcache name resolved hget

theorem relatedOutcome_noFieldError (hserver : ServerErrors env)
    (hfields : FieldsReadable db ctx contract) {feature : FeatureSpec}
    (hmem : feature ∈ contract.features) (hkind : ¬feature.kind.onTarget)
    {relatedCache : Dict String (Option ResolvedMapping)}
    (hcache : ∀ name resolved, relatedCache.get? name = some resolved →
      resolve db name ctx = .ok resolved) (targetRow : FieldRow) (predictionTime : DateTime) :
    NoFieldError
      (relatedOutcome env db ctx pool relatedCache targetRow predictionTime feature) := by
  obtain ⟨hentity, hjoin⟩ := feature.related_fields hkind
  obtain ⟨name, hname, -⟩ := given_of_truthy hentity
  obtain ⟨f, hf, -⟩ := given_of_truthy hjoin
  unfold relatedOutcome
  rw [hname, hf]
  dsimp only
  split
  · rename_i related version hrelated hversion
    cases htarget : targetRow.value f with
    | none => exact .ok _
    | some joinValue =>
      have hresolve := resolve_of_cached hcache hrelated
      refine (connectionAndSnapshotFor_noFieldError _).bind fun p _ => ?_
      refine (routeOf_noFieldError _).bind fun engine _ => ?_
      refine RaisesOnly.bind (relatedFeature_noFieldError hserver engine hkind
        (hfields.related feature hmem name related hname hresolve)
        (hfields.recency feature hmem name related hname hresolve) _ _ _) fun raw _ => ?_
      refine RaisesOnly.bind ?_ fun _ _ => .ok _
      unfold deriveRelated
      cases feature.derive with
      | none => exact .ok raw
      | some derive => exact applyDerive_noFieldError _ _ _ _ _
  · exact .ok _

theorem extractOf_noFieldError (hserver : ServerErrors env)
    (hfields : FieldsReadable db ctx contract) (businessReference : String)
    (predictionTime : DateTime) :
    NoFieldError (extractOf env db ctx pool contract businessReference predictionTime) := by
  unfold extractOf
  refine (resolveTarget_noFieldError _).bind fun target htarget => ?_
  refine (connectionAndSnapshotFor_noFieldError _).bind fun p _ => ?_
  refine (routeOf_noFieldError _).bind fun engine _ => ?_
  refine (targetRow_noFieldError hserver engine p.1 businessReference
    (hfields.identity target htarget) (hfields.target target htarget)).bind fun row _ => ?_
  cases row with
  | none => exact .error (by simp [FieldError, targetRowNotFound])
  | some targetRow =>
    refine RaisesOnly.bind ?_ fun relatedCache hcache => ?_
    · exact RaisesOnly.foldlM (fun related name _ =>
        (resolve_noFieldError name).bind fun _ _ => .ok _) _
    refine RaisesOnly.bind ?_ fun extracted _ => ?_
    · refine RaisesOnly.foldlM (fun extracted feature hmem => ?_) _
      refine RaisesOnly.bind ?_ fun outcome _ =>
        (normalize_noFieldError _ _ _).bind fun _ _ => .ok _
      unfold featureOutcome
      split
      · rename_i hkind
        exact targetOutcome_noFieldError _ hkind _ _
      · rename_i hkind
        exact relatedOutcome_noFieldError hserver hfields hmem hkind
          (fun _ _ => resolve_of_relatedCache hcache) _ _
    · obtain ⟨resolved, hresolved, htarget⟩ := except_bind_ok.1 htarget
      cases resolved with
      | none => cases htarget
      | some resolved =>
        cases htarget
        obtain ⟨version, -, -, hversion, -⟩ := resolve_some hresolved
        rw [hversion]
        exact .ok _

end

end Extraction

end HermesRpt
