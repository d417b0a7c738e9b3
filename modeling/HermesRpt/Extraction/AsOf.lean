import HermesRpt.Extraction.Agreement
import HermesRpt.Extraction.FieldErrors
import HermesRpt.Extraction.Outcome
import HermesRpt.Extraction.OwnLabel

/-!
# HermesRpt.Extraction.AsOf

An extraction depends on the customer databases only as they stood at its prediction time, so that
one for a past trip gives at any later time what it gave then.

* `NotYet`        : a value of the target row that is missing or not before the instant.
* `TargetAsOf`    : two states of the target row that differ in nothing else, in such fields.
* `SameAsOf`      : two calls that reach the same tables, which agree as of the instant.
* `extract_as_of` : the two give the same.

A related table without a mapped time has no rows that are not yet there: of such a table the two
calls have to find the same.
-/

namespace HermesRpt

namespace Extraction

open Effect Connectors Mappings Features
open Keyed (Dict)

/-- A value is missing, or denotes no instant before `t`. -/
def NotYet (std : Stdlib) (t : DateTime) (v : ScalarValue) : Prop :=
  v = none ∨ ∃ instant, coerceValue std v = .ok (some (.datetime instant)) ∧ t ≤ instant

/-- A target field that is read for nothing but a delay before the prediction time. -/
def OnlyDelay (contract : FeatureContract) (f : String) : Prop :=
  ∀ feature ∈ contract.features,
    (feature.targetField = some f → feature.kind = .DERIVED_FROM_TARGET ∧
      feature.derive = some "loading_start_delay_minutes") ∧
    feature.targetFieldSecondary ≠ some f ∧ feature.relatedFkFieldOnTarget ≠ some f

instance (contract : FeatureContract) (f : String) : Decidable (OnlyDelay contract f) :=
  inferInstanceAs (Decidable (∀ feature ∈ contract.features,
    (feature.targetField = some f → feature.kind = .DERIVED_FROM_TARGET ∧
      feature.derive = some "loading_start_delay_minutes") ∧
    feature.targetFieldSecondary ≠ some f ∧ feature.relatedFkFieldOnTarget ≠ some f))

/-- The value of a target field in two states. -/
def ValueAsOf (std : Stdlib) (contract : FeatureContract) (t : DateTime) (f : String)
    (v w : ScalarValue) : Prop :=
  v = w ∨ OnlyDelay contract f ∧ NotYet std t v ∧ NotYet std t w

/-- The target row in two states. -/
def TargetAsOf (std : Stdlib) (document : MappingDocument) (contract : FeatureContract)
    (t : DateTime) (row₁ row₂ : Sql.Row Value) : Prop :=
  ∀ f ∈ neededTargetFields contract, ∀ c, columnOf document f = some c →
    ValueAsOf std contract t f (row₁ c) (row₂ c)

/-- The target row as it is fetched. -/
def FetchedAsOf (std : Stdlib) (contract : FeatureContract) (t : DateTime)
    (row₁ row₂ : FieldRow) : Prop :=
  ∀ f ∈ neededTargetFields contract, ValueAsOf std contract t f (row₁.value f) (row₂.value f)

/-- A row of a related table in two states: what the feature names is the same. -/
def RelatedAsOf (document : MappingDocument) (feature : FeatureSpec)
    (row₁ row₂ : Sql.Row Value) : Prop :=
  ∀ c, OfFeature document feature c → row₁ c = row₂ c

/-- The row is before the instant, where its time is mapped. -/
def beforeInstant (compare : Sql.Comparison Value) (timeColumn : Option String) (t : DateTime)
    (row : Sql.Row Value) : Bool :=
  timeColumn.all fun column => Sql.Condition.holds compare ⟨column, .lt, .datetime t⟩ row

/-- A table in two states: the rows that are kept correspond. -/
def SameTable (keep : Sql.Row Value → Bool) (R : Sql.Row Value → Sql.Row Value → Prop)
    (source : SourceTable) (database₁ database₂ : CustomerDatabase) : Prop :=
  Option.Rel (fun r₁ r₂ => r₁.refuses = r₂.refuses ∧
      List.Forall₂ R (r₁.rows.filter keep) (r₂.rows.filter keep))
    (database₁.relation source.schemaName source.table)
    (database₂.relation source.schemaName source.table)

/-- An entity that the contract is about. -/
def Names (contract : FeatureContract) (name : String) : Prop :=
  name = contract.targetEntity ∨ ∃ feature ∈ contract.features, feature.relatedEntity = some name

/-- The mapping of an entity, with the connection and the engine that a call reaches through it. -/
structure Reaches (env : Environment) (db : ControlPlane) (ctx : TenantContext)
    (pool : PoolRegistry) (name : String) (found : ResolvedMapping)
    (p : CustomerDatabaseConnection × Schemas.SchemaSnapshot) (engine : Engine) : Prop where
  mapping : resolve db name ctx = .ok (some found)
  connection : connectionAndSnapshotFor db found ctx = .ok p
  engine : routeOf env db ctx pool p.1.id = .ok engine

/-- Two calls that go through the same mappings to the same servers, where what was there before the
instant is the same. -/
structure SameAsOf (env later : Environment) (db db' : ControlPlane) (ctx : TenantContext)
    (pool pool' : PoolRegistry) (contract : FeatureContract) (businessReference : String)
    (t : DateTime) : Prop where
  std : later.std = env.std
  mapping : ∀ name, Names contract name → resolve db' name ctx = resolve db name ctx
  connection : ∀ name found, Names contract name → resolve db name ctx = .ok (some found) →
    connectionAndSnapshotFor db' found ctx = connectionAndSnapshotFor db found ctx
  engine : ∀ name found p, Names contract name → resolve db name ctx = .ok (some found) →
    connectionAndSnapshotFor db found ctx = .ok p →
    routeOf later db' ctx pool' p.1.id = routeOf env db ctx pool p.1.id
  compare : ∀ engine, (later.world engine).compare = (env.world engine).compare
  target : ∀ found p engine identity,
    Reaches env db ctx pool contract.targetEntity found p engine →
    identityColumn found.document = .ok identity →
    SameTable (Sql.Condition.holds (env.world engine).compare
        ⟨identity.2, .eq, .str businessReference⟩)
      (TargetAsOf env.std found.document contract t) found.document.source (env.world engine)
      (later.world engine)
  related : ∀ feature ∈ contract.features, ∀ name found p engine,
    feature.relatedEntity = some name → Reaches env db ctx pool name found p engine →
    SameTable (beforeInstant (env.world engine).compare
        ((given feature.relatedTimestampField).bind (columnOf found.document)) t)
      (RelatedAsOf found.document feature) found.document.source (env.world engine)
      (later.world engine)

section

variable {std : Stdlib} {contract : FeatureContract} {t : DateTime} {document : MappingDocument}
  {database₁ database₂ : CustomerDatabase} {feature : FeatureSpec}

/-! ## The target row -/

theorem fetchedAsOf_readRow {columns : Dict String String} {identity : String × String}
    (hid : identityColumn document = .ok identity)
    (hcolumns : addColumns document (Dict.ofList [identity])
      (std.setOrder (neededTargetFields contract)) = .ok columns) {row₁ row₂ : Sql.Row Value}
    (h : TargetAsOf std document contract t row₁ row₂) :
    FetchedAsOf std contract t (readRow columns row₁) (readRow columns row₂) := by
  intro f hf
  have hread := (addColumns_ok (resolved_identity hid) hcolumns).2.1 f ((std.mem_setOrder _ _).2 hf)
  rw [value_readRow, value_readRow]
  cases hc : columns.get? f with
  | none => exact .inl rfl
  | some c =>
    rw [hc] at hread
    exact h f hf c (resolveColumn_mapped.1 hread)

/-- The same row, as of the instant, or the same error. -/
theorem targetRow_asOf (hcompare : database₂.compare = database₁.compare) {reference : String}
    (connection : CustomerDatabaseConnection)
    (h : ∀ identity, identityColumn document = .ok identity →
      SameTable (Sql.Condition.holds database₁.compare ⟨identity.2, .eq, .str reference⟩)
        (TargetAsOf std document contract t) document.source database₁ database₂) :
    Related (Option.Rel (FetchedAsOf std contract t))
      (targetRowPlan std document reference (neededTargetFields contract) connection >>=
        Plan.result database₁)
      (targetRowPlan std document reference (neededTargetFields contract) connection >>=
        Plan.result database₂) := by
  cases hplan : targetRowPlan std document reference (neededTargetFields contract) connection with
  | error e => exact .error e
  | ok plan =>
    obtain ⟨-, identity, columns, hid, hcolumns, rfl⟩ := targetRowPlan_ok hplan
    let select := targetSelect document columns identity.2 reference
    show Related _ (database₁.run select >>= _) (database₂.run select >>= _)
    have hrun : Related (List.Forall₂ (TargetAsOf std document contract t)) (database₁.run select)
        (database₂.run select) := by
      have hsame := h identity hid
      unfold SameTable at hsame
      unfold CustomerDatabase.run
      generalize hrelation₁ : database₁.relation document.source.schemaName
        document.source.table = relation₁ at hsame
      generalize hrelation₂ : database₂.relation document.source.schemaName
        document.source.table = relation₂ at hsame
      rw [show database₁.relation select.schemaName select.table = relation₁ from hrelation₁,
        show database₂.relation select.schemaName select.table = relation₂ from hrelation₂]
      cases hsame with
      | none => exact .error _
      | some hrel =>
        obtain ⟨hrefuses, hrows⟩ := hrel
        simp only [hrefuses, hcompare]
        split
        · exact .error _
        · have hconditions : select.conditions = [] ++
              [⟨identity.2, .eq, .str reference⟩] := rfl
          refine .ok (Sql.forall₂_rows hconditions (by simp) (by simp [select, targetSelect,
            selectFrom]) ?_)
          simpa using hrows
    refine hrun.bind fun rows₁ rows₂ hrows => .ok ?_
    cases hrows with
    | nil => exact .none
    | cons hrow _ => exact .some (fetchedAsOf_readRow hid hcolumns hrow)

/-- A departure that is not yet known gives no delay. -/
theorem applyDerive_notYet {v : ScalarValue} (h : NotYet std t v) (secondary : Option Value) :
    applyDerive std "loading_start_delay_minutes" v secondary t =
      coerceDatetime std secondary >>= fun _ => .ok (some (.float 0)) := by
  have hvalue : coerceDatetime std v = .ok none ∨
      ∃ instant, coerceDatetime std v = .ok (some instant) ∧ t ≤ instant := by
    rcases h with rfl | ⟨instant, hcoerced, hle⟩
    · exact .inl rfl
    · refine .inr ⟨instant, ?_, hle⟩
      cases v with
      | none => cases hcoerced
      | some v =>
        cases v with
        | str s =>
          obtain ⟨parsed, hparsed, hcoerced⟩ := except_bind_ok.1 hcoerced
          cases hcoerced
          simp only [coerceDatetime, hparsed, except_ok_bind]
          rfl
        | datetime parsed =>
          cases hcoerced
          rfl
        | _ => cases hcoerced
  rcases hvalue with hvalue | ⟨instant, hvalue, hle⟩
  · simp only [applyDerive, except_ok_bind, hvalue]
    refine except_bind_congr fun planned _ => ?_
    cases planned <;> rfl
  · simp only [applyDerive, except_ok_bind, hvalue]
    refine except_bind_congr fun planned _ => ?_
    cases planned with
    | none => rfl
    | some planned => simp only [loadingStartDelayMinutes, if_pos hle]; rfl

theorem needed_of_given {f : String} {field : Option String} (hmem : feature ∈ contract.features)
    (hfield : given field = some f) (h : field ∈ [feature.targetField,
      feature.targetFieldSecondary, feature.relatedFkFieldOnTarget]) :
    f ∈ neededTargetFields contract :=
  List.mem_flatMap.2 ⟨feature, hmem, List.mem_filterMap.2 ⟨field, h, hfield⟩⟩

theorem targetOutcome_asOf (hmem : feature ∈ contract.features) (hkind : feature.kind.onTarget)
    {row₁ row₂ : FieldRow} (h : FetchedAsOf std contract t row₁ row₂) :
    targetOutcome std feature row₂ t = targetOutcome std feature row₁ t := by
  obtain ⟨f, hf, hgiven⟩ := given_of_truthy (feature.target_field hkind)
  have hsecondary : ((given feature.targetFieldSecondary).map row₂.value).getD none =
      ((given feature.targetFieldSecondary).map row₁.value).getD none := by
    cases hg : given feature.targetFieldSecondary with
    | none => rfl
    | some g =>
      rcases h g (needed_of_given hmem hg (by simp)) with hvalue | ⟨honly, -, -⟩
      · simp [hvalue]
      · exact absurd (given_eq_some hg) (honly feature hmem).2.1
  unfold targetOutcome
  rw [hf]
  dsimp only
  rw [hsecondary]
  rcases h f (needed_of_given hmem hgiven (by simp)) with hvalue | ⟨honly, hnot₁, hnot₂⟩
  · rw [hvalue]
  · obtain ⟨hderived, hderive⟩ := (honly feature hmem).1 hf
    rw [if_pos hderived, if_pos hderived, hderive]
    dsimp only
    rw [applyDerive_notYet hnot₁, applyDerive_notYet hnot₂]

/-! ## The related tables -/

/-- A statement of a related feature selects the same before the instant. -/
theorem sameAnswer_asOf (hcompare : database₂.compare = database₁.compare) {joinValue : Value}
    {connection : CustomerDatabaseConnection} {plan : Plan (Option Value)}
    (hplan : relatedFeaturePlan std feature document joinValue t connection = .ok plan)
    {select : Sql.Select Value} (hs : plan.select? = some select)
    (h : SameTable (beforeInstant database₁.compare
        ((given feature.relatedTimestampField).bind (columnOf document)) t)
      (RelatedAsOf document feature) document.source database₁ database₂) :
    SameAnswer select database₁ database₂ := by
  obtain ⟨-, -, hasks⟩ := relatedFeature_asks hplan hs
  have hread : ∀ c ∈ select.columnsRead, OfFeature document feature c := fun c hc =>
    relatedFeature_columns hplan hs hc
  unfold SameAnswer
  rw [hasks.schemaName, hasks.table]
  refine Sql.optionRel_mono (fun r₁ r₂ hr => ⟨by rw [hr.1], ?_⟩) h
  rw [hcompare]
  have hrows : List.Forall₂ (RelatedAsOf document feature) (select.rows database₁.compare r₁.rows)
      (select.rows database₁.compare r₂.rows) := by
    refine Sql.forall₂_rows_of_kept (fun row hrow => ?_) (fun c hc a b hab => ?_)
      (fun k hk a b hab => ?_) hr.2
    · -- the cutoff is one of the conditions
      cases htime : (given feature.relatedTimestampField).bind (columnOf document) with
      | none => rfl
      | some column =>
        refine hrow _ ?_
        rw [hasks.conditions, Query.comparisons]
        simp [compareField, htime]
    · exact hab _ (hread _ (by simp only [Sql.Select.columnsRead, List.mem_append, List.mem_map]
                               exact .inl (.inr ⟨c, hc, rfl⟩)))
    · refine hab _ (hread _ ?_)
      simp only [Sql.Select.columnsRead, List.mem_append, List.mem_map, Option.mem_toList]
      exact .inr ⟨k, hk, rfl⟩
  exact hrows.imp fun a b hab c hc => hab c (hread c (by simp [Sql.Select.columnsRead, hc]))

end

/-! ## The extraction -/

section

variable {env later : Environment} {db db' : ControlPlane} {ctx : TenantContext}
  {pool pool' : PoolRegistry} {contract : FeatureContract} {businessReference : String}
  {t : DateTime}

theorem relatedOutcome_asOf
    (h : SameAsOf env later db db' ctx pool pool' contract businessReference t)
    {feature : FeatureSpec} (hmem : feature ∈ contract.features) (hkind : ¬feature.kind.onTarget)
    {relatedCache : Dict String (Option ResolvedMapping)}
    (hcache : ∀ name resolved, relatedCache.get? name = some resolved →
      resolve db name ctx = .ok resolved) {row₁ row₂ : FieldRow}
    (hrow : FetchedAsOf env.std contract t row₁ row₂) :
    relatedOutcome later db' ctx pool' relatedCache row₂ t feature =
      relatedOutcome env db ctx pool relatedCache row₁ t feature := by
  obtain ⟨name, hname, -⟩ := given_of_truthy (feature.related_fields hkind).1
  obtain ⟨fkField, hfk, hgiven⟩ := given_of_truthy (feature.related_fields hkind).2
  have hnames : Names contract name := .inr ⟨feature, hmem, hname⟩
  have hjoin : row₁.value fkField = row₂.value fkField := by
    rcases hrow fkField (needed_of_given hmem hgiven (by simp)) with hvalue | ⟨honly, -, -⟩
    · exact hvalue
    · exact absurd hfk (honly feature hmem).2.2
  unfold relatedOutcome
  rw [hname, hfk, h.std]
  dsimp only
  rw [← hjoin]
  split
  · rename_i mapping version hmapping hversion
    have hresolve := resolve_of_cached hcache hmapping
    split
    · rfl
    · rename_i joinValue hvalue
      rw [h.connection name mapping hnames hresolve]
      refine except_bind_congr fun p hp => ?_
      rw [h.engine name mapping p hnames hresolve hp]
      refine except_bind_congr fun engine hengine => ?_
      have hresult : (relatedFeaturePlan env.std feature mapping.document joinValue t p.1 >>=
            Plan.result (env.world engine)) =
          (relatedFeaturePlan env.std feature mapping.document joinValue t p.1 >>=
            Plan.result (later.world engine)) := by
        refine except_bind_congr fun plan hplan => ?_
        refine result_congr (relatedFeature_reads hplan) (h.compare engine).symm fun select hs => ?_
        exact sameAnswer_asOf (h.compare engine) hplan hs
          (h.related feature hmem name mapping p engine hname ⟨hresolve, hp, hengine⟩)
      rw [hresult]
  · rfl

theorem featureOutcome_asOf
    (h : SameAsOf env later db db' ctx pool pool' contract businessReference t)
    {feature : FeatureSpec} (hmem : feature ∈ contract.features)
    {relatedCache : Dict String (Option ResolvedMapping)}
    (hcache : resolveRelatedEntities env.std db contract ctx = .ok relatedCache)
    {row₁ row₂ : FieldRow} (hrow : FetchedAsOf env.std contract t row₁ row₂) :
    featureOutcome later db' ctx pool' relatedCache row₂ t feature =
      featureOutcome env db ctx pool relatedCache row₁ t feature := by
  unfold featureOutcome
  split
  · rename_i hkind
    rw [h.std]
    exact targetOutcome_asOf hmem hkind hrow
  · rename_i hkind
    exact relatedOutcome_asOf h hmem hkind (fun _ _ => resolve_of_relatedCache hcache) hrow

theorem resolveRelatedEntities_asOf
    (h : SameAsOf env later db db' ctx pool pool' contract businessReference t) :
    resolveRelatedEntities later.std db' contract ctx =
      resolveRelatedEntities env.std db contract ctx := by
  unfold resolveRelatedEntities
  rw [h.std]
  refine except_foldlM_congr (fun related name hname => ?_) _
  obtain ⟨feature, hmem, hgiven⟩ := List.mem_filterMap.1 ((env.std.mem_setOrder _ _).1 hname)
  rw [h.mapping name (.inr ⟨feature, hmem, given_eq_some hgiven⟩)]

theorem features_asOf
    (h : SameAsOf env later db db' ctx pool pool' contract businessReference t)
    {relatedCache : Dict String (Option ResolvedMapping)}
    (hcache : resolveRelatedEntities env.std db contract ctx = .ok relatedCache)
    {row₁ row₂ : FieldRow} (hrow : FetchedAsOf env.std contract t row₁ row₂)
    (start : Extracted) :
    contract.features.foldlM (fun extracted feature => do
        recorded env.std extracted feature
          (← featureOutcome later db' ctx pool' relatedCache row₂ t feature)) start =
      contract.features.foldlM (fun extracted feature => do
        recorded env.std extracted feature
          (← featureOutcome env db ctx pool relatedCache row₁ t feature)) start := by
  refine except_foldlM_congr (fun extracted feature hmem => ?_) start
  rw [featureOutcome_asOf h hmem hcache hrow]

/-- The batch of the same call at another time. -/
def extractedAt (now : DateTime) (batch : FeatureBatch) : FeatureBatch :=
  { batch with lineage := { batch.lineage with extractionTimestamp := now } }

theorem extractOf_asOf
    (h : SameAsOf env later db db' ctx pool pool' contract businessReference t) :
    Related (fun batch batch' => batch' = extractedAt later.now batch)
      (extractOf env db ctx pool contract businessReference t)
      (extractOf later db' ctx pool' contract businessReference t) := by
  have htarget : Features.resolveTarget db' contract.targetEntity ctx =
      Features.resolveTarget db contract.targetEntity ctx := by
    unfold Features.resolveTarget
    rw [h.mapping contract.targetEntity (.inl rfl)]
  unfold extractOf
  rw [htarget, resolveRelatedEntities_asOf h, h.std]
  cases hresolved : Features.resolveTarget db contract.targetEntity ctx with
  | error e => exact .error e
  | ok target =>
    have hresolve : resolve db contract.targetEntity ctx = .ok (some target) := by
      obtain ⟨resolved, hresolve, hsome⟩ := except_bind_ok.1 hresolved
      cases resolved with
      | none => cases hsome
      | some resolved =>
        cases hsome
        exact hresolve
    simp only [except_ok_bind]
    rw [h.connection _ target (.inl rfl) hresolve]
    cases hp : connectionAndSnapshotFor db target ctx with
    | error e => exact .error e
    | ok p =>
      simp only [except_ok_bind]
      rw [h.engine _ target p (.inl rfl) hresolve hp]
      cases hengine : routeOf env db ctx pool p.1.id with
      | error e => exact .error e
      | ok engine =>
        simp only [except_ok_bind]
        refine (targetRow_asOf (h.compare engine) p.1 fun identity hid =>
          h.target target p engine identity ⟨hresolve, hp, hengine⟩ hid).bind ?_
        intro row₁ row₂ hrows
        cases hrows with
        | none => exact .error _
        | @some row₁ row₂ hrow =>
          cases hcache : resolveRelatedEntities env.std db contract ctx with
          | error e => exact .error e
          | ok relatedCache =>
            simp only [except_ok_bind]
            rw [features_asOf h hcache hrow]
            refine (Related.of_eq Eq.refl rfl).bind fun extracted extracted' heq => ?_
            subst heq
            cases target.schemaMapping.activeVersionId with
            | none => exact .error _
            | some version => exact .ok rfl

theorem extract_asOf
    (h : SameAsOf env later db db' ctx pool pool' contract businessReference t) :
    Related (fun batch batch' => batch' = extractedAt later.now batch)
      (extract env db contract ctx businessReference t { pool }).1
      (extract later db' contract ctx businessReference t { pool := pool' }).1 := by
  have hfirst : (extract env db contract ctx businessReference t { pool }).1 =
      extractOf env db ctx pool contract businessReference t :=
    (extract_computes _ _ _ _ onRoutes_start).2
  have hlater : (extract later db' contract ctx businessReference t { pool := pool' }).1 =
      extractOf later db' ctx pool' contract businessReference t :=
    (extract_computes _ _ _ _ onRoutes_start).2
  rw [hfirst, hlater]
  exact extractOf_asOf h

theorem extract_ok_asOf
    (h : SameAsOf env later db db' ctx pool pool' contract businessReference t)
    {batch : FeatureBatch}
    (hbatch : (extract env db contract ctx businessReference t { pool }).1 = .ok batch) :
    (extract later db' contract ctx businessReference t { pool := pool' }).1 =
      .ok (extractedAt later.now batch) := by
  have hrelated := extract_asOf h
  rw [hrelated.eq_map, hbatch]
  rfl

end

/-- An extraction depends on the customer databases only as they stood at its prediction time: a
later call gives the same batch, apart from the time at which it was made, or the same error. -/
theorem extract_as_of (env later : Environment) (db db' : ControlPlane) (ctx : TenantContext)
    (pool pool' : PoolRegistry) (contract : FeatureContract) (businessReference : String)
    (t : DateTime) (h : SameAsOf env later db db' ctx pool pool' contract businessReference t) :
    (extract later db' contract ctx businessReference t { pool := pool' }).1 =
      (extract env db contract ctx businessReference t { pool }).1.map (extractedAt later.now) := by
  have hrelated := extract_asOf h
  exact hrelated.eq_map

namespace Sample

open HermesRpt.Sample (std ctx plain)

theorem isIdentifier_driver : isIdentifier "driver" = true := by decide

theorem isIdentifier_departs : isIdentifier "departs" = true := by decide

theorem isIdentifier_state : isIdentifier "state" = true := by decide

/-- Trips with their departure. -/
def departures : MappingDocument :=
  { trips with
    fields := ⟨[("driver_id", plain "driver" isIdentifier_driver),
      ("planned_departure_at", plain "departs" isIdentifier_departs),
      ("actual_departure_at", plain "left"), ("status", plain "state" isIdentifier_state)],
      by decide⟩ }

def servedDepartures : ControlPlane :=
  { servedTrips with versions := ⟨[version departures], by decide⟩ }

def departureRow (id : String) (departs : DateTime) (left : Option Value) (state : String) :
    Sql.Row Value := fun column =>
  if column = "trip_no" then some (.str id)
  else if column = "driver" then some (.str "d1")
  else if column = "departs" then some (.datetime departs)
  else if column = "left" then left
  else if column = "state" then some (.str state)
  else none

/-- At 2000 the first trip is cancelled and the second is about to depart. -/
def atDeparture : Environment :=
  serving (oneTable "vehicles" [departureRow "t0" ⟨1000, 0⟩ none "cancelled",
    departureRow "t1" ⟨2000, 0⟩ none "planned"])

/-- At 5000 the second has left and arrived, and the driver has a third one. -/
def afterwards : Environment :=
  { serving (oneTable "vehicles" [departureRow "t0" ⟨1000, 0⟩ none "cancelled",
      departureRow "t1" ⟨2000, 0⟩ (some (.datetime ⟨2600, 0⟩)) "completed",
      departureRow "t2" ⟨3000, 0⟩ none "cancelled"]) with now := ⟨5000, 0⟩ }

theorem targetAsOf_departed : TargetAsOf std departures deliveryDelayRiskContract ⟨2000, 0⟩
    (departureRow "t1" ⟨2000, 0⟩ none "planned")
    (departureRow "t1" ⟨2000, 0⟩ (some (.datetime ⟨2600, 0⟩)) "completed") := by
  intro f hf c hc
  by_cases hleft : c = "left"
  · subst hleft
    have honly : ∀ f ∈ neededTargetFields deliveryDelayRiskContract,
        columnOf departures f = some "left" → OnlyDelay deliveryDelayRiskContract f := by decide
    exact .inr ⟨honly f hf hc, .inl rfl, .inr ⟨⟨2600, 0⟩, rfl, by decide⟩⟩
  · have hstate : c ≠ "state" := by
      rintro rfl
      have hnone : ∀ f ∈ neededTargetFields deliveryDelayRiskContract,
          columnOf departures f ≠ some "state" := by decide
      exact hnone f hf hc
    left
    simp [departureRow, hleft, hstate]

theorem sameAsOf_departures : SameAsOf atDeparture afterwards servedDepartures servedDepartures ctx
    Keyed.Table.empty Keyed.Table.empty deliveryDelayRiskContract "t1" ⟨2000, 0⟩ where
  std := rfl
  mapping _ _ := rfl
  connection _ _ _ _ := rfl
  engine _ _ _ _ _ _ := rfl
  compare _ := rfl
  target found p engine identity hreaches hid := by
    obtain ⟨-, rfl⟩ := resolve_trips hreaches.mapping
    cases hid
    exact .some ⟨rfl, .cons targetAsOf_departed .nil⟩
  related feature hmem name found p engine hname hreaches := by
    obtain ⟨rfl, rfl⟩ := resolve_trips hreaches.mapping
    have htime : ∀ feature ∈ deliveryDelayRiskContract.features,
        feature.relatedEntity = some "Trip" →
          (given feature.relatedTimestampField).bind (columnOf departures) = some "departs" := by
      decide
    rw [htime feature hmem hname]
    exact .some ⟨rfl, .cons (fun _ _ => rfl) .nil⟩

end Sample

theorem extract_as_of_departures :
    (extract Sample.afterwards Sample.servedDepartures deliveryDelayRiskContract
        HermesRpt.Sample.ctx "t1" ⟨2000, 0⟩ { pool := Keyed.Table.empty }).1 =
      (extract Sample.atDeparture Sample.servedDepartures deliveryDelayRiskContract
        HermesRpt.Sample.ctx "t1" ⟨2000, 0⟩ { pool := Keyed.Table.empty }).1.map
          (extractedAt ⟨5000, 0⟩) ∧
    ((extract Sample.atDeparture Sample.servedDepartures deliveryDelayRiskContract
        HermesRpt.Sample.ctx "t1" ⟨2000, 0⟩ { pool := Keyed.Table.empty }).1.map fun batch =>
      (batch.features.get? "driver_late_delivery_ratio",
        batch.features.get? "loading_start_delay_minutes")) =
      .ok (some (some (.float 1)), some (some (.float 0))) :=
  ⟨extract_as_of Sample.atDeparture Sample.afterwards Sample.servedDepartures
    Sample.servedDepartures HermesRpt.Sample.ctx Keyed.Table.empty Keyed.Table.empty
    deliveryDelayRiskContract "t1" ⟨2000, 0⟩ Sample.sameAsOf_departures, by decide +kernel⟩

end Extraction

end HermesRpt
