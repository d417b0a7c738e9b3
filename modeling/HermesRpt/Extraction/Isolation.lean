import HermesRpt.Datasets.Builder
import HermesRpt.Extraction.Sample
import HermesRpt.System
import HermesRpt.Transformer.Context

/-!
# HermesRpt.Extraction.Isolation

Extraction under one tenant's context uses that tenant's engines only, and looks at that tenant's
rows of the control plane only.

* `ExtractionCall` : the three entry points that read a customer database.
* `SameRows`       : two control planes that agree on the rows of a tenant.
-/

namespace HermesRpt

namespace Extraction

open Effect Connectors Schemas Mappings Features Datasets Transformer
open Keyed (Table HasKey)

inductive ExtractionCall where
  | extract (contract : FeatureContract) (businessReference : String) (predictionTime : DateTime)
  | buildExample (businessReference : String) (predictionTime : DateTime) (label : Option Int)
      (maxRecordsPerRelation : Nat)
  | build (definition : DatasetDefinition) (contract : FeatureContract)

inductive ExtractionResult where
  | batch (batch : FeatureBatch)
  | example (ex : RelationalExample)
  | dataset (dataset : BuiltDataset)

def ExtractionCall.run (env : Environment) (db : ControlPlane) (ctx : TenantContext) :
    ExtractionCall → Extraction ExtractionResult
  | .extract contract businessReference predictionTime => do
    return .batch (← Features.extract env db contract ctx businessReference predictionTime)
  | .buildExample businessReference predictionTime label maxRecordsPerRelation => do
    return .example (← Transformer.buildExample env db ctx businessReference predictionTime label
      maxRecordsPerRelation)
  | .build definition contract => do
    return .dataset (← Datasets.build env db definition contract ctx)

/-! ## The engines a call uses -/

section Engines

variable {env : Environment} {db : ControlPlane} {ctx : TenantContext} {pool : PoolRegistry}

/-- The call keeps to the tenant's engines. -/
abbrev Served (env : Environment) (db : ControlPlane) (ctx : TenantContext) (pool : PoolRegistry)
    {α : Type} (x : Extraction α) : Prop := Keeps (OnRoutes env db ctx pool) (fun _ => True) x

theorem Served.emit (metric : Metric) : Served env db ctx pool (emit metric) :=
  .modify (fun _ hs => ⟨hs.grown, hs.statements⟩) trivial

theorem Served.execute {engine : Engine} (h : Serves env db ctx pool engine)
    (select : Sql.Select Value) : Served env db ctx pool (execute env engine select) := by
  intro s hs
  exact ⟨(execute_computes h select s hs).1, fun _ _ => trivial⟩

theorem served_fetchTargetRow {engine : Engine} (h : Serves env db ctx pool engine)
    (document : MappingDocument) (businessReference : String) (neededFields : List String)
    (connection : CustomerDatabaseConnection) :
    Served env db ctx pool
      (fetchTargetRow env engine document businessReference neededFields connection) := by
  refine (Keeps.lifted _).andThen fun _ => (Keeps.lifted _).andThen fun p => ?_
  refine (Keeps.lifted _).andThen fun columns => (Served.execute h _).andThen fun rows => ?_
  exact .pure trivial

theorem served_fetchRowsInRange {engine : Engine} (h : Serves env db ctx pool engine)
    (document : MappingDocument) (timeField : String) (rangeStart rangeEnd : DateTime)
    (neededFields : List String) (connection : CustomerDatabaseConnection) :
    Served env db ctx pool
      (fetchRowsInRange env engine document timeField rangeStart rangeEnd neededFields
        connection) := by
  refine (Keeps.lifted _).andThen fun _ => (Keeps.lifted _).andThen fun p => ?_
  refine (Keeps.lifted _).andThen fun timeColumn => ?_
  cases timeColumn with
  | none => exact .returned []
  | some timeColumn =>
    refine (Keeps.lifted _).andThen fun columns => (Keeps.lifted _).andThen fun datetimeFields => ?_
    exact (Served.execute h _).andThen fun rows => .lifted _

theorem served_fetchRelatedRecords {engine : Engine} (h : Serves env db ctx pool engine)
    (document : MappingDocument) (joinField : String) (joinValue : Value)
    (timestampField : Option String) (predictionTime : Option DateTime) (limit : Nat)
    (connection : CustomerDatabaseConnection) :
    Served env db ctx pool
      (fetchRelatedRecords env engine document joinField joinValue timestampField predictionTime
        limit connection) := by
  refine (Keeps.lifted _).andThen fun _ => (Keeps.lifted _).andThen fun joinColumn => ?_
  cases joinColumn with
  | none => exact .returned []
  | some joinColumn =>
    refine (Keeps.lifted _).andThen fun columns => (Keeps.lifted _).andThen fun timestampColumn => ?_
    refine (Keeps.lifted _).andThen fun datetimeFields => ?_
    exact (Served.execute h _).andThen fun rows => .lifted _

theorem served_compileAndRunRelatedFeature {engine : Engine} (h : Serves env db ctx pool engine)
    (feature : FeatureSpec) (document : MappingDocument) (joinValue : Value)
    (predictionTime : DateTime) (connection : CustomerDatabaseConnection) :
    Served env db ctx pool
      (compileAndRunRelatedFeature env engine feature document joinValue predictionTime
        connection) := by
  refine (Keeps.lifted _).andThen fun _ => (Keeps.lifted _).andThen fun joinColumn => ?_
  cases joinColumn with
  | none => exact .returned none
  | some joinColumn =>
    refine (Keeps.lifted _).andThen fun timestampColumn => (Keeps.lifted _).andThen fun times => ?_
    cases hk : feature.kind with
    | RELATED_COUNT =>
      refine (Keeps.lifted _).andThen fun filter => ?_
      exact (Served.execute h _).andThen fun rows => .returned _
    | RELATED_RATIO =>
      refine (Keeps.lifted _).andThen fun filterColumn => ?_
      dsimp only
      split
      · exact (Served.execute h _).andThen fun rows => .returned _
      · exact .returned _
    | RELATED_RECENCY_DAYS =>
      cases timestampColumn with
      | none => exact .raise _
      | some timestampColumn => exact (Served.execute h _).andThen fun rows => .lifted _
    | RELATED_LATEST_VALUE =>
      refine (Keeps.lifted _).andThen fun valueColumn => ?_
      cases valueColumn with
      | none => exact .returned _
      | some valueColumn => exact (Served.execute h _).andThen fun rows => .returned _
    | DIRECT_FIELD => exact .raise _
    | DERIVED_FROM_TARGET => exact .raise _

theorem served_recordDisallowedQueryAttempt (e : PyError) :
    Served env db ctx pool (recordDisallowedQueryAttempt ctx e) := by
  unfold recordDisallowedQueryAttempt
  split
  · exact .emit _
  · exact .returned ()

theorem served_extractFeature (relatedCache : Keyed.Dict String (Option ResolvedMapping))
    (targetRow : FieldRow) (predictionTime : DateTime) (extracted : Extracted)
    (feature : FeatureSpec) :
    Served env db ctx pool
      (extractFeature env db ctx relatedCache targetRow predictionTime extracted feature) := by
  unfold extractFeature extractRelated
  split
  · exact .lifted _
  split
  · dsimp only
    split
    · split
      · exact .lifted _
      · refine (Keeps.lifted _).andThen fun p => (engineFor_serves _).bind fun engine h => ?_
        refine Keeps.andThen ((served_compileAndRunRelatedFeature h _ _ _ _ _).onRaise
          served_recordDisallowedQueryAttempt) fun raw => ?_
        exact (Keeps.lifted _).andThen fun raw => .lifted _
    · exact .lifted _
  · exact .raise _

theorem served_extract (contract : FeatureContract) (businessReference : String)
    (predictionTime : DateTime) :
    Served env db ctx pool
      (extract env db contract ctx businessReference predictionTime) := by
  refine (Keeps.lifted _).andThen fun target => (Keeps.lifted _).andThen fun p => ?_
  refine (engineFor_serves _).bind fun engine h => ?_
  refine Keeps.andThen ((served_fetchTargetRow h _ _ _ _).onRaise
    served_recordDisallowedQueryAttempt) fun row => ?_
  cases row with
  | none => exact .raise _
  | some targetRow =>
    refine (Keeps.lifted _).andThen fun relatedCache => ?_
    refine Keeps.andThen (.foldlM (fun extracted feature _ _ =>
      served_extractFeature relatedCache targetRow predictionTime extracted feature) trivial)
      fun extracted => ?_
    split
    · exact .raise _
    · exact (Keeps.modify (fun _ hs => ⟨hs.grown, hs.statements⟩) trivial).andThen fun _ => .returned _

theorem served_addRelation (rawTarget : FieldRow) (predictionTime : DateTime)
    (maxRecordsPerRelation : Nat) (related : List RelationalRecord) (spec : RelationSpec) :
    Served env db ctx pool
      (addRelation env db ctx rawTarget predictionTime maxRecordsPerRelation related spec) := by
  unfold addRelation engineForMapping
  split
  · exact .returned _
  · refine (Keeps.lifted _).andThen fun resolved => ?_
    cases resolved with
    | none => exact .returned _
    | some resolved =>
      have hengine : Keeps (OnRoutes env db ctx pool) (fun p => Serves env db ctx pool p.1)
          (engineForMapping env db resolved ctx) :=
        (Keeps.lifted _).andThen fun p => (engineFor_serves _).bind fun engine h => .pure h
      refine hengine.bind fun p h => ?_
      exact (served_fetchRelatedRecords h _ _ _ _ _ _ _).andThen fun rows => .returned _

theorem served_buildExample (businessReference : String) (predictionTime : DateTime)
    (label : Option Int) (maxRecordsPerRelation : Nat) :
    Served env db ctx pool
      (buildExample env db ctx businessReference predictionTime label maxRecordsPerRelation) := by
  refine (Keeps.lifted _).andThen fun targetMapping => ?_
  have hengine : Keeps (OnRoutes env db ctx pool) (fun p => Serves env db ctx pool p.1)
      (engineForMapping env db targetMapping ctx) :=
    (Keeps.lifted _).andThen fun p => (engineFor_serves _).bind fun engine h => .pure h
  refine hengine.bind fun p h => (Keeps.lifted _).andThen fun needed => ?_
  refine (served_fetchTargetRow h _ _ _ _).andThen fun row => ?_
  cases row with
  | none => exact .raise _
  | some rawTarget =>
    refine Keeps.andThen (.foldlM (fun related spec _ _ =>
      served_addRelation rawTarget predictionTime maxRecordsPerRelation related spec) trivial)
      fun related => .returned _

theorem served_buildRow (contract : FeatureContract) (definition : DatasetDefinition)
    (identityField : String) (built : List DatasetRow) (labelled : FieldRow × Int) :
    Served env db ctx pool
      (buildRow env db contract ctx definition identityField built labelled) := by
  unfold buildRow
  dsimp only
  split
  · exact .raise _
  · refine Keeps.andThen (Keeps.orElse ((served_extract _ _ _).andThen fun batch => .returned _)
      fun e => ?_) fun batch => ?_
    · split
      · exact .returned _
      · exact .raise e
    · cases batch with
      | none => exact .returned _
      | some batch => exact .returned _
  · exact .raise _

theorem served_build (definition : DatasetDefinition) (contract : FeatureContract) :
    Served env db ctx pool (build env db definition contract ctx) := by
  refine (Keeps.lifted _).andThen fun _ => (Keeps.lifted _).andThen fun target => ?_
  refine (Keeps.lifted _).andThen fun p => (engineFor_serves _).bind fun engine h => ?_
  refine (Keeps.lifted _).andThen fun identityField => ?_
  refine (served_fetchRowsInRange h _ _ _ _ _ _).andThen fun rawRows => ?_
  refine (Keeps.lifted _).andThen fun issues => (Keeps.lifted _).andThen fun labels => ?_
  refine Keeps.andThen (.foldlM (fun built labelled _ _ =>
    served_buildRow contract definition identityField built labelled) trivial) fun rows => ?_
  refine Keeps.andThen (.foldlM (fun _ issue _ _ => Served.emit _) trivial) fun _ => ?_
  refine (Keeps.lifted _).andThen fun statistics => ?_
  refine Keeps.andThen (.foldlM (fun _ stat _ _ => Served.emit _) trivial) fun _ => ?_
  split
  · exact .raise _
  · exact .returned _

theorem served_run (call : ExtractionCall) : Served env db ctx pool (call.run env db ctx) := by
  cases call with
  | extract contract businessReference predictionTime =>
    exact (served_extract _ _ _).andThen fun _ => .returned _
  | buildExample businessReference predictionTime label maxRecordsPerRelation =>
    exact (served_buildExample _ _ _ _).andThen fun _ => .returned _
  | build definition contract => exact (served_build _ _).andThen fun _ => .returned _

end Engines

/-! ## The rows a call looks at -/

/-- The two control planes have the same rows of the tenant in one table. -/
def Alike (ρ : Type) [HasKey ρ Uuid] [Stored ρ] (ctx : TenantContext) (db db' : ControlPlane) :
    Prop :=
  ∀ row : ρ, Stored.tenantId row = ctx.tenantId →
    (row ∈ (Stored.table db : Table ρ) ↔ row ∈ (Stored.table db' : Table ρ))

structure SameRows (ctx : TenantContext) (db db' : ControlPlane) : Prop where
  credentials : Alike DatabaseCredentialReference ctx db db'
  connections : Alike CustomerDatabaseConnection ctx db db'
  snapshots : Alike SchemaSnapshot ctx db db'
  mappings : Alike SchemaMapping ctx db db'
  versions : Alike MappingVersion ctx db db'

section Rows

variable {env : Environment} {db db' : ControlPlane} {ctx : TenantContext}

theorem get_alike {ρ : Type} [HasKey ρ Uuid] [Stored ρ] (h : Alike ρ ctx db db') (id : Uuid) :
    (get db id ctx : Option ρ) = get db' id ctx := by
  ext row
  rw [get_eq_some, get_eq_some, Table.find?_eq_some, Table.find?_eq_some]
  constructor
  · rintro ⟨⟨hm, hk⟩, ht⟩; exact ⟨⟨(h row ht).1 hm, hk⟩, ht⟩
  · rintro ⟨⟨hm, hk⟩, ht⟩; exact ⟨⟨(h row ht).2 hm, hk⟩, ht⟩

theorem require_alike {ρ : Type} [HasKey ρ Uuid] [Stored ρ] (h : Alike ρ ctx db db') (id : Uuid) :
    require ρ db id ctx = require ρ db' id ctx := by
  rw [require, require, get_alike h]

/-- Rows in another order: none, the only one, or too many of them. -/
theorem getActiveByEntityName_alike (h : Alike SchemaMapping ctx db db') (entityName : String) :
    getActiveByEntityName db entityName ctx = getActiveByEntityName db' entityName ctx := by
  have hperm : (db.mappings.rows.filter fun m =>
      m.tenantId = ctx.tenantId ∧ m.entityName = entityName ∧ m.state = .ACTIVE).Perm
      (db'.mappings.rows.filter fun m =>
        m.tenantId = ctx.tenantId ∧ m.entityName = entityName ∧ m.state = .ACTIVE) := by
    refine (List.perm_ext_iff_of_nodup (.filter _ (.of_map _ db.mappings.nodup_keys))
      (.filter _ (.of_map _ db'.mappings.nodup_keys))).2 fun m => ?_
    simp only [List.mem_filter, decide_eq_true_eq]
    constructor
    · rintro ⟨hm, ht, hrest⟩; exact ⟨(h m ht).1 hm, ht, hrest⟩
    · rintro ⟨hm, ht, hrest⟩; exact ⟨(h m ht).2 hm, ht, hrest⟩
  unfold getActiveByEntityName
  generalize db.mappings.rows.filter _ = l at hperm ⊢
  generalize db'.mappings.rows.filter _ = l' at hperm ⊢
  match l, l', hperm with
  | [], l', hperm => rw [List.nil_perm.1 hperm]
  | [m], l', hperm => rw [List.singleton_perm.1 hperm]
  | _ :: _ :: _, [], hperm => exact absurd hperm.length_eq (by simp)
  | _ :: _ :: _, [_], hperm => exact absurd hperm.length_eq (by simp)
  | _ :: _ :: _, _ :: _ :: _, _ => rfl

variable (h : SameRows ctx db db')

include h

theorem resolve_alike (entityName : String) : resolve db entityName ctx = resolve db' entityName ctx := by
  unfold resolve
  simp only [getActiveByEntityName_alike h.mappings, get_alike h.versions]

theorem resolveTarget_alike (entityName : String) :
    Features.resolveTarget db entityName ctx = Features.resolveTarget db' entityName ctx := by
  unfold Features.resolveTarget
  rw [resolve_alike h]

theorem connectionAndSnapshotFor_alike (resolved : ResolvedMapping) :
    connectionAndSnapshotFor db resolved ctx = connectionAndSnapshotFor db' resolved ctx := by
  unfold connectionAndSnapshotFor
  simp only [require_alike h.snapshots, require_alike h.connections]

theorem engineFor_alike (connectionId : Uuid) :
    engineFor env db connectionId ctx = engineFor env db' connectionId ctx := by
  unfold engineFor getOrCreateEngine Connectors.resolveTarget
  simp only [require_alike h.connections, require_alike h.credentials]

theorem resolveRelatedEntities_alike (std : Stdlib) (contract : FeatureContract) :
    resolveRelatedEntities std db contract ctx = resolveRelatedEntities std db' contract ctx := by
  unfold resolveRelatedEntities
  simp only [resolve_alike h]

theorem extractFeature_alike (relatedCache : Keyed.Dict String (Option ResolvedMapping))
    (targetRow : FieldRow) (predictionTime : DateTime) :
    extractFeature env db ctx relatedCache targetRow predictionTime =
      extractFeature env db' ctx relatedCache targetRow predictionTime := by
  funext extracted feature
  unfold extractFeature extractRelated
  simp only [connectionAndSnapshotFor_alike h, engineFor_alike h]

theorem extract_alike (contract : FeatureContract) (businessReference : String)
    (predictionTime : DateTime) :
    extract env db contract ctx businessReference predictionTime =
      extract env db' contract ctx businessReference predictionTime := by
  unfold extract
  simp only [resolveTarget_alike h, connectionAndSnapshotFor_alike h, engineFor_alike h,
    resolveRelatedEntities_alike h, extractFeature_alike h]

theorem engineForMapping_alike (resolved : ResolvedMapping) :
    engineForMapping env db resolved ctx = engineForMapping env db' resolved ctx := by
  unfold engineForMapping
  simp only [connectionAndSnapshotFor_alike h, engineFor_alike h]

theorem addRelation_alike (rawTarget : FieldRow) (predictionTime : DateTime)
    (maxRecordsPerRelation : Nat) :
    addRelation env db ctx rawTarget predictionTime maxRecordsPerRelation =
      addRelation env db' ctx rawTarget predictionTime maxRecordsPerRelation := by
  funext related spec
  unfold addRelation
  simp only [resolve_alike h, engineForMapping_alike h]

theorem buildExample_alike (businessReference : String) (predictionTime : DateTime)
    (label : Option Int) (maxRecordsPerRelation : Nat) :
    buildExample env db ctx businessReference predictionTime label maxRecordsPerRelation =
      buildExample env db' ctx businessReference predictionTime label maxRecordsPerRelation := by
  unfold buildExample
  simp only [resolveTarget_alike h, engineForMapping_alike h, addRelation_alike h]

theorem buildRow_alike (contract : FeatureContract) (definition : DatasetDefinition)
    (identityField : String) :
    buildRow env db contract ctx definition identityField =
      buildRow env db' contract ctx definition identityField := by
  funext built labelled
  unfold buildRow
  simp only [extract_alike h]

theorem build_alike (definition : DatasetDefinition) (contract : FeatureContract) :
    build env db definition contract ctx = build env db' definition contract ctx := by
  unfold build
  simp only [resolveTarget_alike h, connectionAndSnapshotFor_alike h, engineFor_alike h,
    buildRow_alike h]

theorem run_alike (call : ExtractionCall) : call.run env db ctx = call.run env db' ctx := by
  cases call with
  | extract contract businessReference predictionTime =>
    simp only [ExtractionCall.run, extract_alike h]
  | buildExample businessReference predictionTime label maxRecordsPerRelation =>
    simp only [ExtractionCall.run, buildExample_alike h]
  | build definition contract => simp only [ExtractionCall.run, build_alike h]

end Rows

/-- Every statement of a call goes to an engine of a connection row that the tenant owns, and the
call returns or raises the same, with the same effects, whatever the rows of other tenants are. -/
theorem tenant_isolation (env : Environment) (db : ControlPlane) (ctx : TenantContext)
    (pool : PoolRegistry) (call : ExtractionCall) :
    (∀ sent ∈ (call.run env db ctx { pool }).2.statements, Serves env db ctx pool sent.1) ∧
      ∀ db', SameRows ctx db db' → call.run env db' ctx = call.run env db ctx := by
  constructor
  · exact (served_run call _ onRoutes_start).1.statements
  · intro db' h
    exact (run_alike h call).symm

namespace Sample

open HermesRpt.Sample (std ctx document db connection plain)

/-- A mapping of `snapshot`, active with version 40. -/
def active (id tenantId : Uuid) (entityName : String) : SchemaMapping :=
  { id, tenantId, entityName, schemaSnapshotId := 20, ontologyVersion := "1", state := .ACTIVE,
    activeVersionId := some 40 }

def version (document : MappingDocument) : MappingVersion :=
  { id := 40, tenantId := 1, schemaMappingId := 30, versionNumber := 1, mappingDocument := document }

/-- The sample's mapping, active. -/
def served : ControlPlane :=
  { db with
    mappings := ⟨[active 30 1 "Vehicle"], by decide⟩,
    versions := ⟨[version document], by decide⟩ }

/-- With a connection of another tenant, and that tenant's mapping on this tenant's snapshot. -/
def shared : ControlPlane :=
  { served with
    connections := ⟨[connection, { connection with id := 12, tenantId := 2 }], by decide⟩,
    mappings := ⟨[active 30 1 "Vehicle", active 31 2 "Vehicle"], by decide⟩ }

def vehicleRow : Sql.Row Value := fun c =>
  if c = "vehicle_no" then some (.str "v1") else if c = "plate" then some (.str "AB-1") else none

def env : Environment where
  std
  secrets _ := some "secret"
  world _ := {
    compare
    relation := fun _ table => if table = "vehicles" then some { rows := [vehicleRow] } else none }
  now := ⟨0, 0⟩
  newId := 99

def contract : FeatureContract where
  taskKey := "plates"
  version := "1"
  targetEntity := "Vehicle"
  features := [Features.Sample.hasPlate]

def call : ExtractionCall := .extract contract "v1" ⟨0, 0⟩

theorem sameRows_shared : SameRows ctx served shared where
  credentials _ _ := Iff.rfl
  snapshots _ _ := Iff.rfl
  versions _ _ := Iff.rfl
  connections row ht := by
    show row ∈ [connection] ↔ row ∈ [connection, { connection with id := 12, tenantId := 2 }]
    simp only [List.mem_cons, List.not_mem_nil, or_false, iff_self_or]
    rintro rfl
    exact absurd ht (by decide)
  mappings row ht := by
    show row ∈ [active 30 1 "Vehicle"] ↔ row ∈ [active 30 1 "Vehicle", active 31 2 "Vehicle"]
    simp only [List.mem_cons, List.not_mem_nil, or_false, iff_self_or]
    rintro rfl
    exact absurd ht (by decide)

end Sample

theorem tenant_isolation_sample :
    (∀ sent ∈ (Sample.call.run Sample.env Sample.served HermesRpt.Sample.ctx
        { pool := Keyed.Table.empty }).2.statements,
      Serves Sample.env Sample.served HermesRpt.Sample.ctx Keyed.Table.empty sent.1) ∧
    (Sample.call.run Sample.env Sample.served HermesRpt.Sample.ctx
      { pool := Keyed.Table.empty }).2.statements.length = 1 ∧
    Sample.call.run Sample.env Sample.shared HermesRpt.Sample.ctx =
      Sample.call.run Sample.env Sample.served HermesRpt.Sample.ctx := by
  have h := tenant_isolation Sample.env Sample.served HermesRpt.Sample.ctx Keyed.Table.empty
    Sample.call
  exact ⟨h.1, by decide +kernel, h.2 _ Sample.sameRows_shared⟩

end Extraction

end HermesRpt
