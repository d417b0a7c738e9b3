import HermesRpt.Datasets.Accounting
import HermesRpt.Extraction.Recipes
import Mathlib.Data.List.ReduceOption

/-!
# HermesRpt.Datasets.Pinning

The mapping versions that a dataset's lineage names, while mappings are activated during the build.
The build resolves the mappings anew for each row, so calls of `activate` may fall between any two
of its reads.

* `buildAmid`        : `build` amid calls of `activate`.
* `activated_kept`   : a resolved mapping stays the only one of its entity.
* `Contributes`      : a mapping version that a row is extracted with.
* `Pins`             : the lineage names every version that contributes to a row.
* `lineage_pins_iff` : it does exactly when only mappings of the target entity contribute.
-/

namespace HermesRpt

namespace Datasets

open Effect Process Connectors Mappings Features Extraction
open Keyed (Dict Table)

/-! ## Activations -/

/-- A read of the mappings by an extraction. -/
inductive Reading where
  | target
  | related (entityName : String)

/-- Calls of `activate` in their order, and how many of them are done at each read of the
extraction of the labelled row `i`. -/
structure Activations where
  calls : List (TenantContext × Uuid)
  done : Nat → Reading → Nat

/-- A call that raises is rolled back. -/
def activateCall (db : ControlPlane) (call : TenantContext × Uuid) : ControlPlane :=
  match activate call.1 call.2 db with
  | .ok (_, db') => db'
  | .error _ => db

def activated (db : ControlPlane) (calls : List (TenantContext × Uuid)) : ControlPlane :=
  calls.foldl activateCall db

/-- The control plane at a read of the extraction of the labelled row `i`. -/
def Activations.seen (activations : Activations) (db : ControlPlane) (i : Nat) (reading : Reading) :
    ControlPlane :=
  activated db (activations.calls.take (activations.done i reading))

section Activated

variable {db : ControlPlane} {mapping : SchemaMapping}

theorem mem_setMapping {old new : SchemaMapping} (hrow : db.mappings.find? new.id = some old)
    (hmem : mapping ∈ db.mappings) (hne : mapping.id ≠ new.id) :
    mapping ∈ (setMapping db new).mappings := by
  have hfind := find?_setMapping db mapping.id hrow
  rw [if_neg hne] at hfind
  exact (Table.find?_eq_some.1 (hfind.trans (Table.find?_key hmem))).1

/-- A call changes no version, and no active mapping. -/
theorem activateCall_kept (call : TenantContext × Uuid) :
    (activateCall db call).versions = db.versions ∧
      (mapping ∈ db.mappings → mapping.state = .ACTIVE →
        mapping ∈ (activateCall db call).mappings) := by
  unfold activateCall
  cases h : activate call.1 call.2 db with
  | error e => exact ⟨rfl, fun hmem _ => hmem⟩
  | ok p =>
    obtain ⟨m', db'⟩ := p
    obtain ⟨m, version, log, hm, happroved, -, hm', rfl⟩ := activate_ok h
    refine ⟨rfl, fun hmem hactive => ?_⟩
    have hrow := (require_row hm).2.2.2
    have hid : (bumped m m').id = m.id := bumped_id _ _ (by rw [hm'])
    refine mem_setMapping (hid ▸ hrow) hmem ?_
    rw [hid]
    intro heq
    have hfind : db.mappings.find? m.id = some mapping := Table.find?_eq_some.2 ⟨hmem, heq⟩
    obtain rfl : m = mapping := Option.some.inj (hrow.symm.trans hfind)
    rw [happroved] at hactive
    cases hactive

theorem activated_kept (calls : List (TenantContext × Uuid)) :
    (activated db calls).versions = db.versions ∧
      (mapping ∈ db.mappings → mapping.state = .ACTIVE →
        mapping ∈ (activated db calls).mappings) := by
  unfold activated
  induction calls generalizing db with
  | nil => exact ⟨rfl, fun hmem _ => hmem⟩
  | cons call calls ih =>
    obtain ⟨hversions, hmem⟩ := @activateCall_kept db mapping call
    obtain ⟨hversions', hmem'⟩ := @ih (activateCall db call)
    exact ⟨hversions'.trans hversions, fun h hactive => hmem' (hmem h hactive) hactive⟩

/-- While mappings are activated, an entity that resolves does not resolve to another mapping. -/
theorem resolve_activated {calls : List (TenantContext × Uuid)} {name : String}
    {ctx : TenantContext} {start resolved : ResolvedMapping}
    (hstart : resolve db name ctx = .ok (some start))
    (h : resolve (activated db calls) name ctx = .ok (some resolved)) : resolved = start := by
  obtain ⟨version, hunique, -, hactive, hversion, -, hdocument⟩ := resolve_some hstart
  obtain ⟨version', hunique', -, hactive', hversion', -, hdocument'⟩ := resolve_some h
  obtain ⟨hmem, htenant, hname, hstate⟩ := (hunique start.schemaMapping).2 rfl
  obtain ⟨hversions, hkept⟩ := @activated_kept db start.schemaMapping calls
  have hmapping : start.schemaMapping = resolved.schemaMapping :=
    (hunique' start.schemaMapping).1 ⟨hkept hmem hstate, htenant, hname, hstate⟩
  have hid : version'.id = version.id := by
    rw [← hmapping, hactive] at hactive'
    exact (Option.some.inj hactive').symm
  rw [hversions, hid, hversion] at hversion'
  obtain rfl : version = version' := Option.some.inj hversion'
  cases start
  cases resolved
  simp_all

end Activated

/-! ## A build amid activations -/

/-- `_resolve_related_entities`, with the control plane that each read sees. -/
def resolveRelatedAmid (std : Stdlib) (seen : Reading → ControlPlane) (contract : FeatureContract)
    (ctx : TenantContext) : Except PyError (Dict String (Option ResolvedMapping)) :=
  (std.setOrder (contract.features.filterMap (given ·.relatedEntity))).foldlM
    (fun related name => do return related.set name (← resolve (seen (.related name)) name ctx))
    Keyed.Table.empty

/-- `extract`, with the control plane that each read of a mapping sees. -/
def extractAmid (env : Environment) (db : ControlPlane) (seen : Reading → ControlPlane)
    (contract : FeatureContract) (ctx : TenantContext) : RowExtraction :=
  extractWith env db contract ctx
    (Features.resolveTarget (seen .target) contract.targetEntity ctx)
    (resolveRelatedAmid env.std seen contract ctx)

/-- `build` amid calls of `activate`. -/
def buildAmid (env : Environment) (activations : Activations)
    (later : Nat → Engine → CustomerDatabase) (db : ControlPlane) (definition : DatasetDefinition)
    (contract : FeatureContract) (ctx : TenantContext) : Extraction BuiltDataset :=
  buildWith env (fun i => extractAmid { env with world := later i } db (activations.seen db i)
    contract ctx) db definition contract ctx

/-- Without such calls, it is `buildDuring`. -/
theorem buildAmid_none (env : Environment) (done : Nat → Reading → Nat)
    (later : Nat → Engine → CustomerDatabase) (db : ControlPlane) (definition : DatasetDefinition)
    (contract : FeatureContract) (ctx : TenantContext) :
    buildAmid env ⟨[], done⟩ later db definition contract ctx =
      buildDuring env later db definition contract ctx := by
  have hseen : (Activations.mk [] done).seen db = fun _ _ => db := by
    funext i reading
    simp [Activations.seen, activated]
  unfold buildAmid
  rw [hseen]
  rfl

/-! ## What a row is extracted with -/

/-- What the features of a row are computed from. -/
structure Reads where
  target : ResolvedMapping
  targetRow : FieldRow
  relatedCache : Dict String (Option ResolvedMapping)

def readsAmid (env : Environment) (db : ControlPlane) (seen : Reading → ControlPlane)
    (contract : FeatureContract) (ctx : TenantContext) (pool : PoolRegistry)
    (businessReference : String) : Except PyError Reads := do
  let target ← Features.resolveTarget (seen .target) contract.targetEntity ctx
  let (connection, _) ← connectionAndSnapshotFor db target ctx
  let engine ← routeOf env db ctx pool connection.id
  let row ← targetRowPlan env.std target.document businessReference (neededTargetFields contract)
    connection >>= Plan.result (env.world engine)
  match row with
  | none => .error (targetRowNotFound contract businessReference)
  | some targetRow => return ⟨target, targetRow, ← resolveRelatedAmid env.std seen contract ctx⟩

/-- A mapping version of an entity contributes to the row: the target row is read by it, or a
feature asks by it, with the join value of the target row. -/
inductive Contributes (contract : FeatureContract) (reads : Reads) : String → Uuid → Prop where
  | target {version : Uuid} (hversion : reads.target.schemaMapping.activeVersionId = some version) :
      Contributes contract reads contract.targetEntity version
  | related {feature : FeatureSpec} {name fkField : String} {mapping : ResolvedMapping}
      {version : Uuid} {joinValue : Value} (hmem : feature ∈ contract.features)
      (hkind : ¬feature.kind.onTarget) (hentity : feature.relatedEntity = some name)
      (hfield : feature.relatedFkFieldOnTarget = some fkField)
      (hmapping : (reads.relatedCache.get? name).getD none = some mapping)
      (hversion : mapping.schemaMapping.activeVersionId = some version)
      (hjoin : reads.targetRow.value fkField = some joinValue) :
      Contributes contract reads name version

/-- A feature of another entity than the target's has no mapping to ask by, or no join value. -/
def OnlyTargetEntity (contract : FeatureContract) (reads : Reads) : Prop :=
  ∀ feature ∈ contract.features, ¬feature.kind.onTarget → ∀ name fkField,
    feature.relatedEntity = some name → feature.relatedFkFieldOnTarget = some fkField →
      name ≠ contract.targetEntity →
        (reads.relatedCache.get? name).getD none = none ∨ reads.targetRow.value fkField = none

/-- A row of a dataset, with what it was extracted with. -/
structure KeptRow where
  row : DatasetRow
  reads : Reads

/-- The lineage names every mapping version that contributes to a row. -/
def Pins (contract : FeatureContract) (dataset : BuiltDataset) (kept : List KeptRow) : Prop :=
  ∀ k ∈ kept, ∀ name version, Contributes contract k.reads name version →
    dataset.manifest.lineage.mappingVersionIds.get? name = some version

section Kept

variable {env : Environment} {activations : Activations}
  {later : Nat → Engine → CustomerDatabase} {db : ControlPlane} {seen : Reading → ControlPlane}
  {contract : FeatureContract} {ctx : TenantContext} {pool : PoolRegistry}
  {definition : DatasetDefinition} {identityField : String} {reads : Reads}

/-- The row that a labelled record leaves in the dataset, with what it was extracted with. -/
inductive Keeps (env : Environment) (activations : Activations)
    (later : Nat → Engine → CustomerDatabase) (db : ControlPlane) (contract : FeatureContract)
    (ctx : TenantContext) (pool : PoolRegistry) (definition : DatasetDefinition)
    (identityField : String) : (FieldRow × Int) × Nat → Option KeptRow → Prop where
  | found {record : FieldRow} {label : Int} {i : Nat} {predictionTime : DateTime}
      {batch : FeatureBatch} {reads : Reads}
      (time : record.value definition.label.timeField = some (.datetime predictionTime))
      (extracted : (extractAmid { env with world := later i } db (activations.seen db i) contract ctx
        (strOf env.std (record.value identityField)) predictionTime { pool }).1 = .ok batch)
      (read : readsAmid { env with world := later i } db (activations.seen db i) contract ctx pool
        (strOf env.std (record.value identityField)) = .ok reads) :
      Keeps env activations later db contract ctx pool definition identityField ((record, label), i)
        (some { row := { businessReference := strOf env.std (record.value identityField),
                         predictionTime, features := batch.features, label }
                reads })
  | gone {record : FieldRow} {label : Int} {i : Nat} {predictionTime : DateTime} {e : PyError}
      (time : record.value definition.label.timeField = some (.datetime predictionTime))
      (raised : (extractAmid { env with world := later i } db (activations.seen db i) contract ctx
        (strOf env.std (record.value identityField)) predictionTime { pool }).1 = .error e)
      (notFound : e.cls = .TargetRowNotFoundError) :
      Keeps env activations later db contract ctx pool definition identityField
        ((record, label), i) none

theorem extractAmid_computes (businessReference : String) (predictionTime : DateTime) :
    Computes (OnRoutes env db ctx pool)
      (extractAmid env db seen contract ctx businessReference predictionTime)
      (extractWithOf env db ctx pool contract
        (Features.resolveTarget (seen .target) contract.targetEntity ctx)
        (resolveRelatedAmid env.std seen contract ctx) businessReference predictionTime) :=
  extractWith_computes contract _ _ businessReference predictionTime

/-- A batch was computed from what was read. -/
theorem readsAmid_of_extracted {businessReference : String} {predictionTime : DateTime}
    {batch : FeatureBatch}
    (h : (extractAmid env db seen contract ctx businessReference predictionTime { pool }).1 =
      .ok batch) :
    ∃ reads, readsAmid env db seen contract ctx pool businessReference = .ok reads := by
  rw [(extractAmid_computes businessReference predictionTime _ onRoutes_start).2] at h
  obtain ⟨target, htarget, h⟩ := except_bind_ok.1 h
  obtain ⟨p, hp, h⟩ := except_bind_ok.1 h
  obtain ⟨engine, hengine, h⟩ := except_bind_ok.1 h
  obtain ⟨row, hrow, h⟩ := except_bind_ok.1 h
  cases row with
  | none => cases h
  | some targetRow =>
    obtain ⟨relatedCache, hcache, -⟩ := except_bind_ok.1 h
    refine ⟨⟨target, targetRow, relatedCache⟩, ?_⟩
    unfold readsAmid
    simp only [htarget, except_ok_bind, hp, hengine, hrow, hcache]
    rfl

/-- The reads of a row are those of the mappings that it saw. -/
theorem readsAmid_ok {businessReference : String}
    (h : readsAmid env db seen contract ctx pool businessReference = .ok reads) :
    Features.resolveTarget (seen .target) contract.targetEntity ctx = .ok reads.target ∧
      ∀ name mapping, (reads.relatedCache.get? name).getD none = some mapping →
        resolve (seen (.related name)) name ctx = .ok (some mapping) := by
  obtain ⟨target, htarget, h⟩ := except_bind_ok.1 h
  obtain ⟨p, -, h⟩ := except_bind_ok.1 h
  obtain ⟨engine, -, h⟩ := except_bind_ok.1 h
  obtain ⟨row, -, h⟩ := except_bind_ok.1 h
  cases row with
  | none => cases h
  | some targetRow =>
    obtain ⟨relatedCache, hcache, h⟩ := except_bind_ok.1 h
    obtain rfl := except_pure_ok.1 h
    refine ⟨htarget, fun name mapping hget => ?_⟩
    cases hfound : relatedCache.get? name with
    | none => simp [hfound] at hget
    | some found =>
      rw [hfound, Option.getD_some] at hget
      rw [← hget]
      exact resolved_of_cache (fun name => resolve (seen (.related name)) name ctx) hcache hfound

/-- The rows that the loop leaves, with what they were extracted with. -/
theorem keeps_of_leaves {l : List ((FieldRow × Int) × Nat)} {rows : List (Option DatasetRow)}
    (h : List.Forall₂ (Leaves env.std (fun i reference time => (extractAmid
      { env with world := later i } db (activations.seen db i) contract ctx reference time
        { pool }).1) definition identityField) l rows) :
    ∃ kept, List.Forall₂ (Keeps env activations later db contract ctx pool definition identityField)
      l kept ∧ rows.reduceOption = kept.reduceOption.map (·.row) := by
  induction h with
  | nil => exact ⟨[], .nil, rfl⟩
  | cons hrow _ ih =>
    obtain ⟨kept, hkept, hrows⟩ := ih
    cases hrow with
    | found time extracted =>
      obtain ⟨reads, hreads⟩ := readsAmid_of_extracted extracted
      refine ⟨some ⟨_, reads⟩ :: kept, .cons (.found time extracted hreads) hkept, ?_⟩
      rw [List.reduceOption_cons_of_some, List.reduceOption_cons_of_some, List.map_cons, hrows]
    | gone time raised notFound =>
      refine ⟨none :: kept, .cons (.gone time raised notFound) hkept, ?_⟩
      rw [List.reduceOption_cons_of_none, List.reduceOption_cons_of_none, hrows]

/-- What a kept row was extracted with. -/
theorem keeps_reads {l : List ((FieldRow × Int) × Nat)} {kept : List (Option KeptRow)}
    (h : List.Forall₂ (Keeps env activations later db contract ctx pool definition identityField)
      l kept) {k : KeptRow} (hk : k ∈ kept.reduceOption) :
    ∃ i reference, readsAmid { env with world := later i } db (activations.seen db i) contract ctx
      pool reference = .ok k.reads := by
  rw [List.reduceOption_mem_iff] at hk
  induction h with
  | nil => cases hk
  | cons hrow _ ih =>
    rcases List.mem_cons.1 hk with rfl | hk
    · cases hrow with
      | found time extracted read => exact ⟨_, _, read⟩
    · exact ih hk

end Kept

/-! ## The lineage of one extraction -/

section Lineage

variable {env : Environment} {db : ControlPlane} {seen : Reading → ControlPlane}
  {contract : FeatureContract} {ctx : TenantContext} {pool : PoolRegistry} {reads : Reads}
  {predictionTime : DateTime} {name : String} {version : Uuid}

/-- The loop over the features keeps the version of an entity once it has it. -/
theorem version_kept {mapping : ResolvedMapping} {features : List FeatureSpec}
    (hmapping : (reads.relatedCache.get? name).getD none = some mapping)
    (hversion : mapping.schemaMapping.activeVersionId = some version)
    {extracted extracted' : Extracted}
    (hstart : extracted.relatedMappingVersionIds.get? name = some version)
    (h : features.foldlM (fun extracted feature => do
      recorded env.std extracted feature (← featureOutcome env db ctx pool reads.relatedCache
        reads.targetRow predictionTime feature)) extracted = .ok extracted') :
    extracted'.relatedMappingVersionIds.get? name = some version := by
  refine except_foldlM_ok (P := fun e => e.relatedMappingVersionIds.get? name = some version)
    (fun e feature e' _ he hstep => ?_) hstart h
  obtain ⟨outcome, houtcome, hstep⟩ := except_bind_ok.1 hstep
  obtain ⟨value, -, hstep⟩ := except_bind_ok.1 hstep
  cases hstep
  have hset : ∀ entity found active, (reads.relatedCache.get? entity).getD none = some found →
      found.schemaMapping.activeVersionId = some active →
        (Dict.set e.relatedMappingVersionIds entity active).get? name = some version := by
    intro entity found active hfound hactive
    rw [Dict.get?_set]
    split
    · rename_i heq
      rw [heq, hfound] at hmapping
      obtain rfl : found = mapping := Option.some.inj hmapping
      exact hactive.symm.trans hversion
    · exact he
  cases featureOutcome_iff.1 houtcome with
  | direct => exact he
  | derived => exact he
  | unmapped => exact he
  | unjoined entity _ found active _ _ _ hfound hactive => exact hset entity found active hfound hactive
  | asked entity _ found active _ _ _ _ _ _ _ _ hfound hactive =>
    exact hset entity found active hfound hactive

/-- A feature whose entity has a mapping records its version. -/
theorem outcome_version {feature : FeatureSpec} {mapping : ResolvedMapping} {outcome : Outcome}
    (hkind : ¬feature.kind.onTarget) (hentity : feature.relatedEntity = some name)
    (hmapping : (reads.relatedCache.get? name).getD none = some mapping)
    (hversion : mapping.schemaMapping.activeVersionId = some version)
    (h : featureOutcome env db ctx pool reads.relatedCache reads.targetRow predictionTime feature =
      .ok outcome) : outcome.version = some (name, version) := by
  have hsame : ∀ entity found active, feature.relatedEntity = some entity →
      (reads.relatedCache.get? entity).getD none = some found →
        found.schemaMapping.activeVersionId = some active → entity = name ∧ active = version := by
    intro entity found active hfeature hfound hactive
    obtain rfl : entity = name := Option.some.inj (hfeature.symm.trans hentity)
    obtain rfl : found = mapping := Option.some.inj (hfound.symm.trans hmapping)
    exact ⟨rfl, Option.some.inj (hactive.symm.trans hversion)⟩
  cases featureOutcome_iff.1 h with
  | direct f hdirect => exact absurd (by simp [FeatureKind.onTarget, hdirect]) hkind
  | derived f derive raw hderived => exact absurd (by simp [FeatureKind.onTarget, hderived]) hkind
  | unmapped entity fkField _ hfeature _ hnone =>
    obtain rfl : entity = name := Option.some.inj (hfeature.symm.trans hentity)
    rw [hnone mapping hmapping] at hversion
    cases hversion
  | unjoined entity fkField found active _ hfeature _ hfound hactive =>
    obtain ⟨rfl, rfl⟩ := hsame entity found active hfeature hfound hactive
    rfl
  | asked entity fkField found active _ _ _ _ _ _ hfeature _ hfound hactive =>
    obtain ⟨rfl, rfl⟩ := hsame entity found active hfeature hfound hactive
    rfl

/-- An extraction itself records every mapping version that contributes to it. -/
theorem contributes_recorded {businessReference : String} {batch : FeatureBatch}
    (h : (extractAmid env db seen contract ctx businessReference predictionTime { pool }).1 =
      .ok batch)
    (hreads : readsAmid env db seen contract ctx pool businessReference = .ok reads)
    (hcontributes : Contributes contract reads name version) :
    name = contract.targetEntity ∧ batch.lineage.targetMappingVersionId = version ∨
      batch.lineage.relatedMappingVersionIds.get? name = some version := by
  rw [(extractAmid_computes businessReference predictionTime _ onRoutes_start).2] at h
  unfold readsAmid at hreads
  obtain ⟨target, htarget, h⟩ := except_bind_ok.1 h
  obtain ⟨p, hp, h⟩ := except_bind_ok.1 h
  obtain ⟨engine, hengine, h⟩ := except_bind_ok.1 h
  obtain ⟨row, hrow, h⟩ := except_bind_ok.1 h
  simp only [htarget, except_ok_bind, hp, hengine, hrow] at hreads
  cases row with
  | none => cases h
  | some targetRow =>
    obtain ⟨relatedCache, hcache, h⟩ := except_bind_ok.1 h
    simp only [hcache, except_ok_bind] at hreads
    obtain rfl := except_pure_ok.1 hreads
    obtain ⟨extracted, hextracted, h⟩ := except_bind_ok.1 h
    cases hactive : target.schemaMapping.activeVersionId with
    | none => rw [hactive] at h; cases h
    | some active =>
      rw [hactive] at h
      obtain rfl := except_pure_ok.1 h
      cases hcontributes with
      | target hversion => exact .inl ⟨rfl, Option.some.inj (hactive.symm.trans hversion)⟩
      | @related feature _ fkField mapping _ joinValue hmem hkind hentity hfield hmapping hversion
          hjoin =>
        right
        obtain ⟨before, after, hsplit⟩ := List.append_of_mem hmem
        rw [hsplit, List.foldlM_append] at hextracted
        obtain ⟨middle, -, hextracted⟩ := except_bind_ok.1 hextracted
        rw [List.foldlM_cons] at hextracted
        obtain ⟨next, hstep, hrest⟩ := except_bind_ok.1 hextracted
        obtain ⟨outcome, houtcome, hstep⟩ := except_bind_ok.1 hstep
        obtain ⟨value, -, hstep⟩ := except_bind_ok.1 hstep
        have hrecorded : outcome.version = some (name, version) :=
          outcome_version hkind hentity hmapping hversion houtcome
        refine version_kept hmapping hversion ?_ hrest
        cases hstep
        simp only [hrecorded]
        rw [Dict.get?_set, if_pos rfl]

end Lineage

/-- The lineage of a dataset that is built amid activations names every mapping version that
contributes to a row if and only if no other entity than the target's contributes to one. -/
theorem lineage_pins_iff (env : Environment) (activations : Activations)
    (later : Nat → Engine → CustomerDatabase) (db : ControlPlane) (definition : DatasetDefinition)
    (contract : FeatureContract) (ctx : TenantContext) (pool : PoolRegistry)
    (dataset : BuiltDataset)
    (h : (buildAmid env activations later db definition contract ctx { pool }).1 = .ok dataset) :
    ∃ start p engine identityField records kept,
      Features.resolveTarget db contract.targetEntity ctx = .ok start ∧
      connectionAndSnapshotFor db start ctx = .ok p ∧
      routeOf env db ctx pool p.1.id = .ok engine ∧
      identityFieldName start.document = .ok identityField ∧
      Enumerated env.std (env.world engine) start.document definition identityField records ∧
      List.Forall₂ (Keeps env activations later db contract ctx pool definition identityField)
        (labelledRecords definition.label records).zipIdx kept ∧
      dataset.splits.train ++ dataset.splits.validation ++ dataset.splits.test =
        kept.reduceOption.map (·.row) ∧
      (Pins contract dataset kept.reduceOption ↔
        ∀ k ∈ kept.reduceOption, OnlyTargetEntity contract k.reads) := by
  obtain ⟨start, p, engine, identityField, records, rows, version, hstart, hp, hroute, hidentity,
    hrecords, -, hleaves, hversion, hlineage, haccounts⟩ := buildWith_ok (fun i reference time =>
      computes_later (extractAmid_computes reference time)) h
  obtain ⟨kept, hkept, hrows⟩ := keeps_of_leaves hleaves
  refine ⟨start, p, engine, identityField, records, kept, hstart, hp, hroute, hidentity, hrecords,
    hkept, haccounts.splits.trans hrows, ?_⟩
  have hnames : ∀ name version', dataset.manifest.lineage.mappingVersionIds.get? name =
      some version' ↔ name = contract.targetEntity ∧ version' = version := by
    intro name version'
    rw [hlineage, Dict.get?_ofList_singleton]
    by_cases hname : name = contract.targetEntity
    · simp [hname, eq_comm]
    · simp [hname]
  constructor
  · intro hpins k hk feature hmem hkind name fkField hentity hfield hother
    by_contra hasked
    rw [not_or] at hasked
    obtain ⟨mapping, hmapping⟩ := Option.ne_none_iff_exists'.1 hasked.1
    obtain ⟨joinValue, hjoin⟩ := Option.ne_none_iff_exists'.1 hasked.2
    obtain ⟨i, reference, hread⟩ := keeps_reads hkept hk
    obtain ⟨active, -, -, hactive, -⟩ := resolve_some ((readsAmid_ok hread).2 name mapping hmapping)
    have hnamed := hpins k hk name active.id
      (.related hmem hkind hentity hfield hmapping hactive hjoin)
    exact hother ((hnames name active.id).1 hnamed).1
  · intro honly k hk name version' hcontributes
    obtain ⟨i, reference, hread⟩ := keeps_reads hkept hk
    obtain ⟨htarget, hrelated⟩ := readsAmid_ok hread
    have hstays : ∀ resolved reading, resolve (activations.seen db i reading) contract.targetEntity
        ctx = .ok (some resolved) → resolved.schemaMapping.activeVersionId = some version' →
          version' = version := by
      intro resolved reading hresolve hactive
      rw [resolve_activated (resolveTarget_ok hstart) hresolve, hversion] at hactive
      exact (Option.some.inj hactive).symm
    rw [hnames]
    cases hcontributes with
    | target hactive => exact ⟨rfl, hstays _ _ (resolveTarget_ok htarget) hactive⟩
    | related hmem hkind hentity hfield hmapping hactive hjoin =>
      have hname : name = contract.targetEntity := by
        by_contra hother
        rcases honly k hk _ hmem hkind _ _ hentity hfield hother with hnone | hnull
        · rw [hnone] at hmapping
          cases hmapping
        · rw [hnull] at hjoin
          cases hjoin
      have hresolve := hrelated name _ hmapping
      rw [hname] at hresolve
      exact ⟨hname, hstays _ _ hresolve hactive⟩

namespace Sample

open HermesRpt.Extraction.Sample (active version trips tripRow servedTrips delays serving oneTable
  completedEvents)

/-- The mapping of the trips is active, the one of the maintenance events is approved. -/
def approvedEvents : ControlPlane :=
  { servedTrips with
    mappings := ⟨[active 30 1 "Trip", { active 31 1 "MaintenanceEvent" with
      state := .APPROVED, activeVersionId := none }], by decide⟩
    versions := ⟨[version trips, { version completedEvents with id := 41, schemaMappingId := 31 }],
      by decide⟩ }

/-- Between the extraction of the first trip and that of the second it is activated. -/
def betweenTrips : Activations where
  calls := [(HermesRpt.Sample.ctx, 31)]
  done i _ := i

def tripOf (id : String) (departs : DateTime) : Sql.Row Value := fun column =>
  if column = "vehicle_no" then some (.str "v1") else tripRow id departs "cancelled" none column

def twoTrips : Environment :=
  serving (oneTable "vehicles" [tripOf "t0" ⟨1000, 0⟩, tripOf "t1" ⟨2000, 0⟩])

def eventContract : FeatureContract where
  taskKey := "delays"
  version := "1"
  targetEntity := "Trip"
  features := [Features.Sample.completedCount]

def amid : Except PyError BuiltDataset :=
  (buildAmid twoTrips betweenTrips (fun _ => twoTrips.world) approvedEvents delays eventContract
    HermesRpt.Sample.ctx { pool := Keyed.Table.empty }).1

def secondReads : Except PyError Reads :=
  readsAmid twoTrips approvedEvents (betweenTrips.seen approvedEvents 1) eventContract
    HermesRpt.Sample.ctx Keyed.Table.empty "t1"

/-- The rows of a dataset, and the versions that its lineage names. -/
def named (dataset : BuiltDataset) : List String × Option Uuid × Option Uuid :=
  ((dataset.splits.train ++ dataset.splits.validation ++ dataset.splits.test).map
      (·.businessReference),
    dataset.manifest.lineage.mappingVersionIds.get? "Trip",
    dataset.manifest.lineage.mappingVersionIds.get? "MaintenanceEvent")

/-- The version of the maintenance events that a row is extracted with, and its join value. -/
def used (reads : Reads) : Option Uuid × Option Value :=
  (((reads.relatedCache.get? "MaintenanceEvent").getD none).bind
      (·.schemaMapping.activeVersionId),
    reads.targetRow.value "vehicle_id")

end Sample

theorem lineage_pins_iff_sample : ∃ dataset, Sample.amid = .ok dataset ∧
    ∃ start p engine identityField records kept,
      Features.resolveTarget Sample.approvedEvents "Trip" HermesRpt.Sample.ctx = .ok start ∧
      connectionAndSnapshotFor Sample.approvedEvents start HermesRpt.Sample.ctx = .ok p ∧
      routeOf Sample.twoTrips Sample.approvedEvents HermesRpt.Sample.ctx Keyed.Table.empty p.1.id =
        .ok engine ∧
      identityFieldName start.document = .ok identityField ∧
      Enumerated Sample.twoTrips.std (Sample.twoTrips.world engine) start.document
        Extraction.Sample.delays identityField records ∧
      List.Forall₂ (Keeps Sample.twoTrips Sample.betweenTrips (fun _ => Sample.twoTrips.world)
          Sample.approvedEvents Sample.eventContract HermesRpt.Sample.ctx Keyed.Table.empty
          Extraction.Sample.delays identityField)
        (labelledRecords Extraction.Sample.delays.label records).zipIdx kept ∧
      dataset.splits.train ++ dataset.splits.validation ++ dataset.splits.test =
        kept.reduceOption.map (·.row) ∧
      (Pins Sample.eventContract dataset kept.reduceOption ↔
        ∀ k ∈ kept.reduceOption, OnlyTargetEntity Sample.eventContract k.reads) := by
  have hnamed : Sample.amid.map Sample.named = .ok (["t0", "t1"], some 40, none) := by
    decide +kernel
  cases hbuilt : Sample.amid with
  | error e =>
    rw [hbuilt] at hnamed
    cases hnamed
  | ok dataset =>
    refine ⟨dataset, rfl, ?_⟩
    exact lineage_pins_iff Sample.twoTrips Sample.betweenTrips (fun _ => Sample.twoTrips.world)
      Sample.approvedEvents Extraction.Sample.delays Sample.eventContract HermesRpt.Sample.ctx
      Keyed.Table.empty dataset hbuilt

/-- The second trip is extracted with a mapping of maintenance events that the lineage does not
name. -/
theorem event_version_unnamed : ∃ dataset reads, Sample.amid = .ok dataset ∧
    (∃ row ∈ dataset.splits.train ++ dataset.splits.validation ++ dataset.splits.test,
      row.businessReference = "t1") ∧
    readsAmid Sample.twoTrips Sample.approvedEvents
        (Sample.betweenTrips.seen Sample.approvedEvents 1) Sample.eventContract
        HermesRpt.Sample.ctx Keyed.Table.empty "t1" = .ok reads ∧
    Contributes Sample.eventContract reads "MaintenanceEvent" 41 ∧
    dataset.manifest.lineage.mappingVersionIds.get? "MaintenanceEvent" = none := by
  have hnamed : Sample.amid.map Sample.named = .ok (["t0", "t1"], some 40, none) := by
    decide +kernel
  have hused : Sample.secondReads.map Sample.used = .ok (some 41, some (.str "v1")) := by
    decide +kernel
  cases hbuilt : Sample.amid with
  | error e =>
    rw [hbuilt] at hnamed
    cases hnamed
  | ok dataset =>
    cases hreads : Sample.secondReads with
    | error e =>
      rw [hreads] at hused
      cases hused
    | ok reads =>
      rw [hbuilt] at hnamed
      rw [hreads] at hused
      have hrows := congrArg Prod.fst (Except.ok.inj hnamed)
      have hlineage := congrArg (fun p => p.2.2) (Except.ok.inj hnamed)
      have hevents := congrArg Prod.fst (Except.ok.inj hused)
      have hjoin := congrArg Prod.snd (Except.ok.inj hused)
      obtain ⟨mapping, hmapping, hversion⟩ := Option.bind_eq_some_iff.1 hevents
      refine ⟨dataset, reads, rfl, ?_, hreads, ?_, hlineage⟩
      · have hmem : "t1" ∈ (Sample.named dataset).1 := by
          rw [show (Sample.named dataset).1 = ["t0", "t1"] from hrows]
          simp
        exact List.mem_map.1 hmem
      · have hcount : Features.Sample.completedCount ∈ Sample.eventContract.features :=
          List.mem_singleton.2 rfl
        exact .related hcount (by decide) rfl rfl hmapping hversion hjoin

end Datasets

end HermesRpt
