import HermesRpt.Extraction.Agreement
import HermesRpt.Transformer.Encoding

/-!
# HermesRpt.Transformer.Tensors

`build_example` followed by `encode_batch`, for one target trip. Like an extraction, the example
does not depend on when the call asks for its engines.

* `tensors`    : the batch.
* `relatedOf`  : the fetched records of one relation.
* `encodeRows` : the block of one relation, from its records.
* `tensors_ok` : the batch is the target's position followed by the blocks.
-/

namespace HermesRpt

namespace Transformer

open Effect Connectors Features Extraction

/-- The batch of one example. -/
def tensors (env : Environment) (db : ControlPlane) (ctx : TenantContext) (pool : PoolRegistry)
    (businessReference : String) (predictionTime : DateTime) (label : Option Int)
    (maxRecordsPerRelation : Nat) (vocabSize : Int) : Except PyError EncodedBatch := do
  let ex ← (buildExample env db ctx businessReference predictionTime label maxRecordsPerRelation
    { pool }).1
  encodeBatch env.std [ex] maxRecordsPerRelation vocabSize

/-! ## The example -/

/-- The engine and the connection of a mapping. -/
def engineOf (env : Environment) (db : ControlPlane) (ctx : TenantContext) (pool : PoolRegistry)
    (resolved : ResolvedMapping) : Except PyError (Engine × CustomerDatabaseConnection) := do
  let (connection, _) ← connectionAndSnapshotFor db resolved ctx
  let engine ← routeOf env db ctx pool connection.id
  return (engine, connection)

/-- The records of one relation. -/
def relatedOf (env : Environment) (db : ControlPlane) (ctx : TenantContext) (pool : PoolRegistry)
    (rawTarget : FieldRow) (predictionTime : DateTime) (k : Nat) (spec : RelationSpec) :
    Except PyError (List FieldRow) :=
  match rawTarget.value spec.fromTargetField with
  | none => .ok []
  | some joinValue => do
    match ← resolve db spec.entity ctx with
    | none => return []
    | some resolved =>
      let (engine, connection) ← engineOf env db ctx pool resolved
      relatedRecordsPlan env.std resolved.document spec.joinField joinValue spec.timestampField
        (some predictionTime) k connection >>= Plan.result (env.world engine)

/-- Fetched rows as records of their relation. -/
def asRecords (spec : RelationSpec) (rows : List FieldRow) : List RelationalRecord :=
  rows.map fun row => ⟨spec.entity, spec.relationship, row⟩

/-- What `build_example` gives from the registry `pool` on. -/
def exampleOf (env : Environment) (db : ControlPlane) (ctx : TenantContext) (pool : PoolRegistry)
    (businessReference : String) (predictionTime : DateTime) (label : Option Int) (k : Nat) :
    Except PyError RelationalExample := do
  let targetMapping ← Features.resolveTarget db "Trip" ctx
  let (engine, connection) ← engineOf env db ctx pool targetMapping
  let needed ← neededFields
  match ← targetRowPlan env.std targetMapping.document businessReference needed connection >>=
      Plan.result (env.world engine) with
  | none => .error (targetRecordNotFound businessReference)
  | some rawTarget =>
    let related ← relationSpecs.foldlM (fun related spec => do
      return related ++ asRecords spec (← relatedOf env db ctx pool rawTarget predictionTime k spec))
      []
    return {
      businessReference, predictionTime, label, target := ⟨"Trip", "__target__", rawTarget⟩,
      related, targetMappingVersionId := targetMapping.schemaMapping.activeVersionId }

section

variable {env : Environment} {db : ControlPlane} {ctx : TenantContext} {pool : PoolRegistry}

theorem engineForMapping_computes (resolved : ResolvedMapping) :
    Computes (OnRoutes env db ctx pool) (engineForMapping env db resolved ctx)
      (engineOf env db ctx pool resolved) := by
  refine (Computes.lift _).bind fun p _ => ?_
  exact (engineFor_computes p.1.id).bind fun engine _ => .pure _

theorem serves_of_engineOf {resolved : ResolvedMapping} {q : Engine × CustomerDatabaseConnection}
    (h : engineOf env db ctx pool resolved = .ok q) : Serves env db ctx pool q.1 := by
  obtain ⟨p, -, h⟩ := except_bind_ok.1 h
  obtain ⟨engine, hengine, h⟩ := except_bind_ok.1 h
  cases h
  exact serves_of_routeOf hengine

theorem addRelation_computes (rawTarget : FieldRow) (predictionTime : DateTime) (k : Nat)
    (related : List RelationalRecord) (spec : RelationSpec) :
    Computes (OnRoutes env db ctx pool)
      (addRelation env db ctx rawTarget predictionTime k related spec) (do
        return related ++
          asRecords spec (← relatedOf env db ctx pool rawTarget predictionTime k spec)) := by
  unfold addRelation relatedOf
  cases rawTarget.value spec.fromTargetField with
  | none =>
    simp only [asRecords, except_ok_bind, List.map_nil, List.append_nil]
    exact .pure related
  | some joinValue =>
    simp only [bind_assoc]
    refine (Computes.lift _).bind fun resolved _ => ?_
    cases resolved with
    | none =>
      simp only [asRecords, pure_bind, List.map_nil, List.append_nil]
      exact .pure related
    | some resolved =>
      rw [bind_assoc (m := Except PyError)]
      refine (engineForMapping_computes resolved).bind fun q hq => ?_
      rw [fetchRelatedRecords_perform]
      refine (perform_computes (serves_of_engineOf hq) _).bind fun rows _ => ?_
      exact .pure _

/-- `build_example` gives `exampleOf` at every point of a call. -/
theorem buildExample_computes (businessReference : String) (predictionTime : DateTime)
    (label : Option Int) (k : Nat) :
    Computes (OnRoutes env db ctx pool)
      (buildExample env db ctx businessReference predictionTime label k)
      (exampleOf env db ctx pool businessReference predictionTime label k) := by
  unfold buildExample exampleOf
  refine (Computes.lift _).bind fun target _ => ?_
  refine (engineForMapping_computes target).bind fun q hq => ?_
  refine (Computes.lift _).bind fun needed _ => ?_
  rw [fetchTargetRow_perform]
  refine (perform_computes (serves_of_engineOf hq) _).bind fun row _ => ?_
  cases row with
  | none => exact .raise _
  | some rawTarget =>
    refine (Computes.foldlM (fun related spec _ =>
      addRelation_computes rawTarget predictionTime k related spec) []).bind fun related _ => ?_
    exact .pure _

end

/-! ## The encoding -/

/-- The block of one relation with these rows. -/
def encodeRows (std : Stdlib) (vocabSize : Int) (k : Nat) (spec : RelationSpec)
    (rows : List FieldRow) : Except PyError (List Position) := do
  let written ← (rows.take k).mapM fun row =>
    writeRecord std vocabSize ⟨spec.entity, spec.relationship, row⟩
  return written ++ List.replicate (k - (rows.take k).length) .padding

theorem relationOrder_eq : relationOrder = relationSpecs.map (·.relationship) := by decide

theorem filter_asRecords (spec : RelationSpec) (rows : List FieldRow) (relationship : String) :
    (asRecords spec rows).filter (·.relationship = relationship) =
      if spec.relationship = relationship then asRecords spec rows else [] := by
  have hname : ∀ record ∈ asRecords spec rows, record.relationship = spec.relationship := by
    intro record hrecord
    obtain ⟨row, -, rfl⟩ := List.mem_map.1 hrecord
    rfl
  split
  · rename_i h
    exact List.filter_eq_self.2 fun record hrecord => by simp [hname record hrecord, h]
  · rename_i h
    exact List.filter_eq_nil_iff.2 fun record hrecord => by simp [hname record hrecord, h]

section

variable {rows : RelationSpec → List FieldRow} {spec : RelationSpec}

/-- The records of a relation among those of all relations. -/
theorem filter_related (h : spec ∈ relationSpecs) :
    (relationSpecs.flatMap fun spec => asRecords spec (rows spec)).filter
      (·.relationship = spec.relationship) = asRecords spec (rows spec) := by
  rw [List.filter_flatMap]
  simp only [filter_asRecords]
  simp only [relationSpecs, List.mem_cons, List.not_mem_nil, or_false] at h
  rcases h with rfl | rfl | rfl | rfl | rfl | rfl <;> simp [relationSpecs]

theorem checkRelationships_related :
    checkRelationships (relationSpecs.flatMap fun spec => asRecords spec (rows spec)) = .ok () := by
  have hnone : (relationSpecs.flatMap fun spec => asRecords spec (rows spec)).find?
      (·.relationship ∉ relationOrder) = none := by
    rw [List.find?_eq_none]
    intro record hrecord
    obtain ⟨spec, hspec, hrecord⟩ := List.mem_flatMap.1 hrecord
    obtain ⟨row, -, rfl⟩ := List.mem_map.1 hrecord
    rw [relationOrder_eq]
    simpa using ⟨spec, hspec, rfl⟩
  rw [checkRelationships, hnone]

theorem encodeExample_related (std : Stdlib) (vocabSize : Int) (k : Nat) {ex : RelationalExample}
    (h : ex.related = relationSpecs.flatMap fun spec => asRecords spec (rows spec)) :
    encodeExample std vocabSize k ex = (do
      let target ← writeRecord std vocabSize ex.target
      let blocks ← relationSpecs.mapM fun spec => encodeRows std vocabSize k spec (rows spec)
      return target :: blocks.flatten) := by
  have hblocks : relationOrder.mapM (encodeBlock std vocabSize k ex.related) =
      relationSpecs.mapM fun spec => encodeRows std vocabSize k spec (rows spec) := by
    rw [relationOrder_eq, List.mapM_map]
    refine except_mapM_congr fun spec hspec => ?_
    rw [Function.comp_apply, encodeBlock, h, filter_related hspec, asRecords, ← List.map_take,
      List.mapM_map, List.length_map]
    rfl
  unfold encodeExample
  rw [hblocks, h, checkRelationships_related]
  rfl

end

/-! ## The batch -/

/-- The fields of a trip that are encoded. -/
def tripFields : List String :=
  ["planned_distance_km", "status", "driver_id", "route_id", "vehicle_id", "planned_departure_at",
    "planned_arrival_at", "actual_departure_at", "actual_arrival_at"]

theorem neededFields_eq : neededFields = .ok tripFields := rfl

/-- The rows that an example is made of. -/
structure Fetched (env : Environment) (db : ControlPlane) (ctx : TenantContext)
    (pool : PoolRegistry) (businessReference : String) (predictionTime : DateTime) (k : Nat)
    (trip : ResolvedMapping) (q : Engine × CustomerDatabaseConnection) (rawTarget : FieldRow)
    (rows : RelationSpec → List FieldRow) : Prop where
  resolved : Features.resolveTarget db "Trip" ctx = .ok trip
  engine : engineOf env db ctx pool trip = .ok q
  target : (targetRowPlan env.std trip.document businessReference tripFields q.2 >>=
    Plan.result (env.world q.1)) = .ok (some rawTarget)
  related : ∀ spec ∈ relationSpecs,
    relatedOf env db ctx pool rawTarget predictionTime k spec = .ok (rows spec)

/-- The positions of an example. -/
structure Written (std : Stdlib) (k : Nat) (vocabSize : Int) (rawTarget : FieldRow)
    (rows : RelationSpec → List FieldRow) (target : Position)
    (blocks : RelationSpec → List Position) : Prop where
  target : writeRecord std vocabSize ⟨"Trip", "__target__", rawTarget⟩ = .ok target
  blocks : ∀ spec ∈ relationSpecs, encodeRows std vocabSize k spec (rows spec) = .ok (blocks spec)

/-- The batch of one example. -/
def batchOf (label : Option Int) (target : Position) (blocks : RelationSpec → List Position) :
    EncodedBatch where
  positions := [target :: relationSpecs.flatMap blocks]
  labels := label.map fun label : Int => [(label : ℚ)]

section

variable {env : Environment} {db : ControlPlane} {ctx : TenantContext} {pool : PoolRegistry}
  {businessReference : String} {predictionTime : DateTime} {label : Option Int} {k : Nat}
  {vocabSize : Int}

theorem exampleOf_ok {ex : RelationalExample} :
    exampleOf env db ctx pool businessReference predictionTime label k = .ok ex ↔
      ∃ trip q rawTarget rows,
        Fetched env db ctx pool businessReference predictionTime k trip q rawTarget rows ∧
        ex = {
          businessReference, predictionTime, label, target := ⟨"Trip", "__target__", rawTarget⟩,
          related := relationSpecs.flatMap fun spec => asRecords spec (rows spec),
          targetMappingVersionId := trip.schemaMapping.activeVersionId } := by
  rw [exampleOf, neededFields_eq]
  constructor
  · intro h
    obtain ⟨trip, htrip, h⟩ := except_bind_ok.1 h
    obtain ⟨⟨engine, connection⟩, hq, h⟩ := except_bind_ok.1 h
    simp only [except_ok_bind] at h
    obtain ⟨row, hrow, h⟩ := except_bind_ok.1 h
    cases row with
    | none => cases h
    | some rawTarget =>
      obtain ⟨related, hrelated, h⟩ := except_bind_ok.1 h
      obtain ⟨rows, hrows, rfl⟩ := except_foldlM_append.1 hrelated
      cases h
      exact ⟨trip, (engine, connection), rawTarget, rows, ⟨htrip, hq, hrow, hrows⟩, rfl⟩
  · rintro ⟨trip, ⟨engine, connection⟩, rawTarget, rows, h, rfl⟩
    refine except_bind_ok.2 ⟨trip, h.resolved, except_bind_ok.2 ⟨(engine, connection), h.engine, ?_⟩⟩
    simp only [except_ok_bind]
    refine except_bind_ok.2 ⟨some rawTarget, h.target, except_bind_ok.2 ⟨_, ?_, rfl⟩⟩
    exact except_foldlM_append.2 ⟨rows, h.related, rfl⟩

theorem encodeBatch_ok {ex : RelationalExample} {rows : RelationSpec → List FieldRow}
    {rawTarget : FieldRow} {batch : EncodedBatch} (hlabel : ex.label = label)
    (htarget : ex.target = ⟨"Trip", "__target__", rawTarget⟩)
    (hrelated : ex.related = relationSpecs.flatMap fun spec => asRecords spec (rows spec)) :
    encodeBatch env.std [ex] k vocabSize = .ok batch ↔
      ∃ target blocks, Written env.std k vocabSize rawTarget rows target blocks ∧
        batch = batchOf label target blocks := by
  have hlabels : batchLabels [ex] = label.map fun label : Int => [(label : ℚ)] := by
    rw [← hlabel]
    cases hlabel : ex.label <;> simp [batchLabels, hlabel]
  unfold encodeBatch
  rw [List.mapM_cons, List.mapM_nil, encodeExample_related env.std vocabSize k hrelated, htarget,
    hlabels]
  constructor
  · intro h
    obtain ⟨positions, hpositions, h⟩ := except_bind_ok.1 h
    obtain ⟨p, hp, hpositions⟩ := except_bind_ok.1 hpositions
    obtain ⟨target, htarget, hp⟩ := except_bind_ok.1 hp
    obtain ⟨written, hwritten, hp⟩ := except_bind_ok.1 hp
    obtain ⟨blocks, hblocks, rfl⟩ := except_mapM_exists.1 hwritten
    cases hp
    cases hpositions
    cases h
    exact ⟨target, blocks, ⟨htarget, hblocks⟩, rfl⟩
  · rintro ⟨target, blocks, h, rfl⟩
    refine except_bind_ok.2 ⟨[target :: relationSpecs.flatMap blocks], ?_, rfl⟩
    refine except_bind_ok.2 ⟨_, except_bind_ok.2 ⟨target, h.target, except_bind_ok.2
      ⟨relationSpecs.map blocks, except_mapM_exists.2 ⟨blocks, h.blocks, rfl⟩, rfl⟩⟩, rfl⟩

/-- What a batch is made of. -/
theorem tensors_ok {batch : EncodedBatch} :
    tensors env db ctx pool businessReference predictionTime label k vocabSize = .ok batch ↔
      ∃ trip q rawTarget rows target blocks,
        Fetched env db ctx pool businessReference predictionTime k trip q rawTarget rows ∧
        Written env.std k vocabSize rawTarget rows target blocks ∧
        batch = batchOf label target blocks := by
  unfold tensors
  rw [(buildExample_computes _ _ _ _ _ onRoutes_start).2]
  constructor
  · intro h
    obtain ⟨ex, hex, h⟩ := except_bind_ok.1 h
    obtain ⟨trip, q, rawTarget, rows, hfetched, rfl⟩ := exampleOf_ok.1 hex
    obtain ⟨target, blocks, hwritten, rfl⟩ := (encodeBatch_ok rfl rfl rfl).1 h
    exact ⟨trip, q, rawTarget, rows, target, blocks, hfetched, hwritten, rfl⟩
  · rintro ⟨trip, q, rawTarget, rows, target, blocks, hfetched, hwritten, rfl⟩
    refine except_bind_ok.2 ⟨_, exampleOf_ok.2 ⟨trip, q, rawTarget, rows, hfetched, rfl⟩, ?_⟩
    exact (encodeBatch_ok rfl rfl rfl).2 ⟨target, blocks, hwritten, rfl⟩

theorem length_encodeRows {std : Stdlib} {spec : RelationSpec} {rows : List FieldRow}
    {block : List Position} (h : encodeRows std vocabSize k spec rows = .ok block) :
    block.length = k := by
  obtain ⟨written, hwritten, h⟩ := except_bind_ok.1 h
  cases h
  have hlength := (except_mapM_ok.1 hwritten).length_eq
  rw [List.length_append, List.length_replicate, ← hlength, List.length_take]
  omega

/-- Batches with blocks of one length are equal only if their blocks are. -/
theorem batchOf_inj {label : Option Int} {target₁ target₂ : Position}
    {blocks₁ blocks₂ : RelationSpec → List Position}
    (h₁ : ∀ spec ∈ relationSpecs, (blocks₁ spec).length = k)
    (h₂ : ∀ spec ∈ relationSpecs, (blocks₂ spec).length = k)
    (h : batchOf label target₁ blocks₁ = batchOf label target₂ blocks₂) :
    target₁ = target₂ ∧ ∀ spec ∈ relationSpecs, blocks₁ spec = blocks₂ spec := by
  have hpositions := congrArg EncodedBatch.positions h
  simp only [batchOf, List.cons.injEq, and_true] at hpositions
  obtain ⟨htarget, hflat⟩ := hpositions
  have hmap : relationSpecs.map blocks₁ = relationSpecs.map blocks₂ := by
    rw [List.eq_iff_flatten_eq, List.map_map, List.map_map]
    refine ⟨hflat, List.map_congr_left fun spec hspec => ?_⟩
    rw [Function.comp_apply, Function.comp_apply, h₁ spec hspec, h₂ spec hspec]
  exact ⟨htarget, List.map_inj_left.1 hmap⟩

/-- When the batch is a given one. -/
theorem tensors_eq_iff {trip : ResolvedMapping} {q : Engine × CustomerDatabaseConnection}
    {target : Position} {blocks : RelationSpec → List Position}
    (hresolved : Features.resolveTarget db "Trip" ctx = .ok trip)
    (hengine : engineOf env db ctx pool trip = .ok q)
    (hlength : ∀ spec ∈ relationSpecs, (blocks spec).length = k) :
    tensors env db ctx pool businessReference predictionTime label k vocabSize =
        .ok (batchOf label target blocks) ↔
      ∃ rawTarget, (targetRowPlan env.std trip.document businessReference tripFields q.2 >>=
          Plan.result (env.world q.1)) = .ok (some rawTarget) ∧
        writeRecord env.std vocabSize ⟨"Trip", "__target__", rawTarget⟩ = .ok target ∧
        ∀ spec ∈ relationSpecs, ∃ rows,
          relatedOf env db ctx pool rawTarget predictionTime k spec = .ok rows ∧
          encodeRows env.std vocabSize k spec rows = .ok (blocks spec) := by
  rw [tensors_ok]
  constructor
  · rintro ⟨trip', q', rawTarget, rows, target', blocks', hfetched, hwritten, heq⟩
    cases hresolved.symm.trans hfetched.resolved
    cases hengine.symm.trans hfetched.engine
    obtain ⟨rfl, hblocks⟩ :=
      batchOf_inj hlength (fun spec hspec => length_encodeRows (hwritten.blocks spec hspec)) heq
    refine ⟨rawTarget, hfetched.target, hwritten.target, fun spec hspec => ?_⟩
    rw [hblocks spec hspec]
    exact ⟨rows spec, hfetched.related spec hspec, hwritten.blocks spec hspec⟩
  · rintro ⟨rawTarget, htarget, hwritten, hblocks⟩
    choose! rows hrows using hblocks
    exact ⟨trip, q, rawTarget, rows, target, blocks,
      ⟨hresolved, hengine, htarget, fun spec hspec => (hrows spec hspec).1⟩,
      ⟨hwritten, fun spec hspec => (hrows spec hspec).2⟩, rfl⟩

end

end Transformer

end HermesRpt
