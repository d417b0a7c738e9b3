import HermesRpt.Extraction.Recipes
import HermesRpt.Transformer.PointInTime

/-!
# HermesRpt.Transformer.Relations

Which records `build_example` puts next to a target trip, over mappings whose sources are columns.

* `Plain`           : every field of a document is a column.
* `relatedRows`     : the rows of a relation's table with the join value, before the prediction time.
* `RelationRecords` : the first `k` of them, most recent first, as records.
* `Available`       : the tables of the mappings are there and answer.
* `context_exact`   : the related records of an example, and none of them is dropped when it is
  encoded.
-/

namespace HermesRpt

namespace Transformer

open Effect Connectors Mappings Features Extraction
open Keyed (Dict)

/-- Every field is mapped to a column. -/
def Plain (document : MappingDocument) : Prop :=
  ∀ f ∈ document.allFieldMappings.keys, Mapped document f

/-- Mappings whose sources are columns, a trip's by its `trip_id`. -/
structure PlainMappings (db : ControlPlane) (ctx : TenantContext) (trip : ResolvedMapping) : Prop where
  resolved : Features.resolveTarget db "Trip" ctx = .ok trip
  key : trip.document.identity.keys = ["trip_id"]
  plain : ∀ name resolved, resolve db name ctx = .ok (some resolved) → Plain resolved.document
  timed : ∀ spec ∈ relationSpecs, ∀ resolved, resolve db spec.entity ctx = .ok (some resolved) →
    ∀ f, spec.timestampField = some f → Mapped resolved.document f

/-- The mapping that the records of a relation are read by: the entity's, if it has the join
field. -/
def usable (db : ControlPlane) (ctx : TenantContext) (spec : RelationSpec) :
    Option ResolvedMapping :=
  match resolve db spec.entity ctx with
  | .ok (some resolved) =>
    if (columnOf resolved.document spec.joinField).isSome then some resolved else none
  | _ => none

/-- The rows with the join value whose time, if the relation has one, is before the prediction
time. -/
def relatedRows (std : Stdlib) (compare : Sql.Comparison Value) (document : MappingDocument)
    (spec : RelationSpec) (joinValue : Value) (predictionTime : DateTime)
    (rows : List (Sql.Row Value)) : List (Sql.Row Value) :=
  rows.filter fun row =>
    knownEq compare joinValue (fieldValue document (some spec.joinField) row) &&
      spec.timestampField.all fun f =>
        (instantOf std (fieldValue document (some f) row)).any (· < predictionTime)

/-- The `k` most recent of some rows, most recent first; without a time, the first `k`. -/
def FirstRows (std : Stdlib) (document : MappingDocument) (spec : RelationSpec) (k : Nat)
    (rows top : List (Sql.Row Value)) : Prop :=
  match spec.timestampField with
  | none => top = rows.take k
  | some f => Sql.Top (fun row => rankOf std (fieldValue document (some f) row)) k rows top

/-- The record has the values of the mapped fields, and no other. -/
def RecordOfRow (std : Stdlib) (document : MappingDocument) (row : Sql.Row Value)
    (record : FieldRow) : Prop :=
  ∀ f, valueUsed std .relatedRecord document f row = .ok (record.value f)

/-- The records of one relation of the target row: none without a join value or a mapping to read
them by. -/
def RelationRecords (env : Environment) (db : ControlPlane) (ctx : TenantContext)
    (pool : PoolRegistry) (trip : MappingDocument) (targetRow : Sql.Row Value)
    (predictionTime : DateTime) (k : Nat) (spec : RelationSpec) (records : List FieldRow) : Prop :=
  match fieldValue trip (some spec.fromTargetField) targetRow, usable db ctx spec with
  | some joinValue, some resolved => ∃ q relation top,
    engineOf env db ctx pool resolved = .ok q ∧
    (env.world q.1).relation resolved.document.source.schemaName resolved.document.source.table =
      some relation ∧
    FirstRows env.std resolved.document spec k (relatedRows env.std (env.world q.1).compare
      resolved.document spec joinValue predictionTime relation.rows) top ∧
    List.Forall₂ (RecordOfRow env.std resolved.document) top records
  | _, _ => records = []

/-- The encoding of an example writes every related record, in a batch with any others. -/
def DropsNone (std : Stdlib) (k : Nat) (ex : RelationalExample)
    (records : RelationSpec → List FieldRow) : Prop :=
  ∀ (examples : List RelationalExample) (vocabSize : Int) (batch : EncodedBatch) (i : Nat),
    examples[i]? = some ex → encodeBatch std examples k vocabSize = .ok batch →
    ∃ target blocks, batch.positions[i]? = some (target :: relationSpecs.flatMap blocks) ∧
      ∀ spec ∈ relationSpecs, ∃ written,
        List.Forall₂ (fun record position => writeRecord std vocabSize record = .ok position)
          (asRecords spec (records spec)) written ∧
        blocks spec = written ++ List.replicate (k - written.length) .padding

/-- The server orders the timestamps of the relations by the instants they denote. -/
def ServerOrders (env : Environment) (db : ControlPlane) (ctx : TenantContext)
    (pool : PoolRegistry) : Prop :=
  ∀ spec ∈ relationSpecs, ∀ resolved q relation f column,
    resolve db spec.entity ctx = .ok (some resolved) → engineOf env db ctx pool resolved = .ok q →
    (env.world q.1).relation resolved.document.source.schemaName resolved.document.source.table =
      some relation → spec.timestampField = some f → columnOf resolved.document f = some column →
    Chronological env.std (env.world q.1).compare column relation.rows

/-- The example is of a row of the trip's table with the reference. Its related records are those of
each relation, in the order of the relations, and an encoding with the same `k` drops none. -/
def ExactContext (env : Environment) (db : ControlPlane) (ctx : TenantContext)
    (pool : PoolRegistry) (trip : ResolvedMapping) (businessReference : String)
    (predictionTime : DateTime) (k : Nat) (ex : RelationalExample) : Prop :=
  ∃ q relation, engineOf env db ctx pool trip = .ok q ∧
    (env.world q.1).relation trip.document.source.schemaName trip.document.source.table =
      some relation ∧
    ∃ targetRow ∈ relation.rows, knownEq (env.world q.1).compare (.str businessReference)
        (fieldValue trip.document (some "trip_id") targetRow) = true ∧
      ∃ records : RelationSpec → List FieldRow,
        ex.related = relationSpecs.flatMap (fun spec => asRecords spec (records spec)) ∧
        (∀ spec ∈ relationSpecs, RelationRecords env db ctx pool trip.document targetRow
          predictionTime k spec (records spec)) ∧
        DropsNone env.std k ex records

/-- The target trip is there, and every table that is asked answers with readable datetimes. -/
structure Available (env : Environment) (db : ControlPlane) (ctx : TenantContext)
    (pool : PoolRegistry) (trip : ResolvedMapping) (businessReference : String) : Prop where
  target : ∃ q relation, engineOf env db ctx pool trip = .ok q ∧ Allowlisted trip.document q.2 ∧
    Answers (env.world q.1) trip.document relation ∧ ∃ row ∈ relation.rows,
      knownEq (env.world q.1).compare (.str businessReference)
        (fieldValue trip.document (some "trip_id") row) = true
  related : ∀ spec ∈ relationSpecs, ∃ found, resolve db spec.entity ctx = .ok found ∧
    ∀ resolved, found = some resolved → ∃ q relation,
      engineOf env db ctx pool resolved = .ok q ∧ Allowlisted resolved.document q.2 ∧
      Answers (env.world q.1) resolved.document relation ∧ KnownEntity resolved.document ∧
      ∀ row ∈ relation.rows, ∀ f, ∃ v,
        valueUsed env.std .relatedRecord resolved.document f row = .ok v

/-! ## The relations -/

/-- A relation is joined by a field that is read of a trip. -/
theorem fromTarget_read : ∀ spec ∈ relationSpecs,
    spec.fromTargetField ∈ tripFields ∨ spec.fromTargetField = "trip_id" := by decide

theorem given_timestamp : ∀ spec ∈ relationSpecs,
    given spec.timestampField = spec.timestampField := by decide

section

variable {std : Stdlib} {document : MappingDocument} {compare : Sql.Comparison Value}
  {spec : RelationSpec} {joinValue : Value} {predictionTime : DateTime} {k : Nat}
  {rows : List (Sql.Row Value)} {joinColumn : String}

theorem fieldValue_column {f column : String} (h : columnOf document f = some column)
    (row : Sql.Row Value) : fieldValue document (some f) row = row column :=
  fieldValue_of (show (some f).bind (columnOf document) = some column from h) row

/-- The conditions of a relation's statement say that a row is related. -/
theorem filter_related_rows (hspec : spec ∈ relationSpecs)
    (hjoin : columnOf document spec.joinField = some joinColumn)
    (htimed : ∀ f, spec.timestampField = some f → Mapped document f)
    (hserver : ∀ f column, spec.timestampField = some f → columnOf document f = some column →
      Chronological std compare column rows) :
    (rows.filter fun row => (⟨joinColumn, .eq, joinValue⟩ ::
        cutoff ((given spec.timestampField).bind (columnOf document)) (some predictionTime)).all
          (·.holds compare row)) =
      relatedRows std compare document spec joinValue predictionTime rows := by
  refine List.filter_congr fun row hrow => ?_
  rw [List.all_cons, holds_eq, fieldValue_column hjoin, given_timestamp spec hspec]
  congr 1
  cases htime : spec.timestampField with
  | none => rfl
  | some f =>
    obtain ⟨column, hcolumn⟩ := Option.isSome_iff_exists.1 (htimed f htime)
    have hc := hserver f column htime hcolumn
    simp only [Option.bind_some, hcolumn, cutoff, List.all_cons, List.all_nil, Bool.and_true,
      Option.all_some, fieldValue_column hcolumn]
    cases hv : row column with
    | none => simp [Sql.Condition.holds, hv]
    | some v =>
      obtain ⟨time, ht⟩ := hc.denotes row hrow v hv
      have hlt : compare.lt v (.datetime predictionTime) = decide (time < predictionTime) := by
        rw [Bool.eq_iff_iff, hc.lt v (.datetime predictionTime) ⟨row, hrow, hv⟩
          (.inr ⟨predictionTime, rfl⟩) time predictionTime ht rfl, decide_eq_true_iff]
      simp [Sql.Condition.holds, hv, ht, hlt]

/-- What the statement of a relation selects. -/
theorem firstRows_selected (hspec : spec ∈ relationSpecs)
    (htimed : ∀ f, spec.timestampField = some f → Mapped document f)
    (hserver : ∀ f column, spec.timestampField = some f → columnOf document f = some column →
      Chronological std compare column rows) :
    FirstRows std document spec k (relatedRows std compare document spec joinValue predictionTime rows)
      (Sql.takeLimit (some k) (Sql.sortRows compare
        (mostRecentFirst ((given spec.timestampField).bind (columnOf document)))
        (relatedRows std compare document spec joinValue predictionTime rows))) := by
  rw [given_timestamp spec hspec]
  unfold FirstRows
  cases htime : spec.timestampField with
  | none => rfl
  | some f =>
    obtain ⟨column, hcolumn⟩ := Option.isSome_iff_exists.1 (htimed f htime)
    have hc := hserver f column htime hcolumn
    simp only [Option.bind_some, hcolumn, mostRecentFirst, Option.map_some]
    refine Sql.top_of_sorted k fun a ha b hb => ?_
    have hread : ∀ row ∈ relatedRows std compare document spec joinValue predictionTime rows,
        row ∈ rows ∧ ∃ v time, row column = some v ∧ instantOf std (some v) = some time := by
      intro row hrow
      obtain ⟨hmem, hholds⟩ := List.mem_filter.1 hrow
      simp only [htime, Bool.and_eq_true, Option.all_some, Option.any_eq_true] at hholds
      obtain ⟨-, time, ht, -⟩ := hholds
      rw [fieldValue_column hcolumn] at ht
      cases hv : row column with
      | none => simp [hv] at ht
      | some v => exact ⟨hmem, v, time, rfl, hv ▸ ht⟩
    obtain ⟨hamem, v, t, hv, ht⟩ := hread a ha
    obtain ⟨hbmem, w, u, hw, hu⟩ := hread b hb
    refine ⟨v, w, hv, hw, ?_⟩
    rw [hc.lt v w ⟨a, hamem, hv⟩ (.inl ⟨b, hbmem, hw⟩) t u ht hu, fieldValue_column hcolumn,
      fieldValue_column hcolumn, hv, hw, rankOf_eq ht, rankOf_eq hu]
    rfl

/-- The records of a relation. -/
theorem records_of_run {connection : CustomerDatabaseConnection} {plan : Plan (List FieldRow)}
    {database : CustomerDatabase} {records : List FieldRow}
    (hspec : spec ∈ relationSpecs) (hjoin : columnOf document spec.joinField = some joinColumn)
    (htimed : ∀ f, spec.timestampField = some f → Mapped document f)
    (hserver : ∀ relation, database.relation document.source.schemaName document.source.table =
        some relation → ∀ f column, spec.timestampField = some f →
      columnOf document f = some column →
        Chronological std database.compare column relation.rows)
    (hplan : relatedRecordsPlan std document spec.joinField joinValue spec.timestampField
      (some predictionTime) k connection = .ok plan) (hr : plan.result database = .ok records) :
    ∃ relation top, database.relation document.source.schemaName document.source.table =
        some relation ∧
      FirstRows std document spec k (relatedRows std database.compare document spec joinValue
        predictionTime relation.rows) top ∧ List.Forall₂ (RecordOfRow std document) top records := by
  obtain ⟨-, ⟨hunmapped, rfl⟩ | ⟨join, columns, time, dates, hmapped, hcolumns, htimestamp, hdates,
    rfl⟩⟩ := relatedRecordsPlan_ok hplan
  · rw [resolveColumn_mapped.2 hjoin] at hunmapped
    cases hunmapped
  · obtain rfl : join = joinColumn :=
      Option.some.inj ((resolveColumn_mapped.1 hmapped).symm.trans hjoin)
    obtain rfl := (timestampColumn_iff.1 htimestamp).2
    obtain ⟨rows, hrun, hcoerced⟩ := except_bind_ok.1 hr
    obtain ⟨relation, hthere, -, rfl⟩ := CustomerDatabase.run_ok.1 hrun
    refine ⟨relation, _, hthere, ?_, (except_mapM_ok.1 hcoerced).imp fun row record hrecord f =>
      value_coerced rfl hdates hrecord (columns_of_all hcolumns f)⟩
    have hrows : (relatedSelect document columns join joinValue
        ((given spec.timestampField).bind (columnOf document)) (some predictionTime) k).rows
          database.compare relation.rows = _ :=
      congrArg (fun rows => Sql.takeLimit (some k) (Sql.sortRows database.compare
        (mostRecentFirst ((given spec.timestampField).bind (columnOf document))) rows))
        (filter_related_rows hspec hjoin htimed (hserver relation hthere))
    rw [hrows]
    exact firstRows_selected hspec htimed (hserver relation hthere)

/-- The statement of a relation is answered. -/
theorem records_available {connection : CustomerDatabaseConnection} {database : CustomerDatabase}
    {relation : Relation} (hplain : Plain document) (hallowed : Allowlisted document connection)
    (hentity : KnownEntity document) (hanswers : Answers database document relation)
    (hreadable : ∀ row ∈ relation.rows, ∀ f, ∃ v,
      valueUsed std .relatedRecord document f row = .ok v) :
    ∃ records, (relatedRecordsPlan std document spec.joinField joinValue spec.timestampField
      (some predictionTime) k connection >>= Plan.result database) = .ok records := by
  have hkeys : ∀ f ∈ document.allFieldMappings.keys, Readable document f :=
    fun f hf => (hplain f hf).readable
  have hread := readable_of_keys hkeys
  obtain ⟨columns, hcolumns⟩ := addColumns_of_readable Keyed.Table.empty hkeys
  obtain ⟨dates, hdates⟩ := datetimeFieldNames_iff.1 hentity
  have htime : timestampColumn document spec.timestampField = .ok _ :=
    timestampColumn_iff.2 ⟨fun f _ => hread f, rfl⟩
  unfold relatedRecordsPlan
  rw [checkAllowlisted_ok.2 hallowed, except_ok_bind, resolveColumn_readable.1 (hread spec.joinField),
    except_ok_bind]
  cases columnOf document spec.joinField with
  | none => exact ⟨[], rfl⟩
  | some joinColumn =>
    let select := relatedSelect document columns joinColumn joinValue
      ((given spec.timestampField).bind (columnOf document)) (some predictionTime) k
    let selected := select.rows database.compare relation.rows
    have hrun : database.run select = .ok selected :=
      CustomerDatabase.run_ok.2 ⟨relation, hanswers.there, hanswers.refuses _, rfl⟩
    have hcoerced : ∀ row ∈ selected, ∃ record,
        coerceRowDatetimes std (readRow columns row) dates = .ok record := fun row hrow =>
      coerced_exists hdates (columns_of_all hcolumns) (hreadable row (Sql.mem_rows hrow).1)
    choose! record hrecord using hcoerced
    have hrecords : coercedRecords std columns dates selected = .ok (selected.map record) :=
      except_mapM_exists.2 ⟨record, hrecord, rfl⟩
    refine ⟨selected.map record, ?_⟩
    simp only [hcolumns, htime, hdates, except_ok_bind]
    show (database.run select >>= fun rows => coercedRecords std columns dates rows) = _
    rw [hrun, except_ok_bind, hrecords]

end

/-! ## The target row -/

section

variable {std : Stdlib} {document : MappingDocument} {database : CustomerDatabase}
  {connection : CustomerDatabaseConnection} {businessReference : String}

/-- The fetched target row is a row of the reference, and has the join values of its relations. -/
theorem target_read {plan : Plan (Option FieldRow)} {rawTarget : FieldRow}
    (hkey : document.identity.keys = ["trip_id"])
    (hplan : targetRowPlan std document businessReference tripFields connection = .ok plan)
    (hr : plan.result database = .ok (some rawTarget)) :
    ∃ relation, database.relation document.source.schemaName document.source.table =
        some relation ∧
      ∃ row ∈ relation.rows, knownEq database.compare (.str businessReference)
          (fieldValue document (some "trip_id") row) = true ∧
        ∀ spec ∈ relationSpecs, rawTarget.value spec.fromTargetField =
          fieldValue document (some spec.fromTargetField) row := by
  obtain ⟨-, identity, columns, hidentity, hcolumns, rfl⟩ := targetRowPlan_ok hplan
  obtain ⟨rows, hrun, hr⟩ := except_bind_ok.1 hr
  obtain ⟨relation, hrelation, -, rfl⟩ := CustomerDatabase.run_ok.1 hrun
  obtain ⟨row, hrow, rfl⟩ := Option.map_eq_some_iff.1 (Except.ok.inj hr)
  obtain ⟨hmem, hholds⟩ := Sql.mem_rows (List.mem_of_mem_head? hrow)
  obtain ⟨hkeys, hcolumn⟩ := identityColumn_ok hidentity
  have hname : identity.1 = "trip_id" := by simpa [hkey] using hkeys.symm
  rw [hname, resolveColumn_mapped] at hcolumn
  refine ⟨relation, hrelation, row, hmem, ?_, fun spec hspec => ?_⟩
  · rw [fieldValue_column hcolumn, ← holds_eq]
    exact hholds _ (by simp [targetSelect, selectFrom])
  · have hread : spec.fromTargetField ∈ tripFields ∨
        spec.fromTargetField ∈ document.identity.keys := by
      rcases fromTarget_read spec hspec with hf | hf
      · exact .inl hf
      · right
        rw [hkey, hf]
        simp
    rw [value_readRow, columns_of_target hidentity hcolumns, if_pos hread]
    rfl

/-- The statement of an existing target is answered. -/
theorem target_available {relation : Relation} (hkey : document.identity.keys = ["trip_id"])
    (hplain : Plain document) (hallowed : Allowlisted document connection)
    (hanswers : Answers database document relation) {row : Sql.Row Value} (hrow : row ∈ relation.rows)
    (hreference : knownEq database.compare (.str businessReference)
      (fieldValue document (some "trip_id") row) = true) :
    ∃ rawTarget, (targetRowPlan std document businessReference tripFields connection >>=
      Plan.result database) = .ok (some rawTarget) := by
  have hkeys : ∀ f ∈ document.allFieldMappings.keys, Readable document f :=
    fun f hf => (hplain f hf).readable
  have hmapped : Mapped document "trip_id" := by
    refine hplain _ (Keyed.Dict.mem_keys.2 ?_)
    have hmem : "trip_id" ∈ document.identity.keys := by
      rw [hkey]
      exact List.mem_singleton.2 rfl
    obtain ⟨mapping, hmapping⟩ := Keyed.Dict.mem_keys.1 hmem
    unfold MappingDocument.allFieldMappings
    rw [Keyed.Dict.get?_merge, hmapping]
    cases document.fields.get? "trip_id" with
    | none => exact ⟨mapping, rfl⟩
    | some other => exact ⟨other, rfl⟩
  obtain ⟨identity, hidentity⟩ := identityColumn_iff.1 ⟨"trip_id", hkey, hmapped⟩
  have hfields : ∀ f ∈ std.setOrder tripFields, Readable document f :=
    fun f _ => readable_of_keys hkeys f
  obtain ⟨columns, hcolumns⟩ := addColumns_of_readable (Dict.ofList [identity]) hfields
  obtain ⟨hidentityKeys, hcolumn⟩ := identityColumn_ok hidentity
  have hname : identity.1 = "trip_id" := by simpa [hkey] using hidentityKeys.symm
  rw [hname, resolveColumn_mapped] at hcolumn
  let select := targetSelect document columns identity.2 businessReference
  have hrun : database.run select = .ok (select.rows database.compare relation.rows) :=
    CustomerDatabase.run_ok.2 ⟨relation, hanswers.there, hanswers.refuses _, rfl⟩
  have hmatched : row ∈ relation.rows.filter fun row =>
      select.conditions.all (·.holds database.compare row) := by
    refine List.mem_filter.2 ⟨hrow, ?_⟩
    rw [fieldValue_column hcolumn, ← holds_eq] at hreference
    simpa [select, targetSelect, selectFrom] using hreference
  obtain ⟨first, hfirst⟩ : ∃ first, (select.rows database.compare relation.rows).head? =
      some first := by
    show ∃ first, ((relation.rows.filter fun row =>
      select.conditions.all (·.holds database.compare row)).take 1).head? = some first
    cases hrows : relation.rows.filter fun row =>
        select.conditions.all (·.holds database.compare row) with
    | nil =>
      rw [hrows] at hmatched
      cases hmatched
    | cons first rest => exact ⟨first, rfl⟩
  refine ⟨readRow columns first, ?_⟩
  unfold targetRowPlan
  simp only [checkAllowlisted_ok.2 hallowed, hidentity, hcolumns, except_ok_bind]
  show (database.run select >>= fun rows => .ok (rows.head?.map (readRow columns))) = _
  rw [hrun, except_ok_bind, hfirst]
  rfl

end

/-! ## The encoding -/

/-- At most `k` records of each relation are all written. -/
theorem dropsNone_of_length {std : Stdlib} {k : Nat} {ex : RelationalExample}
    {records : RelationSpec → List FieldRow}
    (hrelated : ex.related = relationSpecs.flatMap fun spec => asRecords spec (records spec))
    (hlength : ∀ spec ∈ relationSpecs, (records spec).length ≤ k) : DropsNone std k ex records := by
  intro examples vocabSize batch i hi h
  obtain ⟨positions, hpositions, h⟩ := except_bind_ok.1 h
  obtain rfl := except_pure_ok.1 h
  have hall := except_mapM_ok.1 hpositions
  obtain ⟨hlt, hget⟩ := List.getElem?_eq_some_iff.1 hi
  have hlt' : i < positions.length := hall.length_eq ▸ hlt
  have hencoded := hall.get hlt hlt'
  rw [List.get_eq_getElem, hget, encodeExample_related std vocabSize k hrelated] at hencoded
  obtain ⟨target, -, hencoded⟩ := except_bind_ok.1 hencoded
  obtain ⟨written, hwritten, hencoded⟩ := except_bind_ok.1 hencoded
  obtain ⟨blocks, hblocks, rfl⟩ := except_mapM_exists.1 hwritten
  refine ⟨target, blocks, ?_, fun spec hspec => ?_⟩
  · rw [List.getElem?_eq_getElem hlt']
    exact congrArg some (except_pure_ok.1 hencoded).symm
  · obtain ⟨written, hwritten, hblock⟩ := except_bind_ok.1 (hblocks spec hspec)
    rw [List.take_of_length_le (hlength spec hspec)] at hwritten hblock
    have hforall := except_mapM_ok.1 hwritten
    refine ⟨written, List.forall₂_map_left_iff.2 hforall, ?_⟩
    rw [← except_pure_ok.1 hblock, hforall.length_eq]

/-- No more than `k` rows are first. -/
theorem FirstRows.length_le {std : Stdlib} {document : MappingDocument} {spec : RelationSpec}
    {k : Nat} {rows top : List (Sql.Row Value)} (h : FirstRows std document spec k rows top) :
    top.length ≤ k := by
  unfold FirstRows at h
  split at h
  · rw [h, List.length_take]
    omega
  · rw [h.length]
    omega

theorem RelationRecords.length_le {env : Environment} {db : ControlPlane} {ctx : TenantContext}
    {pool : PoolRegistry} {trip : MappingDocument} {targetRow : Sql.Row Value}
    {predictionTime : DateTime} {k : Nat} {spec : RelationSpec} {records : List FieldRow}
    (h : RelationRecords env db ctx pool trip targetRow predictionTime k spec records) :
    records.length ≤ k := by
  unfold RelationRecords at h
  split at h
  · obtain ⟨q, relation, top, -, -, hfirst, hrecords⟩ := h
    rw [← hrecords.length_eq]
    exact hfirst.length_le
  · rw [h]
    exact Nat.zero_le k

/-! ## The example -/

section

variable {env : Environment} {db : ControlPlane} {ctx : TenantContext} {pool : PoolRegistry}
  {trip : ResolvedMapping} {predictionTime : DateTime} {k : Nat} {spec : RelationSpec}

theorem relatedOf_records (hplain : PlainMappings db ctx trip)
    (hserver : ServerOrders env db ctx pool) (hspec : spec ∈ relationSpecs) {rawTarget : FieldRow}
    {targetRow : Sql.Row Value} (hjoin : rawTarget.value spec.fromTargetField =
      fieldValue trip.document (some spec.fromTargetField) targetRow) {records : List FieldRow}
    (h : relatedOf env db ctx pool rawTarget predictionTime k spec = .ok records) :
    RelationRecords env db ctx pool trip.document targetRow predictionTime k spec records := by
  unfold relatedOf at h
  unfold RelationRecords
  rw [← hjoin]
  cases hvalue : rawTarget.value spec.fromTargetField with
  | none =>
    rw [hvalue] at h
    exact (Except.ok.inj h).symm
  | some joinValue =>
    rw [hvalue] at h
    obtain ⟨found, hfound, h⟩ := except_bind_ok.1 h
    cases found with
    | none =>
      have hnone : usable db ctx spec = none := by
        unfold usable
        rw [hfound]
      rw [hnone]
      exact (except_pure_ok.1 h).symm
    | some resolved =>
      obtain ⟨q, hq, h⟩ := except_bind_ok.1 h
      obtain ⟨plan, hplan, hr⟩ := except_bind_ok.1 h
      cases hcolumn : columnOf resolved.document spec.joinField with
      | none =>
        have hnone : usable db ctx spec = none := by
          unfold usable
          simp only [hfound, hcolumn]
          rfl
        rw [hnone]
        obtain ⟨-, ⟨-, rfl⟩ | ⟨join, _, _, _, hmapped, -⟩⟩ := relatedRecordsPlan_ok hplan
        · exact (Except.ok.inj hr).symm
        · rw [resolveColumn_mapped.1 hmapped] at hcolumn
          cases hcolumn
      | some joinColumn =>
        have hsome : usable db ctx spec = some resolved := by
          unfold usable
          simp only [hfound, hcolumn]
          rfl
        rw [hsome]
        obtain ⟨relation, top, hrelation, hfirst, hrecords⟩ := records_of_run hspec hcolumn
          (hplain.timed spec hspec resolved hfound)
          (fun relation hrelation f column hf hc =>
            hserver spec hspec resolved q relation f column hfound hq hrelation hf hc) hplan hr
        exact ⟨q, relation, top, hq, hrelation, hfirst, hrecords⟩

theorem relatedOf_available (hplain : PlainMappings db ctx trip) {businessReference : String}
    (havailable : Available env db ctx pool trip businessReference) (hspec : spec ∈ relationSpecs)
    (rawTarget : FieldRow) (predictionTime : DateTime) (k : Nat) :
    ∃ records, relatedOf env db ctx pool rawTarget predictionTime k spec = .ok records := by
  unfold relatedOf
  cases rawTarget.value spec.fromTargetField with
  | none => exact ⟨[], rfl⟩
  | some joinValue =>
    obtain ⟨found, hfound, hthere⟩ := havailable.related spec hspec
    simp only [hfound, except_ok_bind]
    cases found with
    | none => exact ⟨[], rfl⟩
    | some resolved =>
      obtain ⟨q, relation, hq, hallowed, hanswers, hentity, hreadable⟩ := hthere resolved rfl
      simp only [hq, except_ok_bind]
      exact records_available (hplain.plain spec.entity resolved hfound) hallowed hentity hanswers
        hreadable

end

/-- Over mappings whose sources are columns, the related records of an example are, relation by
relation, the first `k` of the related rows, and an encoding with the same `k` writes each of them;
and when the tables are there, the example is built. -/
theorem context_exact (env : Environment) (db : ControlPlane) (ctx : TenantContext)
    (pool : PoolRegistry) (trip : ResolvedMapping) (businessReference : String)
    (predictionTime : DateTime) (label : Option Int) (k : Nat)
    (hplain : PlainMappings db ctx trip) (hserver : ServerOrders env db ctx pool) :
    (∀ ex, (buildExample env db ctx businessReference predictionTime label k { pool }).1 = .ok ex →
      ExactContext env db ctx pool trip businessReference predictionTime k ex) ∧
    (Available env db ctx pool trip businessReference →
      ∃ ex, (buildExample env db ctx businessReference predictionTime label k { pool }).1 =
        .ok ex) := by
  rw [(buildExample_computes _ _ _ _ _ onRoutes_start).2]
  constructor
  · intro ex hex
    obtain ⟨trip', q, rawTarget, records, hfetched, rfl⟩ := exampleOf_ok.1 hex
    obtain rfl : trip' = trip := Except.ok.inj (hfetched.resolved.symm.trans hplain.resolved)
    obtain ⟨plan, hplan, hr⟩ := except_bind_ok.1 hfetched.target
    obtain ⟨relation, hrelation, targetRow, hmem, hreference, hjoin⟩ :=
      target_read hplain.key hplan hr
    have hrecords : ∀ spec ∈ relationSpecs, RelationRecords env db ctx pool trip'.document targetRow
        predictionTime k spec (records spec) := fun spec hspec =>
      relatedOf_records hplain hserver hspec (hjoin spec hspec) (hfetched.related spec hspec)
    refine ⟨q, relation, hfetched.engine, hrelation, targetRow, hmem, hreference, records, rfl,
      hrecords, ?_⟩
    exact dropsNone_of_length rfl fun spec hspec => (hrecords spec hspec).length_le
  · intro havailable
    obtain ⟨q, relation, hq, hallowed, hanswers, row, hrow, hreference⟩ := havailable.target
    have htarget : ∃ rawTarget, (targetRowPlan env.std trip.document businessReference tripFields
        q.2 >>= Plan.result (env.world q.1)) = .ok (some rawTarget) :=
      target_available hplain.key (hplain.plain "Trip" trip (resolveTarget_ok hplain.resolved))
        hallowed hanswers hrow hreference
    obtain ⟨rawTarget, htarget⟩ := htarget
    have hrelated : ∀ spec ∈ relationSpecs, ∃ records,
        relatedOf env db ctx pool rawTarget predictionTime k spec = .ok records := fun spec hspec =>
      relatedOf_available hplain havailable hspec rawTarget predictionTime k
    choose! records hrecords using hrelated
    exact ⟨_, exampleOf_ok.2 ⟨trip, q, rawTarget, records,
      ⟨hplain.resolved, hq, htarget, hrecords⟩, rfl⟩⟩

namespace Sample

open Extraction.Sample (trips tripMapping tripRow tripTable planned servedTrips
  resolveTarget_servedTrips resolve_servedTrips chronological_of_times)
open HermesRpt.Sample (ctx)

theorem plainMappings_trips : PlainMappings servedTrips ctx tripMapping where
  resolved := resolveTarget_servedTrips
  key := rfl
  plain := by
    intro name resolved h
    obtain ⟨-, rfl⟩ := resolve_servedTrips h
    show ∀ f ∈ trips.allFieldMappings.keys, (columnOf trips f).isSome = true
    decide
  timed := by
    intro spec hspec resolved h f hf
    obtain ⟨hname, rfl⟩ := resolve_servedTrips h
    have htime : ∀ spec ∈ relationSpecs, spec.entity = "Trip" →
        spec.timestampField = some "planned_departure_at" := by decide
    obtain rfl : "planned_departure_at" = f :=
      Option.some.inj ((htime spec hspec hname).symm.trans hf)
    rfl

theorem serverOrders_trips : ServerOrders planned servedTrips ctx Keyed.Table.empty := by
  intro spec hspec resolved q relation f column hresolve _ hrelation hf hcolumn
  obtain ⟨hname, rfl⟩ := resolve_servedTrips hresolve
  have htime : ∀ spec ∈ relationSpecs, spec.entity = "Trip" →
      spec.timestampField = some "planned_departure_at" := by decide
  obtain rfl : "planned_departure_at" = f :=
    Option.some.inj ((htime spec hspec hname).symm.trans hf)
  obtain rfl : "departs" = column := Option.some.inj hcolumn
  obtain rfl := Option.some.inj hrelation
  refine chronological_of_times fun row hrow v hv => ?_
  simp only [List.mem_cons, List.not_mem_nil, or_false] at hrow
  rcases hrow with rfl | rfl <;> cases hv <;> exact ⟨_, rfl⟩

def contextOf : Except PyError RelationalExample :=
  (buildExample planned servedTrips ctx "t1" ⟨2000, 0⟩ none 2 { pool := Keyed.Table.empty }).1

end Sample

theorem context_exact_sample :
    (∀ ex, Sample.contextOf = .ok ex → ExactContext Extraction.Sample.planned
      Extraction.Sample.servedTrips HermesRpt.Sample.ctx Keyed.Table.empty
      Extraction.Sample.tripMapping "t1" ⟨2000, 0⟩ 2 ex) ∧
    (Available Extraction.Sample.planned Extraction.Sample.servedTrips HermesRpt.Sample.ctx
      Keyed.Table.empty Extraction.Sample.tripMapping "t1" → ∃ ex, Sample.contextOf = .ok ex) ∧
    Sample.contextOf.map (·.related.map (·.relationship)) = .ok ["assigned_driver_history"] := by
  have h := context_exact Extraction.Sample.planned Extraction.Sample.servedTrips
    HermesRpt.Sample.ctx Keyed.Table.empty Extraction.Sample.tripMapping "t1" ⟨2000, 0⟩ none 2
    Sample.plainMappings_trips Sample.serverOrders_trips
  exact ⟨h.1, h.2, by decide +kernel⟩

end Transformer

end HermesRpt
