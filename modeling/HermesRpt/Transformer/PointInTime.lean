import HermesRpt.Extraction.OwnLabel
import HermesRpt.Transformer.Tensors

/-!
# HermesRpt.Transformer.PointInTime

What the tensors of a target trip show of the outcomes of trips, deliveries and maintenance events.
A cutoff chooses the rows of the history relations; every field of a chosen row is encoded.

* `outcomeFields`   : the fields that say how something went.
* `AgreeBefore`     : two states of the customer databases that differ in outcomes, and in rows that
  the cutoffs leave out.
* `OutcomesAlike`   : the outcomes of the chosen rows have the same encodings.
* `tensors_alike_iff` : then, and only then, the tensors of the two states are equal.
-/

namespace HermesRpt

namespace Transformer

open Effect Connectors Mappings Features Extraction
open Keyed (Dict)

/-- The fields that become known when something is over. -/
def outcomeFields : String → List String
  | "Trip" => ["status", "actual_departure_at", "actual_arrival_at"]
  | "Delivery" => ["status", "delivered_at"]
  | "MaintenanceEvent" => ["completed_at"]
  | _ => []

/-- Two states of a row: its mapped fields have the same values, its outcome aside. -/
def RowsAgree (document : MappingDocument) (entity : String) (a b : Sql.Row Value) : Prop :=
  ∀ f c, columnOf document f = some c → f ∉ outcomeFields entity → a c = b c

/-- The outcome fields of two rows fill their slots alike, or fail alike. -/
def EncodeAlike (std : Stdlib) (vocabSize : Int) (place : Place) (document : MappingDocument)
    (entity : String) (a b : Sql.Row Value) : Prop :=
  ∀ schema, entityFieldSchema entity = .ok schema → ∀ f ∈ outcomeFields entity,
    (f ∈ schema.categoricalFields →
      (valueUsed std place document f a >>= categoricalSlot std vocabSize) =
        (valueUsed std place document f b >>= categoricalSlot std vocabSize)) ∧
    (f ∈ schema.datetimeFields →
      (valueUsed std place document f a >>= datetimeSlot std) =
        (valueUsed std place document f b >>= datetimeSlot std))

/-! ## One record -/

theorem writeFields_iff {α : Type} [Zero α] {slot : Option Value → Except PyError (Masked α)}
    {slots : Nat} {r₁ r₂ : FieldRow} {names : List String} {l : List (Masked α)}
    (h : writeFields slot slots r₁ names = .ok l) :
    writeFields slot slots r₂ names = .ok l ↔
      ∀ f ∈ names, slot (r₁.value f) = slot (r₂.value f) := by
  obtain ⟨written, hwritten, hl⟩ := except_bind_ok.1 h
  cases hl
  have hmapM : writeFields slot slots r₂ names =
      .ok (written ++ List.replicate (slots - names.length) .unused) ↔
      names.mapM (fun f => slot (r₂.value f)) = .ok written := by
    constructor
    · intro h₂
      obtain ⟨written₂, hwritten₂, hl⟩ := except_bind_ok.1 h₂
      rw [hwritten₂, List.append_cancel_right (except_pure_ok.1 hl)]
    · intro h₂
      exact except_bind_ok.2 ⟨written, h₂, rfl⟩
  have hsame : List.Forall₂ Eq names names := List.forall₂_same.2 fun _ _ => rfl
  rw [hmapM, except_mapM_congr_iff (P := fun f g => slot (r₁.value f) = slot (r₂.value g)) hsame
    hwritten, List.forall₂_same]
  rintro f g m rfl hf
  rw [hf, eq_comm]

/-- The fields of two records fill their slots alike. -/
structure SlotsAlike (std : Stdlib) (vocabSize : Int) (schema : EntityFieldSchema)
    (r₁ r₂ : FieldRow) : Prop where
  numeric : ∀ f ∈ schema.numericFields, numericSlot std (r₁.value f) = numericSlot std (r₂.value f)
  categorical : ∀ f ∈ schema.categoricalFields,
    categoricalSlot std vocabSize (r₁.value f) = categoricalSlot std vocabSize (r₂.value f)
  datetime : ∀ f ∈ schema.datetimeFields,
    datetimeSlot std (r₁.value f) = datetimeSlot std (r₂.value f)

variable {entity : String} {schema : EntityFieldSchema}

section

variable {std : Stdlib} {vocabSize : Int} {relationship : String} {r₁ r₂ : FieldRow}
  {position : Position}

theorem writeRecord_ok : writeRecord std vocabSize ⟨entity, relationship, r₁⟩ = .ok position ↔
    ∃ schema numeric categorical datetime, entityFieldSchema entity = .ok schema ∧
      writeFields (numericSlot std) numericSlots r₁ schema.numericFields = .ok numeric ∧
      writeFields (categoricalSlot std vocabSize) categoricalSlots r₁ schema.categoricalFields =
        .ok categorical ∧
      writeFields (datetimeSlot std) datetimeSlots r₁ schema.datetimeFields = .ok datetime ∧
      relationship ∈ relationshipVocab ∧
      position = {
        numeric, categorical, datetime, entityTypeId := entityTypeVocab.idxOf entity,
        relationshipId := relationshipVocab.idxOf relationship, attentionMask := true } := by
  constructor
  · intro h
    obtain ⟨schema, hschema, h⟩ := except_bind_ok.1 h
    obtain ⟨numeric, hnumeric, h⟩ := except_bind_ok.1 h
    obtain ⟨categorical, hcategorical, h⟩ := except_bind_ok.1 h
    obtain ⟨datetime, hdatetime, h⟩ := except_bind_ok.1 h
    split at h
    · cases h
      exact ⟨schema, numeric, categorical, datetime, hschema, hnumeric, hcategorical, hdatetime,
        ‹_›, rfl⟩
    · cases h
  · rintro ⟨schema, numeric, categorical, datetime, hschema, hnumeric, hcategorical, hdatetime,
      hrelationship, rfl⟩
    refine except_bind_ok.2 ⟨schema, hschema, except_bind_ok.2 ⟨numeric, hnumeric, ?_⟩⟩
    refine except_bind_ok.2 ⟨categorical, hcategorical, except_bind_ok.2 ⟨datetime, hdatetime, ?_⟩⟩
    exact if_pos hrelationship

theorem writeRecord_iff (hschema : entityFieldSchema entity = .ok schema)
    (h : writeRecord std vocabSize ⟨entity, relationship, r₁⟩ = .ok position) :
    writeRecord std vocabSize ⟨entity, relationship, r₂⟩ = .ok position ↔
      SlotsAlike std vocabSize schema r₁ r₂ := by
  obtain ⟨schema', numeric, categorical, datetime, hschema', hnumeric, hcategorical, hdatetime,
    hrelationship, rfl⟩ := writeRecord_ok.1 h
  cases hschema.symm.trans hschema'
  rw [writeRecord_ok]
  constructor
  · rintro ⟨schema', numeric', categorical', datetime', hschema', hnumeric', hcategorical',
      hdatetime', -, heq⟩
    cases hschema.symm.trans hschema'
    cases heq
    exact ⟨(writeFields_iff hnumeric).1 hnumeric', (writeFields_iff hcategorical).1 hcategorical',
      (writeFields_iff hdatetime).1 hdatetime'⟩
  · intro halike
    exact ⟨schema, numeric, categorical, datetime, hschema,
      (writeFields_iff hnumeric).2 halike.numeric,
      (writeFields_iff hcategorical).2 halike.categorical,
      (writeFields_iff hdatetime).2 halike.datetime, hrelationship, rfl⟩

end

/-- Every outcome field fills a categorical or a datetime slot. -/
theorem outcomes_encoded (hschema : entityFieldSchema entity = .ok schema) :
    (∀ f ∈ outcomeFields entity, f ∈ schema.categoricalFields ∨ f ∈ schema.datetimeFields) ∧
      ∀ f ∈ schema.numericFields, f ∉ outcomeFields entity := by
  have hall : ∀ schema ∈ entityFieldSchemas,
      (∀ f ∈ outcomeFields schema.entity,
        f ∈ schema.categoricalFields ∨ f ∈ schema.datetimeFields) ∧
      ∀ f ∈ schema.numericFields, f ∉ outcomeFields schema.entity := by decide
  unfold entityFieldSchema at hschema
  split at hschema
  · rename_i found hfound
    cases hschema
    obtain rfl : schema.entity = entity := by simpa using List.find?_some hfound
    exact hall schema (List.mem_of_find?_eq_some hfound)
  · cases hschema

section

variable {std : Stdlib} {document : MappingDocument} {place : Place} {a b : Sql.Row Value}

/-- A field that is no outcome has the same value in both rows. -/
theorem valueUsed_agree (std : Stdlib) (place : Place) (h : RowsAgree document entity a b) {f : String}
    (hf : f ∉ outcomeFields entity) :
    valueUsed std place document f a = valueUsed std place document f b := by
  unfold valueUsed
  cases hr : resolveColumn document f with
  | error e => rfl
  | ok column =>
    cases column with
    | none => rfl
    | some column => simp only [except_ok_bind, h f column (resolveColumn_mapped.1 hr) hf]

/-- Records of two such rows: the second is written like the first if and only if the outcomes are
encoded alike. -/
theorem writeRecord_alike {vocabSize : Int} {relationship : String} {r₁ r₂ : FieldRow}
    {position : Position} (hagree : RowsAgree document entity a b)
    (hschema : entityFieldSchema entity = .ok schema)
    (h₁ : ∀ f ∈ schema.numericFields ++ schema.categoricalFields ++ schema.datetimeFields,
      valueUsed std place document f a = .ok (r₁.value f))
    (h₂ : ∀ f ∈ schema.numericFields ++ schema.categoricalFields ++ schema.datetimeFields,
      valueUsed std place document f b = .ok (r₂.value f))
    (hwritten : writeRecord std vocabSize ⟨entity, relationship, r₁⟩ = .ok position) :
    writeRecord std vocabSize ⟨entity, relationship, r₂⟩ = .ok position ↔
      EncodeAlike std vocabSize place document entity a b := by
  obtain ⟨hencoded, hnumeric⟩ := outcomes_encoded hschema
  have hsame : ∀ f ∈ schema.numericFields ++ schema.categoricalFields ++ schema.datetimeFields,
      f ∉ outcomeFields entity → r₁.value f = r₂.value f := by
    intro f hf hout
    have hvalue := valueUsed_agree std place hagree hout
    rw [h₁ f hf, h₂ f hf] at hvalue
    exact Except.ok.inj hvalue
  rw [writeRecord_iff hschema hwritten]
  constructor
  · intro halike schema' hschema' f hf
    cases hschema.symm.trans hschema'
    constructor
    · intro hc
      rw [h₁ f (by simp [hc]), h₂ f (by simp [hc])]
      exact halike.categorical f hc
    · intro hd
      rw [h₁ f (by simp [hd]), h₂ f (by simp [hd])]
      exact halike.datetime f hd
  · intro halike
    refine ⟨fun f hf => ?_, fun f hf => ?_, fun f hf => ?_⟩
    · rw [hsame f (by simp [hf]) (hnumeric f hf)]
    · by_cases hout : f ∈ outcomeFields entity
      · have hslots := (halike schema hschema f hout).1 hf
        rwa [h₁ f (by simp [hf]), h₂ f (by simp [hf])] at hslots
      · rw [hsame f (by simp [hf]) hout]
    · by_cases hout : f ∈ outcomeFields entity
      · have hslots := (halike schema hschema f hout).2 hf
        rwa [h₁ f (by simp [hf]), h₂ f (by simp [hf])] at hslots
      · rw [hsame f (by simp [hf]) hout]

/-- A record whose texts all spell datetimes is coerced. -/
theorem coerceFields_exists {l : List String} {row : FieldRow}
    (h : ∀ f ∈ l, ∃ v, coerceValue std (row.value f) = .ok v) :
    ∃ row', l.foldlM (coerceField std) row = .ok row' := by
  induction l generalizing row with
  | nil => exact ⟨row, rfl⟩
  | cons g l ih =>
    obtain ⟨v, hv⟩ := h g (by simp)
    have hfirst : ∃ row₁, coerceField std row g = .ok row₁ := by
      unfold coerceField
      cases hg : row.get? g with
      | none => exact ⟨row, rfl⟩
      | some value =>
        rw [FieldRow.value, hg, Option.getD_some] at hv
        exact ⟨row.set g v, by simp only [hv]; rfl⟩
    obtain ⟨row₁, hrow₁⟩ := hfirst
    obtain ⟨hcoerced, hrest⟩ := coerceField_ok hrow₁
    rw [List.foldlM_cons, hrow₁]
    refine ih fun f hf => ?_
    by_cases hfg : f = g
    · subst hfg
      exact ⟨_, coerceValue_coerced hcoerced⟩
    · rw [hrest f hfg]
      exact h f (by simp [hf])

/-- A fetched row whose fields have readable values is coerced. -/
theorem coerced_exists {columns : Dict String String} {datetimeFields : List String}
    {row : Sql.Row Value} (hdates : datetimeFieldNames document = .ok datetimeFields)
    (hcolumns : ∀ f, resolveColumn document f = .ok (columns.get? f))
    (h : ∀ f, ∃ v, valueUsed std .relatedRecord document f row = .ok v) :
    ∃ record, coerceRowDatetimes std (readRow columns row) datetimeFields = .ok record := by
  rw [coerceRowDatetimes_eq]
  refine coerceFields_exists fun f hf => ?_
  rw [std.mem_setOrder] at hf
  rw [value_readRow]
  cases hc : columns.get? f with
  | none => exact ⟨none, rfl⟩
  | some column =>
    have hused : valueUsed std .relatedRecord document f row = coerceValue std (row column) := by
      unfold valueUsed
      simp only [hcolumns f, hc, except_ok_bind, hdates, Place.coerces, if_true, if_pos hf]
    obtain ⟨v, hv⟩ := h f
    exact ⟨v, hused.symm.trans hv⟩

/-- A row that is coerced and written. -/
def encodeRow (std : Stdlib) (vocabSize : Int) (entity relationship : String)
    (columns : Dict String String) (datetimeFields : List String) (row : Sql.Row Value) :
    Except PyError Position :=
  coerceRowDatetimes std (readRow columns row) datetimeFields >>= fun record =>
    writeRecord std vocabSize ⟨entity, relationship, record⟩

/-- The value of an outcome field of a row that is encoded like a written one. -/
theorem outcome_ok {vocabSize : Int} (hschema : entityFieldSchema entity = .ok schema)
    (halike : EncodeAlike std vocabSize place document entity a b) {record : FieldRow} {f : String}
    (hf : f ∈ outcomeFields entity) (ha : valueUsed std place document f a = .ok (record.value f))
    (hslot : f ∈ schema.categoricalFields →
      ∃ m, categoricalSlot std vocabSize (record.value f) = .ok m) :
    ∃ v, valueUsed std place document f b = .ok v := by
  rcases (outcomes_encoded hschema).1 f hf with hc | hd
  · obtain ⟨m, hm⟩ := hslot hc
    have hslots := (halike schema hschema f hf).1 hc
    rw [ha, except_ok_bind, hm] at hslots
    obtain ⟨v, hv, -⟩ := except_bind_ok.1 hslots.symm
    exact ⟨v, hv⟩
  · have hslots := (halike schema hschema f hf).2 hd
    have hm : ∃ m, datetimeSlot std (record.value f) = .ok m := by
      unfold datetimeSlot
      split <;> exact ⟨_, rfl⟩
    obtain ⟨m, hm⟩ := hm
    rw [ha, except_ok_bind, hm] at hslots
    obtain ⟨v, hv, -⟩ := except_bind_ok.1 hslots.symm
    exact ⟨v, hv⟩

/-- A row that agrees with one that is written: it is written like that one if and only if the
outcomes are encoded alike. -/
theorem encodeRow_alike {vocabSize : Int} {relationship : String} {columns : Dict String String}
    {datetimeFields : List String} {position : Position}
    (hagree : RowsAgree document entity a b)
    (hdates : datetimeFieldNames document = .ok datetimeFields)
    (hcolumns : ∀ f, resolveColumn document f = .ok (columns.get? f))
    (h : encodeRow std vocabSize entity relationship columns datetimeFields a = .ok position) :
    encodeRow std vocabSize entity relationship columns datetimeFields b = .ok position ↔
      EncodeAlike std vocabSize .relatedRecord document entity a b := by
  obtain ⟨r₁, hr₁, hwritten⟩ := except_bind_ok.1 h
  have h₁ : ∀ f, valueUsed std .relatedRecord document f a = .ok (r₁.value f) :=
    fun f => value_coerced rfl hdates hr₁ (hcolumns f)
  obtain ⟨schema, numeric, categorical, datetime, hschema, -, hcategorical, -⟩ :=
    writeRecord_ok.1 hwritten
  constructor
  · intro h₂
    obtain ⟨r₂, hr₂, hwritten₂⟩ := except_bind_ok.1 h₂
    exact (writeRecord_alike hagree hschema (fun f _ => h₁ f)
      (fun f _ => value_coerced rfl hdates hr₂ (hcolumns f)) hwritten).1 hwritten₂
  · intro halike
    have hcoerced : ∃ r₂, coerceRowDatetimes std (readRow columns b) datetimeFields = .ok r₂ := by
      refine coerced_exists hdates hcolumns fun f => ?_
      by_cases hout : f ∈ outcomeFields entity
      · refine outcome_ok hschema halike hout (h₁ f) fun hcat => ?_
        obtain ⟨written, hslots, -⟩ := except_bind_ok.1 hcategorical
        exact except_mapM_mem hslots hcat
      · exact ⟨r₁.value f, valueUsed_agree std _ hagree hout ▸ h₁ f⟩
    obtain ⟨r₂, hr₂⟩ := hcoerced
    refine except_bind_ok.2 ⟨r₂, hr₂, ?_⟩
    exact (writeRecord_alike hagree hschema (fun f _ => h₁ f)
      (fun f _ => value_coerced rfl hdates hr₂ (hcolumns f)) hwritten).2 halike

end

/-! ## The rows of a query -/

/-- The rows that a query selects, in this order. -/
def queryRows (database : CustomerDatabase) (document : MappingDocument) (query : Query)
    (orderBy : Option Sql.Order) : List (Sql.Row Value) :=
  match database.relation document.source.schemaName document.source.table with
  | none => []
  | some relation =>
    (selectFrom document .count (query.comparisons document) orderBy query.limit).rows
      database.compare relation.rows

/-- The table of a document in two databases: it refuses the same statements, and the rows that
meet the conditions agree but for outcomes. -/
def TablesAgree (database₁ database₂ : CustomerDatabase) (document : MappingDocument)
    (entity : String) (conditions : List (Sql.Condition Value)) : Prop :=
  Option.Rel (fun r₁ r₂ => r₁.refuses = r₂.refuses ∧
      List.Forall₂ (RowsAgree document entity)
        (r₁.rows.filter fun row => conditions.all (·.holds database₁.compare row))
        (r₂.rows.filter fun row => conditions.all (·.holds database₁.compare row)))
    (database₁.relation document.source.schemaName document.source.table)
    (database₂.relation document.source.schemaName document.source.table)

section

variable {std : Stdlib} {document : MappingDocument} {database₁ database₂ : CustomerDatabase}

/-- A column of a field that is no outcome. -/
def Steady (document : MappingDocument) (entity column : String) : Prop :=
  ∃ f, columnOf document f = some column ∧ f ∉ outcomeFields entity

/-- A statement that chooses rows by nothing but the conditions and steady columns. -/
theorem run_agree {query : Query} {select : Sql.Select Value} (hasks : query.Asks document select)
    {first rest : List (Sql.Condition Value)} (hcond : query.comparisons document = first ++ rest)
    (hfirst : ∀ c ∈ first, Steady document entity c.column)
    (horder : ∀ o ∈ select.orderBy, Steady document entity o.column)
    (hcompare : database₁.compare = database₂.compare)
    (htables : TablesAgree database₁ database₂ document entity rest) {rows : List (Sql.Row Value)}
    (hrun : database₁.run select = .ok rows) :
    rows = queryRows database₁ document query select.orderBy ∧
      database₂.run select = .ok (queryRows database₂ document query select.orderBy) ∧
      List.Forall₂ (RowsAgree document entity) rows
        (queryRows database₂ document query select.orderBy) := by
  have hrows : ∀ compare relation, select.rows compare relation =
      (selectFrom document .count (query.comparisons document) select.orderBy query.limit).rows
        compare relation := by
    intro compare relation
    unfold Sql.Select.rows
    rw [hasks.conditions, hasks.limit]
    rfl
  have hsteady : ∀ {column}, Steady document entity column → ∀ a b,
      RowsAgree document entity a b → a column = b column := by
    rintro column ⟨f, hf, hout⟩ a b hab
    exact hab f column hf hout
  obtain ⟨relation₁, hrel₁, hrefuses, rfl⟩ := CustomerDatabase.run_ok.1 hrun
  rw [hasks.schemaName, hasks.table] at hrel₁
  unfold TablesAgree at htables
  rw [hrel₁] at htables
  cases hrel₂ : database₂.relation document.source.schemaName document.source.table with
  | none =>
    rw [hrel₂] at htables
    cases htables
  | some relation₂ =>
    rw [hrel₂] at htables
    obtain ⟨hsame, hagree⟩ : _ ∧ _ := by
      cases htables with
      | some h => exact h
    have hquery : ∀ database relation,
        database.relation document.source.schemaName document.source.table = some relation →
        queryRows database document query select.orderBy =
          select.rows database.compare relation.rows := by
      intro database relation h
      rw [queryRows, h, hrows]
    rw [hquery database₁ relation₁ hrel₁, hquery database₂ relation₂ hrel₂]
    refine ⟨rfl, CustomerDatabase.run_ok.2 ⟨relation₂, ?_, hsame ▸ hrefuses, rfl⟩, ?_⟩
    · rw [hasks.schemaName, hasks.table]
      exact hrel₂
    · rw [← hcompare]
      exact Sql.forall₂_rows (hasks.conditions.trans hcond)
        (fun c hc a b hab => hsteady (hfirst c hc) a b hab)
        (fun o ho a b hab => hsteady (horder o ho) a b hab) hagree

/-- The value of a field of the fetched target row. -/
def targetValue (trip : MappingDocument) (row : Sql.Row Value) (fieldName : String) :
    Option Value :=
  if fieldName ∈ tripFields ∨ fieldName ∈ trip.identity.keys then
    (columnOf trip fieldName).bind row
  else none

theorem targetValue_agree {trip : MappingDocument} {a b : Sql.Row Value}
    (h : RowsAgree trip "Trip" a b) {f : String} (hf : f ∉ outcomeFields "Trip") :
    targetValue trip a f = targetValue trip b f := by
  unfold targetValue
  split
  · cases hc : columnOf trip f with
    | none => rfl
    | some column => exact h f column hc hf
  · rfl

theorem columns_of_target {identity : String × String} {columns : Dict String String}
    (hidentity : identityColumn document = .ok identity)
    (hcolumns : addColumns document (Dict.ofList [identity]) (std.setOrder tripFields) =
      .ok columns) (f : String) :
    columns.get? f =
      if f ∈ tripFields ∨ f ∈ document.identity.keys then columnOf document f else none := by
  obtain ⟨hkeys, hcolumn⟩ := identityColumn_ok hidentity
  obtain ⟨-, hfields, hkept⟩ := addColumns_ok (resolved_identity hidentity) hcolumns
  have hstart : ∀ g, (Dict.ofList [identity]).get? g =
      if g = identity.1 then some identity.2 else none := Keyed.Dict.get?_ofList_singleton identity
  split
  · rename_i hf
    rcases hf with hf | hf
    · exact (readable_of_ok (hfields f ((std.mem_setOrder _ _).2 hf))).2.symm
    · rw [hkeys, List.mem_singleton] at hf
      subst hf
      rw [hkept _ _ ((hstart _).trans (if_pos rfl)), resolveColumn_mapped.1 hcolumn]
  · rename_i hf
    rw [not_or, hkeys, List.mem_singleton] at hf
    cases hc : columns.get? f with
    | none => rfl
    | some column =>
      rcases addColumns_from hcolumns hc with hin | ⟨hin, -⟩
      · rw [hstart, if_neg hf.2] at hin
        cases hin
      · exact absurd ((std.mem_setOrder _ _).1 hin) hf.1

/-- The target row in both databases. -/
theorem target_agree {reference : String} {connection : CustomerDatabaseConnection}
    {plan : Plan (Option FieldRow)} {rawTarget : FieldRow}
    (hplan : targetRowPlan std document reference tripFields connection = .ok plan)
    (hcompare : database₁.compare = database₂.compare)
    (htables : TablesAgree database₁ database₂ document "Trip"
      ((Query.targetRow reference tripFields).comparisons document))
    (hr : plan.result database₁ = .ok (some rawTarget)) :
    ∃ columns a b,
      queryRows database₁ document (.targetRow reference tripFields) none = [a] ∧
      queryRows database₂ document (.targetRow reference tripFields) none = [b] ∧
      RowsAgree document "Trip" a b ∧ rawTarget = readRow columns a ∧
      plan.result database₂ = .ok (some (readRow columns b)) ∧
      (∀ f ∈ tripFields, resolveColumn document f = .ok (columns.get? f)) ∧
      ∀ f row, (readRow columns row).value f = targetValue document row f := by
  obtain ⟨-, identity, columns, hidentity, hcolumns, rfl⟩ := targetRowPlan_ok hplan
  obtain ⟨-, -, hasks⟩ := targetRow_asks hplan rfl
  obtain ⟨rows, hrun, hr⟩ := except_bind_ok.1 hr
  have hone : rows.length ≤ 1 := by
    obtain ⟨relation, -, -, rfl⟩ := CustomerDatabase.run_ok.1 hrun
    exact Sql.length_takeLimit_le
  obtain ⟨hrows, hrun₂, hagree⟩ := run_agree hasks (List.nil_append _).symm (by simp)
    (by simp [targetSelect, selectFrom]) hcompare htables hrun
  cases rows with
  | nil => cases hr
  | cons a rest =>
    obtain rfl : rest = [] := List.length_eq_zero_iff.1 (by simpa using hone)
    cases hr
    obtain ⟨b, rest₂, hab, hrest, hrows₂⟩ := List.forall₂_cons_left_iff.1 hagree
    cases hrest
    refine ⟨columns, a, b, hrows.symm, hrows₂, hab, rfl, ?_, fun f hf => ?_, fun f row => ?_⟩
    · refine except_bind_ok.2 ⟨_, hrun₂, ?_⟩
      rw [hrows₂]
      rfl
    · exact (addColumns_ok (resolved_identity hidentity) hcolumns).2.1 f
        ((std.mem_setOrder _ _).2 hf)
    · rw [value_readRow, columns_of_target hidentity hcolumns, targetValue]
      split <;> rfl

/-! ## The rows of a relation -/

/-- The records of a relation of the target, as a query. -/
def relationQuery (spec : RelationSpec) (joinValue : Value) (predictionTime : DateTime) (k : Nat) :
    Query :=
  .relatedRecords spec.joinField joinValue spec.timestampField (some predictionTime) k

/-- The rows of a relation, most recent first. -/
def relationRows (database : CustomerDatabase) (document : MappingDocument) (spec : RelationSpec)
    (joinValue : Value) (predictionTime : DateTime) (k : Nat) : List (Sql.Row Value) :=
  queryRows database document (relationQuery spec joinValue predictionTime k)
    (mostRecentFirst ((given spec.timestampField).bind (columnOf document)))

/-- No relation is joined or ordered by an outcome. -/
theorem relations_steady : ∀ spec ∈ relationSpecs,
    spec.joinField ∉ outcomeFields spec.entity ∧ spec.fromTargetField ∉ outcomeFields "Trip" ∧
      ∀ f ∈ spec.timestampField, f ∉ outcomeFields spec.entity := by decide

variable {vocabSize : Int} {k : Nat}

theorem columns_of_all {columns : Dict String String}
    (h : addColumns document Keyed.Table.empty document.allFieldMappings.keys = .ok columns)
    (f : String) : resolveColumn document f = .ok (columns.get? f) := by
  obtain ⟨hresolved, hfields, -⟩ := addColumns_ok resolved_empty h
  by_cases hf : f ∈ document.allFieldMappings.keys
  · exact hfields f hf
  · have hnone := Keyed.Dict.get?_eq_none.2 hf
    rw [resolveColumn_unmapped.2 hnone]
    cases hc : columns.get? f with
    | none => rfl
    | some column =>
      have hcolumn := resolveColumn_mapped.1 (hresolved f column hc)
      rw [columnOf, hnone] at hcolumn
      cases hcolumn

/-- At most `k` rows, coerced and then encoded. -/
theorem encodeRows_iff {spec : RelationSpec} {columns : Dict String String}
    {datetimeFields : List String} {rows : List (Sql.Row Value)} {block : List Position}
    (hlength : rows.length ≤ k) :
    (∃ records, coercedRecords std columns datetimeFields rows = .ok records ∧
        encodeRows std vocabSize k spec records = .ok block) ↔
      ∃ written, rows.mapM (encodeRow std vocabSize spec.entity spec.relationship columns
        datetimeFields) = .ok written ∧
        block = written ++ List.replicate (k - rows.length) .padding := by
  have hcoerced : ∀ {records}, coercedRecords std columns datetimeFields rows = .ok records →
      records.length = rows.length := fun h => (except_mapM_ok.1 h).length_eq.symm
  constructor
  · rintro ⟨records, hrecords, hblock⟩
    obtain ⟨written, hwritten, hblock⟩ := except_bind_ok.1 hblock
    rw [List.take_of_length_le (by rw [hcoerced hrecords]; exact hlength)] at hwritten hblock
    cases hblock
    exact ⟨written, except_mapM_mapM_ok.1 ⟨records, hrecords, hwritten⟩, by rw [hcoerced hrecords]⟩
  · rintro ⟨written, hwritten, rfl⟩
    obtain ⟨records, hrecords, hwritten⟩ := except_mapM_mapM_ok.2 hwritten
    refine ⟨records, hrecords, except_bind_ok.2 ⟨written, ?_, ?_⟩⟩
    · rwa [List.take_of_length_le (by rw [hcoerced hrecords]; exact hlength)]
    · rw [List.take_of_length_le (by rw [hcoerced hrecords]; exact hlength), hcoerced hrecords]
      rfl

section

variable {spec : RelationSpec} {joinValue : Value} {predictionTime : DateTime}
  {columns : Dict String String} {join : String} {time : Option String}

theorem length_relatedRun {database : CustomerDatabase} {rows : List (Sql.Row Value)}
    (h : database.run (relatedSelect document columns join joinValue time (some predictionTime) k) =
      .ok rows) : rows.length ≤ k := by
  obtain ⟨relation, -, -, rfl⟩ := CustomerDatabase.run_ok.1 h
  exact Sql.length_takeLimit_le

/-- The statement of a relation in both databases. -/
theorem relationRows_agree (hspec : spec ∈ relationSpecs)
    (hasks : (relationQuery spec joinValue predictionTime k).Asks document
      (relatedSelect document columns join joinValue time (some predictionTime) k))
    (hmapped : columnOf document spec.joinField = some join)
    (htime : time = (given spec.timestampField).bind (columnOf document))
    (hcompare : database₁.compare = database₂.compare)
    (htables : TablesAgree database₁ database₂ document spec.entity
      (compareField document (given spec.timestampField) .lt (.datetime predictionTime)))
    {rows : List (Sql.Row Value)} (hrun : database₁.run (relatedSelect document columns join joinValue
      time (some predictionTime) k) = .ok rows) :
    rows = relationRows database₁ document spec joinValue predictionTime k ∧
      database₂.run (relatedSelect document columns join joinValue time (some predictionTime) k) =
        .ok (relationRows database₂ document spec joinValue predictionTime k) ∧
      List.Forall₂ (RowsAgree document spec.entity) rows
        (relationRows database₂ document spec joinValue predictionTime k) := by
  obtain ⟨hjoin, -, hsteady⟩ := relations_steady spec hspec
  have hcond : (relationQuery spec joinValue predictionTime k).comparisons document =
      compareField document (some spec.joinField) .eq joinValue ++
        compareField document (given spec.timestampField) .lt (.datetime predictionTime) := by
    simp [relationQuery, Query.comparisons]
  have hfirst : ∀ c ∈ compareField document (some spec.joinField) .eq joinValue,
      Steady document spec.entity c.column := by
    intro c hc
    rw [compareField_some hmapped, List.mem_singleton] at hc
    subst hc
    exact ⟨spec.joinField, hmapped, hjoin⟩
  have horder : ∀ o ∈ mostRecentFirst time, Steady document spec.entity o.column := by
    intro o ho
    obtain ⟨column, hcolumn, rfl⟩ := Option.map_eq_some_iff.1 ho
    rw [htime] at hcolumn
    obtain ⟨f, hf, hcolumn⟩ := Option.bind_eq_some_iff.1 hcolumn
    exact ⟨f, hcolumn, hsteady f (given_eq_some hf)⟩
  have hagree := run_agree hasks hcond hfirst horder hcompare htables hrun
  subst htime
  exact hagree

end

/-- The block of a relation is the same in both databases if and only if the outcomes of the rows
are encoded alike. -/
theorem block_alike_iff {spec : RelationSpec} {joinValue : Value} {predictionTime : DateTime}
    {connection : CustomerDatabaseConnection} {plan : Plan (List FieldRow)} {records : List FieldRow}
    {block : List Position} (hspec : spec ∈ relationSpecs)
    (hplan : relatedRecordsPlan std document spec.joinField joinValue spec.timestampField
      (some predictionTime) k connection = .ok plan)
    (hcompare : database₁.compare = database₂.compare)
    (htables : TablesAgree database₁ database₂ document spec.entity
      (compareField document (given spec.timestampField) .lt (.datetime predictionTime)))
    (hr : plan.result database₁ = .ok records)
    (hblock : encodeRows std vocabSize k spec records = .ok block) :
    (∃ records₂, plan.result database₂ = .ok records₂ ∧
        encodeRows std vocabSize k spec records₂ = .ok block) ↔
      (Mapped document spec.joinField →
        List.Forall₂ (EncodeAlike std vocabSize .relatedRecord document spec.entity)
          (relationRows database₁ document spec joinValue predictionTime k)
          (relationRows database₂ document spec joinValue predictionTime k)) := by
  obtain ⟨-, ⟨hunmapped, rfl⟩ | ⟨join, columns, time, dates, hmapped, hcolumns, htimestamp, hdates,
    rfl⟩⟩ := relatedRecordsPlan_ok hplan
  · -- an unmapped join field: nothing is asked
    cases hr
    refine ⟨fun _ h => ?_, fun _ => ⟨[], rfl, hblock⟩⟩
    rw [Mapped, (readable_of_ok hunmapped).2] at h
    cases h
  · obtain ⟨-, -, hasks⟩ := relatedRecords_asks hplan rfl
    obtain ⟨rows, hrun, hcoerced⟩ := except_bind_ok.1 hr
    obtain ⟨hrows, hrun₂, hagree⟩ := relationRows_agree hspec hasks (resolveColumn_mapped.1 hmapped)
      (timestampColumn_iff.1 htimestamp).2 hcompare htables hrun
    rw [← hrows]
    generalize relationRows database₂ document spec joinValue predictionTime k = rows₂ at hrun₂ hagree
    obtain ⟨written, hwritten, rfl⟩ :=
      (encodeRows_iff (length_relatedRun hrun)).1 ⟨records, hcoerced, hblock⟩
    have hsecond : (∃ records₂, coercedRecords std columns dates rows₂ = .ok records₂ ∧
          encodeRows std vocabSize k spec records₂ =
            .ok (written ++ List.replicate (k - rows.length) .padding)) ↔
        rows₂.mapM (encodeRow std vocabSize spec.entity spec.relationship columns dates) =
          .ok written := by
      rw [encodeRows_iff (length_relatedRun hrun₂), hagree.length_eq]
      constructor
      · rintro ⟨written₂, hwritten₂, heq⟩
        rw [hwritten₂, List.append_cancel_right heq]
      · intro h
        exact ⟨written, h, rfl⟩
    simp only [Plan.result, hrun₂, except_ok_bind]
    rw [hsecond, except_mapM_congr_iff hagree hwritten fun a b c hab ha =>
      encodeRow_alike hab hdates (columns_of_all hcolumns) ha]
    exact ⟨fun h _ => h, fun h => h (mapped_iff.2 ⟨join, hmapped⟩)⟩

end

/-! ## Two states of the customer databases -/

/-- Two states of the customer databases before the prediction time. In the tables of the mapped
entities they agree on the target trip and on the rows that each relation's cutoff admits, except for
the outcome fields: a trip that is not over, a delivery that is not made, a maintenance event that is
not completed by then. The rows that a cutoff leaves out may be any. -/
structure AgreeBefore (env : Environment) (world' : Engine → CustomerDatabase) (db : ControlPlane)
    (ctx : TenantContext) (pool : PoolRegistry) (businessReference : String)
    (predictionTime : DateTime) : Prop where
  compare : ∀ engine, (env.world engine).compare = (world' engine).compare
  target : ∀ trip q, Features.resolveTarget db "Trip" ctx = .ok trip →
    engineOf env db ctx pool trip = .ok q →
    TablesAgree (env.world q.1) (world' q.1) trip.document "Trip"
      ((Query.targetRow businessReference tripFields).comparisons trip.document)
  related : ∀ spec ∈ relationSpecs, ∀ related q, resolve db spec.entity ctx = .ok (some related) →
    engineOf env db ctx pool related = .ok q →
    TablesAgree (env.world q.1) (world' q.1) related.document spec.entity
      (compareField related.document (given spec.timestampField) .lt (.datetime predictionTime))

/-- The target row in a state of the databases. -/
def targetRows (world : Engine → CustomerDatabase) (trip : ResolvedMapping)
    (q : Engine × CustomerDatabaseConnection) (businessReference : String) :
    List (Sql.Row Value) :=
  queryRows (world q.1) trip.document (.targetRow businessReference tripFields) none

/-- In both states the outcome fields of the target row, and of the rows of its relations, have the
same encodings. -/
structure OutcomesAlike (env : Environment) (world' : Engine → CustomerDatabase) (db : ControlPlane)
    (ctx : TenantContext) (pool : PoolRegistry) (businessReference : String)
    (predictionTime : DateTime) (k : Nat) (vocabSize : Int) : Prop where
  target : ∀ trip q, Features.resolveTarget db "Trip" ctx = .ok trip →
    engineOf env db ctx pool trip = .ok q →
    List.Forall₂ (EncodeAlike env.std vocabSize .targetRow trip.document "Trip")
      (targetRows env.world trip q businessReference) (targetRows world' trip q businessReference)
  related : ∀ trip q, Features.resolveTarget db "Trip" ctx = .ok trip →
    engineOf env db ctx pool trip = .ok q → ∀ row ∈ targetRows env.world trip q businessReference,
    ∀ spec ∈ relationSpecs, ∀ joinValue,
      targetValue trip.document row spec.fromTargetField = some joinValue →
    ∀ related q', resolve db spec.entity ctx = .ok (some related) →
      engineOf env db ctx pool related = .ok q' → Mapped related.document spec.joinField →
    List.Forall₂ (EncodeAlike env.std vocabSize .relatedRecord related.document spec.entity)
      (relationRows (env.world q'.1) related.document spec joinValue predictionTime k)
      (relationRows (world' q'.1) related.document spec joinValue predictionTime k)

section

variable {env : Environment} {world' : Engine → CustomerDatabase} {db : ControlPlane}
  {ctx : TenantContext} {pool : PoolRegistry} {businessReference : String}
  {predictionTime : DateTime} {k : Nat} {vocabSize : Int}

/-- The block of one relation, of a target row that joins alike. -/
theorem relatedOf_alike_iff
    (hbefore : AgreeBefore env world' db ctx pool businessReference predictionTime)
    {rawTarget₁ rawTarget₂ : FieldRow} {spec : RelationSpec} (hspec : spec ∈ relationSpecs)
    (hjoin : rawTarget₁.value spec.fromTargetField = rawTarget₂.value spec.fromTargetField)
    {rows : List FieldRow} {block : List Position}
    (hrows : relatedOf env db ctx pool rawTarget₁ predictionTime k spec = .ok rows)
    (hblock : encodeRows env.std vocabSize k spec rows = .ok block) :
    (∃ rows₂, relatedOf { env with world := world' } db ctx pool rawTarget₂ predictionTime k spec =
        .ok rows₂ ∧ encodeRows env.std vocabSize k spec rows₂ = .ok block) ↔
      ∀ joinValue, rawTarget₁.value spec.fromTargetField = some joinValue →
      ∀ related q', resolve db spec.entity ctx = .ok (some related) →
        engineOf env db ctx pool related = .ok q' → Mapped related.document spec.joinField →
      List.Forall₂ (EncodeAlike env.std vocabSize .relatedRecord related.document spec.entity)
        (relationRows (env.world q'.1) related.document spec joinValue predictionTime k)
        (relationRows (world' q'.1) related.document spec joinValue predictionTime k) := by
  unfold relatedOf at hrows ⊢
  rw [← hjoin]
  cases hvalue : rawTarget₁.value spec.fromTargetField with
  | none =>
    rw [hvalue] at hrows
    refine ⟨fun _ joinValue h => ?_, fun _ => ⟨rows, hrows, hblock⟩⟩
    cases h
  | some joinValue =>
    rw [hvalue] at hrows
    obtain ⟨resolved, hresolved, hrows⟩ := except_bind_ok.1 hrows
    simp only [hresolved, except_ok_bind]
    cases resolved with
    | none =>
      refine ⟨fun _ _ _ related q' h => ?_, fun _ => ⟨rows, hrows, hblock⟩⟩
      cases h
    | some related =>
      obtain ⟨⟨engine, connection⟩, hengine, hrows⟩ := except_bind_ok.1 hrows
      have hengine' : engineOf { env with world := world' } db ctx pool related =
          .ok (engine, connection) := hengine
      obtain ⟨plan, hplan, hrows⟩ := except_bind_ok.1 hrows
      simp only [hengine', hplan, except_ok_bind]
      rw [block_alike_iff hspec hplan (hbefore.compare engine)
        (hbefore.related spec hspec related _ hresolved hengine) hrows hblock]
      constructor
      · intro h joinValue' hjoinValue related' q' hrelated hq' hmapped
        cases hjoinValue
        cases hrelated
        cases hengine.symm.trans hq'
        exact h hmapped
      · intro h hmapped
        exact h joinValue rfl related _ rfl hengine hmapped

/-- `OutcomesAlike` of the rows that are there. -/
theorem outcomesAlike_iff {trip : ResolvedMapping} {q : Engine × CustomerDatabaseConnection}
    {a b : Sql.Row Value} (hresolved : Features.resolveTarget db "Trip" ctx = .ok trip)
    (hengine : engineOf env db ctx pool trip = .ok q)
    (ha : targetRows env.world trip q businessReference = [a])
    (hb : targetRows world' trip q businessReference = [b]) :
    OutcomesAlike env world' db ctx pool businessReference predictionTime k vocabSize ↔
      EncodeAlike env.std vocabSize .targetRow trip.document "Trip" a b ∧
      ∀ spec ∈ relationSpecs, ∀ joinValue,
        targetValue trip.document a spec.fromTargetField = some joinValue →
      ∀ related q', resolve db spec.entity ctx = .ok (some related) →
        engineOf env db ctx pool related = .ok q' → Mapped related.document spec.joinField →
      List.Forall₂ (EncodeAlike env.std vocabSize .relatedRecord related.document spec.entity)
        (relationRows (env.world q'.1) related.document spec joinValue predictionTime k)
        (relationRows (world' q'.1) related.document spec joinValue predictionTime k) := by
  constructor
  · intro h
    have htarget := h.target trip q hresolved hengine
    rw [ha, hb, List.forall₂_cons] at htarget
    exact ⟨htarget.1, h.related trip q hresolved hengine a (by simp [ha])⟩
  · rintro ⟨htarget, hrelated⟩
    refine ⟨fun trip' q' htrip' hq' => ?_, fun trip' q' htrip' hq' row hrow => ?_⟩
    · cases hresolved.symm.trans htrip'
      cases hengine.symm.trans hq'
      rw [ha, hb]
      exact .cons htarget .nil
    · cases hresolved.symm.trans htrip'
      cases hengine.symm.trans hq'
      rw [ha, List.mem_singleton] at hrow
      subst hrow
      exact hrelated

/-- The tensors of a target trip are the same in both states if and only if the outcomes in them
are encoded alike, whatever is known of these at the prediction time. -/
theorem tensors_alike_iff {label : Option Int} {batch : EncodedBatch}
    (hbefore : AgreeBefore env world' db ctx pool businessReference predictionTime)
    (hfirst : tensors env db ctx pool businessReference predictionTime label k vocabSize =
      .ok batch) :
    tensors { env with world := world' } db ctx pool businessReference predictionTime label k
        vocabSize = .ok batch ↔
      OutcomesAlike env world' db ctx pool businessReference predictionTime k vocabSize := by
  obtain ⟨trip, q, rawTarget, rows, target, blocks, hfetched, hwritten, rfl⟩ := tensors_ok.1 hfirst
  obtain ⟨plan, hplan, hr⟩ := except_bind_ok.1 hfetched.target
  obtain ⟨columns, a, b, ha, hb, hagree, rfl, hr₂, hcolumns, hvalues⟩ := target_agree hplan
    (hbefore.compare q.1) (hbefore.target trip q hfetched.resolved hfetched.engine) hr
  obtain ⟨schema, hschema, hfields⟩ : ∃ schema, entityFieldSchema "Trip" = .ok schema ∧
      schema.numericFields ++ schema.categoricalFields ++ schema.datetimeFields = tripFields :=
    ⟨_, rfl, rfl⟩
  have htarget := writeRecord_alike hagree hschema
    (fun f hf => value_raw (show Place.targetRow.coerces = false from rfl)
      (hcolumns f (hfields ▸ hf)))
    (fun f hf => value_raw rfl (hcolumns f (hfields ▸ hf))) hwritten.target
  have hjoin : ∀ spec ∈ relationSpecs, (readRow columns a).value spec.fromTargetField =
      (readRow columns b).value spec.fromTargetField := by
    intro spec hspec
    rw [hvalues, hvalues]
    exact targetValue_agree hagree (relations_steady spec hspec).2.1
  have hblocks : ∀ spec, ∀ hspec : spec ∈ relationSpecs, _ := fun spec hspec =>
    relatedOf_alike_iff hbefore hspec (hjoin spec hspec) (hfetched.related spec hspec)
      (hwritten.blocks spec hspec)
  have hengine₂ : engineOf { env with world := world' } db ctx pool trip = .ok q := hfetched.engine
  rw [tensors_eq_iff hfetched.resolved hengine₂ fun spec hspec =>
      length_encodeRows (hwritten.blocks spec hspec),
    outcomesAlike_iff hfetched.resolved hfetched.engine ha hb, hplan, except_ok_bind, hr₂]
  constructor
  · rintro ⟨rawTarget₂, hraw, hwritten₂, hrelated⟩
    cases hraw
    refine ⟨htarget.1 hwritten₂, fun spec hspec joinValue hjoinValue => ?_⟩
    exact (hblocks spec hspec).1 (hrelated spec hspec) joinValue ((hvalues _ _).trans hjoinValue)
  · rintro ⟨hencoded, hrelated⟩
    refine ⟨readRow columns b, rfl, htarget.2 hencoded, fun spec hspec => ?_⟩
    refine (hblocks spec hspec).2 fun joinValue hjoinValue => ?_
    exact hrelated spec hspec joinValue ((hvalues _ _).symm.trans hjoinValue)

end

namespace Sample

open Extraction.Sample (trips tripMapping tripRow planned cancelled servedTrips
  resolveTarget_servedTrips resolve_servedTrips)
open HermesRpt.Sample (ctx)

/-- With the digests of the texts in the sample. -/
def before : Environment :=
  { planned with std := { HermesRpt.Sample.std with
      sha256Prefix := fun s =>
        if s = "planned" then 11173178959015006760
        else if s = "cancelled" then 10035995099474217538
        else if s = "d1" then 10039477529245159366
        else 0 } }

def after : Environment := { before with world := cancelled }

/-- The tensors of the trip that departs at 2000, at that time. -/
def tensorsIn (env : Environment) : Except PyError EncodedBatch :=
  tensors env servedTrips ctx Keyed.Table.empty "t1" ⟨2000, 0⟩ none 2 100

def batch : EncodedBatch := (tensorsIn before).toOption.getD ⟨[], none⟩

theorem tensorsIn_before : tensorsIn before = .ok batch := by
  have hok : (tensorsIn before).toBool = true := by decide +kernel
  unfold batch
  cases h : tensorsIn before with
  | error e =>
    rw [h] at hok
    cases hok
  | ok b => rfl

/-- A trip before and after it is over. -/
theorem rowsAgree_trip (id : String) (departs : DateTime) (state state' : String)
    (arrived arrived' : Option Value) :
    RowsAgree trips "Trip" (tripRow id departs state arrived)
      (tripRow id departs state' arrived') := by
  intro f c hc hout
  have hkey : f ∈ trips.allFieldMappings.keys := by
    obtain ⟨mapping, hmapping, -⟩ := Option.bind_eq_some_iff.1 hc
    exact Keyed.Dict.mem_keys.2 ⟨mapping, hmapping⟩
  have hall : ∀ f ∈ trips.allFieldMappings.keys, f ∉ outcomeFields "Trip" →
      ∀ c ∈ columnOf trips f, c ≠ "state" ∧ c ≠ "arrived" := by decide
  obtain ⟨hstate, harrived⟩ := hall f hkey hout c hc
  simp [tripRow, hstate, harrived]

theorem agreeBefore_trips :
    AgreeBefore before cancelled servedTrips ctx Keyed.Table.empty "t1" ⟨2000, 0⟩ where
  compare _ := rfl
  target trip q htrip _ := by
    cases resolveTarget_servedTrips.symm.trans htrip
    exact .some ⟨rfl, .cons (rowsAgree_trip _ _ _ _ _ _) .nil⟩
  related spec hspec related q hrelated _ := by
    obtain ⟨hname, rfl⟩ := resolve_servedTrips hrelated
    have htime : ∀ spec ∈ relationSpecs, spec.entity = "Trip" →
        spec.timestampField = some "planned_departure_at" := by decide
    rw [hname, htime spec hspec hname]
    exact .some ⟨rfl, .cons (rowsAgree_trip _ _ _ _ _ _) .nil⟩

end Sample

/-- What happens to the trip after the prediction time is in its tensors. -/
theorem outcome_encoded :
    AgreeBefore Sample.before Sample.after.world Extraction.Sample.servedTrips HermesRpt.Sample.ctx
      Keyed.Table.empty "t1" ⟨2000, 0⟩ ∧
    (Sample.tensorsIn Sample.before).map (·.positions) ≠
      (Sample.tensorsIn Sample.after).map (·.positions) := by
  refine ⟨Sample.agreeBefore_trips, ?_⟩
  decide +kernel

theorem tensors_alike_iff_sample :
    tensors Sample.after Extraction.Sample.servedTrips HermesRpt.Sample.ctx Keyed.Table.empty "t1"
        ⟨2000, 0⟩ none 2 100 = .ok Sample.batch ↔
      OutcomesAlike Sample.before Sample.after.world Extraction.Sample.servedTrips
        HermesRpt.Sample.ctx Keyed.Table.empty "t1" ⟨2000, 0⟩ 2 100 :=
  tensors_alike_iff Sample.agreeBefore_trips Sample.tensorsIn_before

end Transformer

end HermesRpt
