import HermesRpt.Lib.Process
import HermesRpt.Mappings.Effects
import HermesRpt.System

/-!
# HermesRpt.Lifecycle.Submission

What a successful `submit_for_validation` says about the document. It compares the columns of the
field sources with those of the source table, when the snapshot has the table. The columns of
filters and joins, and the tables of joins, it compares with nothing.

* `References` : the places in which a document names a column of its source table.
* `Sound`      : what is named exists, and every required field is mapped.
* `Unchecked`  : the part of it that is not checked.
-/

namespace HermesRpt

namespace Lifecycle

open Keyed (Dict)
open Effect Transaction Machine
open Schemas Mappings

/-- The column occurs in the tree. -/
inductive Mentions (column : String) : Expression → Prop where
  | columnRef : Mentions column (.columnRef column)
  | concat {parts : List Expression} {separator : String} {e : Expression} (he : e ∈ parts)
      (h : Mentions column e) : Mentions column (.concat parts separator)
  | coalesce {options : List Expression} {e : Expression} (he : e ∈ options)
      (h : Mentions column e) : Mentions column (.coalesce options)
  | upperCase {value : Expression} (h : Mentions column value) : Mentions column (.upperCase value)
  | lowerCase {value : Expression} (h : Mentions column value) : Mentions column (.lowerCase value)
  | trim {value : Expression} (h : Mentions column value) : Mentions column (.trim value)
  | value {value ifNull : Expression} (h : Mentions column value) :
      Mentions column (.ifNullThenElse value ifNull)
  | ifNull {value ifNull : Expression} (h : Mentions column ifNull) :
      Mentions column (.ifNullThenElse value ifNull)

theorem mem_referencedColumnsAll {column : String} {es : List Expression} :
    column ∈ referencedColumnsAll es ↔ ∃ e ∈ es, column ∈ referencedColumns e := by
  induction es with
  | nil => simp [referencedColumnsAll]
  | cons e es ih => simp [referencedColumnsAll, ih]

/-- A column that occurs in an expression is listed. -/
theorem mem_referencedColumns {column : String} {e : Expression} :
    Mentions column e → column ∈ referencedColumns e := by
  intro h
  induction h with
  | columnRef => simp [referencedColumns]
  | concat he _ ih => simpa [referencedColumns] using mem_referencedColumnsAll.2 ⟨_, he, ih⟩
  | coalesce he _ ih => simpa [referencedColumns] using mem_referencedColumnsAll.2 ⟨_, he, ih⟩
  | upperCase _ ih => simpa [referencedColumns] using ih
  | lowerCase _ ih => simpa [referencedColumns] using ih
  | trim _ ih => simpa [referencedColumns] using ih
  | value _ ih => simp [referencedColumns, ih]
  | ifNull _ ih => simp [referencedColumns, ih]

/-- A source of a field names the column. -/
def SourceNames (source : ValueSource) (column : String) : Prop :=
  source.column = some column ∨ ∃ e, source.derived = some e ∧ Mentions column e

/-- The document names the column as one of its source table. -/
inductive References (document : MappingDocument) (column : String) : Prop where
  | identity (p : String × FieldMapping) (hp : p ∈ document.identity.rows) (source : ValueSource)
      (hs : source ∈ p.2.sources) (h : SourceNames source column)
  | field (p : String × FieldMapping) (hp : p ∈ document.fields.rows) (source : ValueSource)
      (hs : source ∈ p.2.sources) (h : SourceNames source column)
  | filter (filter : FilterCondition) (hf : filter ∈ document.filters) (h : filter.column = column)
  | join (join : JoinDefinition) (hj : join ∈ document.joins) (h : join.localColumn = column)

/-- Every join's table and foreign column are there. -/
def JoinsExist (result : SchemaIntrospectionResult) (document : MappingDocument) : Prop :=
  ∀ join ∈ document.joins, ∃ table ∈ result.tables,
    table.qualifiedName = join.schemaName ++ "." ++ join.table ∧
      join.foreignColumn ∈ table.columns.map (·.name)

structure Sound (result : SchemaIntrospectionResult)
    (ontologyEntity : Ontology.OntologyEntityDefinition) (document : MappingDocument) : Prop where
  source : ∃ table, result.table? document.source.qualifiedName = some table ∧
    ∀ column, References document column → column ∈ table.columns.map (·.name)
  joins : JoinsExist result document
  required : ∀ fieldDef ∈ ontologyEntity.fields, fieldDef.required = true →
    fieldDef.name ∈ document.identity.keys ∨ fieldDef.name ∈ document.fields.keys

/-- The snapshot has the source table, with the columns of filters and joins and of an identity field
that `fields` maps again, and the joins' tables with their columns. -/
structure Unchecked (result : SchemaIntrospectionResult) (document : MappingDocument) : Prop where
  source : ∃ table, result.table? document.source.qualifiedName = some table ∧
    (∀ filter ∈ document.filters, filter.column ∈ table.columns.map (·.name)) ∧
    (∀ join ∈ document.joins, join.localColumn ∈ table.columns.map (·.name)) ∧
    ∀ p ∈ document.identity.rows, p.1 ∈ document.fields.keys → ∀ source ∈ p.2.sources,
      ∀ column, SourceNames source column → column ∈ table.columns.map (·.name)
  joins : JoinsExist result document

section

variable {std : Stdlib} {document : MappingDocument}
  {ontologyEntity : Ontology.OntologyEntityDefinition}

/-- A checked source names columns of the table only. -/
theorem names_available {source : ValueSource} {available : List String} {fieldName column : String}
    (h : validateSourceColumns std source (some available) fieldName = [])
    (hnames : SourceNames source column) : column ∈ available := by
  obtain ⟨hcolumn, hderived⟩ := columns_available h
  rcases hnames with hc | ⟨e, he, hmentions⟩
  · exact hcolumn column hc
  · exact hderived e he column (mem_referencedColumns hmentions)

/-- A field of `fields` is checked, and so is an identity field that is not mapped again. -/
theorem allFieldMappings_of_field {p : String × FieldMapping} (hp : p ∈ document.fields.rows) :
    document.allFieldMappings.get? p.1 = some p.2 := by
  have hfield : document.fields.get? p.1 = some p.2 := Dict.get?_eq_some.2 hp
  rw [MappingDocument.allFieldMappings, Dict.get?_merge, hfield]
  rfl

theorem allFieldMappings_of_identity {p : String × FieldMapping}
    (hp : p ∈ document.identity.rows) (hno : p.1 ∉ document.fields.keys) :
    document.allFieldMappings.get? p.1 = some p.2 := by
  have hidentity : document.identity.get? p.1 = some p.2 := Dict.get?_eq_some.2 hp
  rw [MappingDocument.allFieldMappings, Dict.get?_merge, Dict.get?_eq_none.2 hno, hidentity]
  rfl

/-- A valid document is sound exactly when what the validation does not look at is there. -/
theorem sound_iff {result : SchemaIntrospectionResult}
    (h : validateMappingDocument std document ontologyEntity
      ((result.table? document.source.qualifiedName).map fun t => t.columns.map (·.name)) none
      none = .ok ()) :
    Sound result ontologyEntity document ↔ Unchecked result document := by
  have hvalid := validateMappingDocument_ok.1 h
  constructor
  · rintro ⟨⟨table, htable, hcolumns⟩, hjoins, -⟩
    refine ⟨⟨table, htable, fun filter hf => hcolumns _ (.filter filter hf rfl),
      fun join hj => hcolumns _ (.join join hj rfl), ?_⟩, hjoins⟩
    intro p hp _ source hs column hnames
    exact hcolumns column (.identity p hp source hs hnames)
  · rintro ⟨⟨table, htable, hfilters, hlocal, hshadowed⟩, hjoins⟩
    refine ⟨⟨table, htable, fun column href => ?_⟩, hjoins, required_of_valid hvalid⟩
    rw [htable, Option.map_some] at hvalid
    have hchecked : ∀ p : String × FieldMapping,
        document.allFieldMappings.get? p.1 = some p.2 → ∀ source ∈ p.2.sources,
          SourceNames source column → column ∈ table.columns.map (·.name) := by
      intro p hp source hs hnames
      obtain ⟨_, -, hsources⟩ := fieldErrors_of_valid hvalid hp
      exact names_available (hsources source hs).1 hnames
    cases href with
    | identity p hp source hs hnames =>
      by_cases hagain : p.1 ∈ document.fields.keys
      · exact hshadowed p hp hagain source hs column hnames
      · exact hchecked p (allFieldMappings_of_identity hp hagain) source hs hnames
    | field p hp source hs hnames =>
      exact hchecked p (allFieldMappings_of_field hp) source hs hnames
    | filter filter hf hcolumn => exact hcolumn ▸ hfilters filter hf
    | join join hj hcolumn => exact hcolumn ▸ hlocal join hj

/-- What a successful submission has looked up, and that the document passed the validation. -/
theorem submission_checked {db : ControlPlane} {ctx : TenantContext} {mappingId : Uuid}
    (h : Succeeds std db (.submitForValidation ctx mappingId)) :
    ∃ m version snapshot result ontology ontologyEntity,
      require SchemaMapping db mappingId ctx = .ok m ∧ latestVersionFor db m ctx = .ok version ∧
      require SchemaSnapshot db m.schemaSnapshotId ctx = .ok snapshot ∧
      snapshot.introspection = .ok result ∧
      Ontology.getOntology m.ontologyVersion = .ok ontology ∧
      ontology.getEntity m.entityName = .ok ontologyEntity ∧
      validateMappingDocument std version.mappingDocument ontologyEntity
        ((result.table? version.mappingDocument.source.qualifiedName).map
          fun t => t.columns.map (·.name)) none none = .ok () := by
  obtain ⟨_, hrun⟩ := discard_ok.1 h
  obtain ⟨m, version, log, hm, -, hversion, hvalid, -, -⟩ := submitForValidation_ok hrun
  obtain ⟨snapshot, hsnapshot, hvalid⟩ := except_bind_ok.1 hvalid
  obtain ⟨ontology, hontology, hvalid⟩ := except_bind_ok.1 hvalid
  obtain ⟨ontologyEntity, hentity, hvalid⟩ := except_bind_ok.1 hvalid
  obtain ⟨result, hresult, hvalid⟩ := except_bind_ok.1 hvalid
  exact ⟨m, version, snapshot, result, ontology, ontologyEntity, hm, hversion, hsnapshot, hresult,
    hontology, hentity, hvalid⟩

end

/-- After a successful submission the latest version's document is sound for the snapshot of the
mapping exactly when what the validation does not look at is there. -/
theorem submission_sound_iff (std : Stdlib) (db : ControlPlane) (ctx : TenantContext)
    (mappingId : Uuid) (h : Succeeds std db (.submitForValidation ctx mappingId)) :
    ∃ m version snapshot result ontology ontologyEntity,
      require SchemaMapping db mappingId ctx = .ok m ∧ latestVersionFor db m ctx = .ok version ∧
      require SchemaSnapshot db m.schemaSnapshotId ctx = .ok snapshot ∧
      snapshot.introspection = .ok result ∧
      Ontology.getOntology m.ontologyVersion = .ok ontology ∧
      ontology.getEntity m.entityName = .ok ontologyEntity ∧
      (Sound result ontologyEntity version.mappingDocument ↔
        Unchecked result version.mappingDocument) := by
  obtain ⟨m, version, snapshot, result, ontology, ontologyEntity, hm, hversion, hsnapshot, hresult,
    hontology, hentity, hvalid⟩ := submission_checked h
  exact ⟨m, version, snapshot, result, ontology, ontologyEntity, hm, hversion, hsnapshot, hresult,
    hontology, hentity, sound_iff hvalid⟩

namespace Sample

open HermesRpt.Sample (std ctx document)

theorem isIdentifier_deleted_at : isIdentifier "deleted_at" = true := by decide

/-- The sample document with a filter on a column that the table does not have. -/
def filtered : MappingDocument :=
  { document with
    filters := [{ column := "deleted_at", isNull := some true,
                  column_identifier := isIdentifier_deleted_at }] }

def drafted : ControlPlane :=
  run (step std) HermesRpt.Sample.db [.createDraft ctx 20 filtered "1" false none none 30 40]

theorem drafted_submits : Succeeds std drafted (.submitForValidation ctx 30) :=
  succeeds_of_toBool (by decide +kernel)

end Sample

theorem submission_sound_iff_sample :
    ∃ m version snapshot result ontology ontologyEntity,
      require SchemaMapping Sample.drafted 30 HermesRpt.Sample.ctx = .ok m ∧
      latestVersionFor Sample.drafted m HermesRpt.Sample.ctx = .ok version ∧
      require SchemaSnapshot Sample.drafted m.schemaSnapshotId HermesRpt.Sample.ctx =
        .ok snapshot ∧
      snapshot.introspection = .ok result ∧
      Ontology.getOntology m.ontologyVersion = .ok ontology ∧
      ontology.getEntity m.entityName = .ok ontologyEntity ∧
      (Sound result ontologyEntity version.mappingDocument ↔
        Unchecked result version.mappingDocument) :=
  submission_sound_iff _ _ _ _ Sample.drafted_submits

/-- The document with the filter is submitted. -/
theorem filter_column_unchecked :
    ¬∀ (std : Stdlib) (db : ControlPlane) (ctx : TenantContext) (mappingId : Uuid),
      Succeeds std db (.submitForValidation ctx mappingId) →
      ∀ m version snapshot result ontology ontologyEntity,
        require SchemaMapping db mappingId ctx = .ok m → latestVersionFor db m ctx = .ok version →
        require SchemaSnapshot db m.schemaSnapshotId ctx = .ok snapshot →
        snapshot.introspection = .ok result →
        Ontology.getOntology m.ontologyVersion = .ok ontology →
        ontology.getEntity m.entityName = .ok ontologyEntity →
        Sound result ontologyEntity version.mappingDocument := by
  intro h
  obtain ⟨m, version, snapshot, result, ontology, ontologyEntity, hm, hversion, hsnapshot, hresult,
    hontology, hentity, -⟩ := submission_checked Sample.drafted_submits
  obtain ⟨⟨table, htable, hcolumns⟩, -, -⟩ := h _ _ _ _ Sample.drafted_submits m version snapshot
    result ontology ontologyEntity hm hversion hsnapshot hresult hontology hentity
  have hfilters : (require SchemaMapping Sample.drafted 30 HermesRpt.Sample.ctx >>= fun m =>
      latestVersionFor Sample.drafted m HermesRpt.Sample.ctx).map
        (fun version => version.mappingDocument.filters.map (·.column)) = .ok ["deleted_at"] := by
    decide +kernel
  have hlacks : (require SchemaMapping Sample.drafted 30 HermesRpt.Sample.ctx >>= fun m =>
      require SchemaSnapshot Sample.drafted m.schemaSnapshotId HermesRpt.Sample.ctx >>=
        SchemaSnapshot.introspection).map (fun result => result.tables.all fun table =>
          "deleted_at" ∉ table.columns.map (·.name)) = .ok true := by
    decide +kernel
  rw [hm, except_ok_bind, hversion] at hfilters
  rw [hm, except_ok_bind, hsnapshot, except_ok_bind, hresult] at hlacks
  have hnames : version.mappingDocument.filters.map (·.column) = ["deleted_at"] :=
    Except.ok.inj hfilters
  have hmem : "deleted_at" ∈ version.mappingDocument.filters.map (·.column) := by
    rw [hnames]
    exact List.mem_singleton_self _
  obtain ⟨filter, hfilter, hcolumn⟩ := List.mem_map.1 hmem
  have hall := List.all_eq_true.1 (Except.ok.inj hlacks) table (List.mem_of_find?_eq_some htable)
  exact of_decide_eq_true hall (hcolumns _ (.filter filter hfilter hcolumn))

end Lifecycle

end HermesRpt
