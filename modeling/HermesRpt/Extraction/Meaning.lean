import HermesRpt.Extraction.Sample
import HermesRpt.Extraction.Values
import HermesRpt.Mappings.Validation

/-!
# HermesRpt.Extraction.Meaning

What a mapping document says the value of a field is, and when the builders use that value.

* `meaning`    : the document's value of a field on a source row.
* `Honoured`   : the value that is used is the document's.
* `Unaltered`  : the condition on the row and the mapping under which it is.
* `values_honoured_iff` : the builders use the values of `valueUsed`, and each is the document's
  under that condition.
-/

namespace HermesRpt

namespace Extraction

open Effect Connectors Mappings Features Ontology
open Keyed (Dict)

/-! ## The meaning of a document -/

/-- What a source gives on a row. -/
def rawValue (std : Stdlib) (row : Sql.Row Value) (source : ValueSource) :
    Except PyError ScalarValue :=
  match source.column, source.derived with
  | some column, _ => .ok (row column)
  | none, some derived => evaluate std (fun column => some (row column)) derived
  | none, none => .ok source.static

/-- A value that is a quantity of something. -/
def quantity? : Value → Option ℚ
  | .int n => some n
  | .float x => some x
  | _ => none

/-- `value_map`, by the text of the value; a value that is not in the map stays. -/
def translate (std : Stdlib) (source : ValueSource) (v : Value) : Value :=
  match source.valueMap with
  | none => v
  | some valueMap => ((valueMap.get? (v.toStr std)).map Value.str).getD v

/-- A quantity in `source_unit`, in the canonical unit of the field. -/
def toCanonicalUnit (source : ValueSource) (fieldDef : OntologyFieldDefinition) (v : Value) : Value :=
  match source.sourceUnit, fieldDef.unit, quantity? v with
  | some sourceUnit, some unit, some x =>
    match convertToCanonical x sourceUnit unit with
    | .ok converted => .float converted
    | .error _ => v
  | _, _, _ => v

/-- The first source whose value is neither null nor one of its null values, translated and
converted; the default when there is none. -/
def meaning (std : Stdlib) (fieldDef : OntologyFieldDefinition) (row : Sql.Row Value)
    (default : ScalarValue) : List ValueSource → Except PyError ScalarValue
  | [] => .ok default
  | source :: sources => do
    match ← rawValue std row source with
    | none => meaning std fieldDef row default sources
    | some v =>
      if v.toStr std ∈ source.nullValues then meaning std fieldDef row default sources
      else return some (toCanonicalUnit source fieldDef (translate std source v))

/-! ## Values that are the same -/

/-- A text in a datetime field stands for the datetime it spells. -/
def reading (std : Stdlib) (fieldDef : OntologyFieldDefinition) (v : Value) : Value :=
  match fieldDef.logicalType, v with
  | .datetime, .str s => ((std.fromisoformat s).map Value.datetime).getD v
  | _, _ => v

/-- The same value of a field: both null, or equal as Python compares them. -/
def Same (std : Stdlib) (fieldDef : OntologyFieldDefinition) : ScalarValue → ScalarValue → Prop
  | none, none => True
  | some v, some w => ((reading std fieldDef v).pyEq (reading std fieldDef w)) = true
  | _, _ => False

/-- The value that is used in a place is the one the document means. -/
def Honoured (std : Stdlib) (place : Place) (document : MappingDocument)
    (fieldDef : OntologyFieldDefinition) (fieldName : String) (fieldMapping : FieldMapping)
    (row : Sql.Row Value) : Prop :=
  ∃ used meant, valueUsed std place document fieldName row = .ok used ∧
    meaning std fieldDef row fieldMapping.default fieldMapping.sources = .ok meant ∧
    Same std fieldDef used meant

/-- The value map has no entry for the value, or maps it to itself. -/
def Untranslated (std : Stdlib) (source : ValueSource) (v : Value) : Prop :=
  ∀ valueMap target, source.valueMap = some valueMap →
    valueMap.get? (v.toStr std) = some target → v = .str target

/-- The quantity is zero, or the source unit is the canonical one. -/
def InCanonicalUnit (source : ValueSource) (fieldDef : OntologyFieldDefinition) (v : Value) : Prop :=
  ∀ sourceUnit unit factor x, source.sourceUnit = some sourceUnit → fieldDef.unit = some unit →
    (unitFamily unit).lookup sourceUnit = some factor → quantity? v = some x → x = 0 ∨ factor = 1

/-- The first source is a column, and what the row has there is the document's value already. -/
def Unaltered (std : Stdlib) (place : Place) (fieldDef : OntologyFieldDefinition)
    (fieldMapping : FieldMapping) (row : Sql.Row Value) : Prop :=
  ∃ column, fieldMapping.firstSource.column = some column ∧
    match row column with
    | none => meaning std fieldDef row fieldMapping.default fieldMapping.sources.tail = .ok none
    | some v =>
      (if v.toStr std ∈ fieldMapping.firstSource.nullValues then
        ∃ w, meaning std fieldDef row fieldMapping.default fieldMapping.sources.tail = .ok (some w) ∧
          Same std fieldDef (some v) (some w)
      else Untranslated std fieldMapping.firstSource v ∧
        InCanonicalUnit fieldMapping.firstSource fieldDef v) ∧
      (place.coerces = true → fieldDef.logicalType = .datetime → ∀ s, v = .str s →
        (std.fromisoformat s).isSome)

section

variable {std : Stdlib}

theorem Value.pyEq_refl (v : Value) : v.pyEq v = true := by
  cases v <;> simp [Value.pyEq, Value.number?]

theorem Value.pyEq_str {v : Value} {t : String} : v.pyEq (.str t) = true ↔ v = .str t := by
  cases v <;> simp [Value.pyEq, Value.number?]

theorem pyEq_quantity {v : Value} {x y : ℚ} (h : quantity? v = some x) :
    v.pyEq (.float y) = true ↔ x = y := by
  cases v <;> simp_all [quantity?, Value.pyEq, Value.number?]

theorem reading_eq {fieldDef : OntologyFieldDefinition} (h : fieldDef.logicalType ≠ .datetime)
    (v : Value) : reading std fieldDef v = v := by
  unfold reading
  split
  · rename_i hd; exact absurd hd h
  · rfl

/-- What a valid source says about its field: a unit belongs to a float field and is known, a value
map belongs to an enum field. -/
theorem source_fits {source : ValueSource} {fieldDef : OntologyFieldDefinition} {fieldName : String}
    (hunit : validateSourceUnit source fieldDef fieldName = [])
    (hmap : validateValueMap source fieldDef fieldName = []) :
    (∀ u, source.sourceUnit = some u → ∃ unit factor, fieldDef.unit = some unit ∧
      (unitFamily unit).lookup u = some factor ∧ fieldDef.logicalType = .float) ∧
    ∀ m, source.valueMap = some m → fieldDef.logicalType = .enum := by
  constructor
  · intro u hu
    unfold validateSourceUnit at hunit
    rw [hu] at hunit
    dsimp only at hunit
    cases hd : fieldDef.unit with
    | none => rw [hd] at hunit; cases hunit
    | some unit =>
      rw [hd] at hunit
      dsimp only at hunit
      cases hc : convertToCanonical 1 u unit with
      | error e => rw [hc] at hunit; cases hunit
      | ok x =>
        obtain ⟨factor, hf, -⟩ := convertToCanonical_ok.1 hc
        exact ⟨unit, factor, rfl, hf, fieldDef.unit_float (by simp [hd])⟩
  · intro m hm
    unfold validateValueMap at hmap
    rw [hm] at hmap
    dsimp only at hmap
    by_contra hne
    rw [if_pos hne] at hmap
    cases hmap

/-- Translating leaves the same value exactly when the value map has nothing else for it. -/
theorem same_translated {source : ValueSource} {fieldDef : OntologyFieldDefinition}
    (hm : ∀ m, source.valueMap = some m → fieldDef.logicalType = .enum) (v : Value) :
    Same std fieldDef (some v) (some (translate std source v)) ↔ Untranslated std source v := by
  cases hsource : source.valueMap with
  | none =>
    simp only [translate, hsource, Same, Value.pyEq_refl, true_iff]
    intro m t h; rw [hsource] at h; cases h
  | some m =>
    have hdt : fieldDef.logicalType ≠ .datetime := by rw [hm m hsource]; decide
    simp only [translate, hsource, Same, reading_eq hdt]
    cases hget : m.get? (v.toStr std) with
    | none =>
      simp only [Option.map_none, Option.getD_none, Value.pyEq_refl, true_iff]
      intro m' t hm' ht
      rw [hsource] at hm'; cases hm'
      rw [hget] at ht; cases ht
    | some t =>
      simp only [Option.map_some, Option.getD_some, Value.pyEq_str]
      constructor
      · intro hv m' t' hm' ht
        rw [hsource] at hm'; cases hm'
        rw [hget] at ht; cases ht
        exact hv
      · intro h; exact h m t hsource hget

/-- Converting leaves the same value exactly when it is zero, or nothing is to be converted. -/
theorem same_converted {source : ValueSource} {fieldDef : OntologyFieldDefinition}
    (hu : ∀ u, source.sourceUnit = some u → ∃ unit factor, fieldDef.unit = some unit ∧
      (unitFamily unit).lookup u = some factor ∧ fieldDef.logicalType = .float) (v : Value) :
    Same std fieldDef (some v) (some (toCanonicalUnit source fieldDef v)) ↔
      InCanonicalUnit source fieldDef v := by
  cases hs : source.sourceUnit with
  | none =>
    simp only [toCanonicalUnit, hs, Same, Value.pyEq_refl, true_iff]
    intro u unit factor x h; rw [hs] at h; cases h
  | some u =>
    obtain ⟨unit, factor, hd, hf, hfloat⟩ := hu u hs
    have hdt : fieldDef.logicalType ≠ .datetime := by rw [hfloat]; decide
    cases hq : quantity? v with
    | none =>
      simp only [toCanonicalUnit, hs, hd, hq, Same, Value.pyEq_refl, true_iff]
      intro u unit factor x _ _ _ h; rw [hq] at h; cases h
    | some x =>
      have hconv : convertToCanonical x u unit = .ok (x * factor) :=
        convertToCanonical_ok.2 ⟨factor, hf, rfl⟩
      simp only [toCanonicalUnit, hs, hd, hq, hconv, Same, reading_eq hdt, pyEq_quantity hq]
      constructor
      · intro hx u' unit' factor' x' hu' hunit' hf' hx'
        rw [hs] at hu'; cases hu'
        rw [hd] at hunit'; cases hunit'
        rw [hf] at hf'; cases hf'
        rw [hq] at hx'; cases hx'
        by_cases h0 : x = 0
        · exact .inl h0
        · exact .inr (mul_left_cancel₀ h0 (by rw [mul_one]; exact hx.symm))
      · intro h
        rcases h u unit factor x hs hd hf hq with rfl | rfl
        · rw [zero_mul]
        · rw [mul_one]

/-- Translating and converting a value of a valid source leaves the same value exactly when
neither does anything to it: a source of an enum field has no unit. -/
theorem same_canonical {source : ValueSource} {fieldDef : OntologyFieldDefinition}
    {fieldName : String} (hunit : validateSourceUnit source fieldDef fieldName = [])
    (hmap : validateValueMap source fieldDef fieldName = []) (v : Value) :
    Same std fieldDef (some v) (some (toCanonicalUnit source fieldDef (translate std source v))) ↔
      Untranslated std source v ∧ InCanonicalUnit source fieldDef v := by
  obtain ⟨hu, hm⟩ := source_fits hunit hmap
  cases hsource : source.valueMap with
  | some m =>
    have hno : source.sourceUnit = none := by
      cases h : source.sourceUnit with
      | none => rfl
      | some u =>
        obtain ⟨_, _, _, _, hfloat⟩ := hu u h
        rw [hm m hsource] at hfloat
        cases hfloat
    have hunits : InCanonicalUnit source fieldDef v := by
      intro u unit factor x h; rw [hno] at h; cases h
    have hconvert : toCanonicalUnit source fieldDef (translate std source v) =
        translate std source v := by simp only [toCanonicalUnit, hno]
    rw [hconvert, and_iff_left hunits]
    exact same_translated hm v
  | none =>
    have huntranslated : Untranslated std source v := by
      intro m t h; rw [hsource] at h; cases h
    have htranslate : translate std source v = v := by simp only [translate, hsource]
    rw [htranslate, and_iff_right huntranslated]
    exact same_converted hu v

/-- A field of the entity is coerced when it is a datetime. -/
theorem mem_datetimeFields {entity : OntologyEntityDefinition} {fieldName : String}
    {fieldDef : OntologyFieldDefinition} (h : entity.field? fieldName = some fieldDef) :
    fieldName ∈ (entity.fields.filter (·.logicalType = .datetime)).map (·.name) ↔
      fieldDef.logicalType = .datetime := by
  have hname : fieldDef.name = fieldName := by simpa using List.find?_some h
  have hmem := List.mem_of_find?_eq_some h
  simp only [List.mem_map, List.mem_filter, decide_eq_true_eq]
  constructor
  · intro ⟨g, ⟨hg, hd⟩, hgn⟩
    have : g = fieldDef :=
      List.inj_on_of_nodup_map entity.unique_names hg hmem (hgn.trans hname.symm)
    rw [← this]; exact hd
  · intro hd
    exact ⟨fieldDef, ⟨hmem, hd⟩, hname⟩

variable {document : MappingDocument} {entity : OntologyEntityDefinition} {fieldName : String}
  {fieldMapping : FieldMapping} {fieldDef : OntologyFieldDefinition}

/-- What is used of a field whose first source is a column. -/
theorem valueUsed_column (hentity : V1.ontology.getEntity document.entity = .ok entity)
    (hf : document.allFieldMappings.get? fieldName = some fieldMapping)
    (hdef : entity.field? fieldName = some fieldDef) {column : String}
    (hc : fieldMapping.firstSource.column = some column) (place : Place) (row : Sql.Row Value) :
    valueUsed std place document fieldName row =
      if place.coerces = true ∧ fieldDef.logicalType = .datetime then coerceValue std (row column)
      else .ok (row column) := by
  have hfields : datetimeFieldNames document =
      .ok ((entity.fields.filter (·.logicalType = .datetime)).map (·.name)) := by
    simp only [datetimeFieldNames, getOntology, defaultOntologyVersion, if_true, bind, Except.bind,
      hentity]
    rfl
  have hmem := mem_datetimeFields hdef
  have hr : resolveColumn document fieldName = .ok (some column) := by
    simp only [resolveColumn, hf, hc]
  simp only [valueUsed, hr, bind, Except.bind]
  by_cases hp : place.coerces = true
  · simp only [hp, if_true, hfields, true_and, hmem]
    rfl
  · simp only [hp]
    rfl

theorem same_reading {v w : Value} {meant : ScalarValue}
    (h : reading std fieldDef v = reading std fieldDef w) :
    Same std fieldDef (some v) meant ↔ Same std fieldDef (some w) meant := by
  cases meant <;> simp [Same, h]

/-- Coercion of a datetime field can fail, but it does not change what the value stands for. -/
theorem same_coerced (hd : fieldDef.logicalType = .datetime) (v meant : ScalarValue) :
    (∃ used, coerceValue std v = .ok used ∧ Same std fieldDef used meant) ↔
      Same std fieldDef v meant ∧ ∀ s, v = some (.str s) → (std.fromisoformat s).isSome := by
  by_cases hv : ∃ s, v = some (.str s)
  · obtain ⟨s, rfl⟩ := hv
    simp only [coerceValue, parseDatetime]
    cases hp : std.fromisoformat s with
    | none =>
      simp only [bind, Except.bind, reduceCtorEq, false_and, exists_false, false_iff, not_and]
      intro _ h
      have := h s rfl
      rw [hp] at this
      cases this
    | some t =>
      have hread : reading std fieldDef (.datetime t) = reading std fieldDef (.str s) := by
        simp [reading, hd, hp]
      constructor
      · rintro ⟨used, hu, hs⟩
        cases hu
        refine ⟨(same_reading hread).1 hs, fun s' hs' => ?_⟩
        cases hs'
        rw [hp]; rfl
      · intro h
        exact ⟨_, rfl, (same_reading hread).2 h.1⟩
  · have hc : coerceValue std v = .ok v := by
      unfold coerceValue
      split
      · rename_i s; exact absurd ⟨s, rfl⟩ hv
      · rfl
    rw [hc]
    constructor
    · rintro ⟨used, hu, hs⟩
      cases hu
      exact ⟨hs, fun s hs' => absurd ⟨s, hs'⟩ hv⟩
    · intro h
      exact ⟨v, rfl, h.1⟩

/-- A field whose first source is a column is honoured when the column's value is what the document
means, and a coerced text is a datetime. -/
theorem honoured_column (hentity : V1.ontology.getEntity document.entity = .ok entity)
    (hf : document.allFieldMappings.get? fieldName = some fieldMapping)
    (hdef : entity.field? fieldName = some fieldDef) {column : String}
    (hc : fieldMapping.firstSource.column = some column) (place : Place) (row : Sql.Row Value) :
    Honoured std place document fieldDef fieldName fieldMapping row ↔
      (∃ meant, meaning std fieldDef row fieldMapping.default fieldMapping.sources = .ok meant ∧
        Same std fieldDef (row column) meant) ∧
      (place.coerces = true → fieldDef.logicalType = .datetime → ∀ s, row column = some (.str s) →
        (std.fromisoformat s).isSome) := by
  unfold Honoured
  rw [valueUsed_column hentity hf hdef hc]
  by_cases hp : place.coerces = true ∧ fieldDef.logicalType = .datetime
  · rw [if_pos hp]
    constructor
    · rintro ⟨used, meant, hu, hm, hs⟩
      have h := (same_coerced hp.2 (row column) meant).1 ⟨used, hu, hs⟩
      exact ⟨⟨meant, hm, h.1⟩, fun _ _ => h.2⟩
    · rintro ⟨⟨meant, hm, hs⟩, htext⟩
      obtain ⟨used, hu, hsame⟩ :=
        (same_coerced hp.2 (row column) meant).2 ⟨hs, htext hp.1 hp.2⟩
      exact ⟨used, meant, hu, hm, hsame⟩
  · rw [if_neg hp]
    constructor
    · rintro ⟨used, meant, hu, hm, hs⟩
      cases hu
      exact ⟨⟨meant, hm, hs⟩, fun h1 h2 => absurd ⟨h1, h2⟩ hp⟩
    · rintro ⟨⟨meant, hm, hs⟩, -⟩
      exact ⟨_, meant, rfl, hm, hs⟩

/-- A field of a valid document is honoured exactly on the rows it leaves unaltered. -/
theorem honoured_iff (hentity : V1.ontology.getEntity document.entity = .ok entity)
    (hf : document.allFieldMappings.get? fieldName = some fieldMapping)
    (hdef : entity.field? fieldName = some fieldDef)
    (hunit : validateSourceUnit fieldMapping.firstSource fieldDef fieldName = [])
    (hmap : validateValueMap fieldMapping.firstSource fieldDef fieldName = []) (place : Place)
    (row : Sql.Row Value) :
    Honoured std place document fieldDef fieldName fieldMapping row ↔
      Unaltered std place fieldDef fieldMapping row := by
  have hsources : fieldMapping.sources =
      fieldMapping.firstSource :: fieldMapping.sources.tail :=
    (List.cons_head_tail fieldMapping.sources_ne).symm
  cases hc : fieldMapping.firstSource.column with
  | none =>
    have hr : resolveColumn document fieldName = .error (notDirectlyMapped fieldName) := by
      simp only [resolveColumn, hf, hc]
    constructor
    · rintro ⟨used, meant, hu, -⟩
      simp only [valueUsed, hr, bind, Except.bind, reduceCtorEq] at hu
    · rintro ⟨column, h, -⟩
      rw [hc] at h; cases h
  | some column =>
    rw [honoured_column hentity hf hdef hc, hsources]
    simp only [Unaltered, hc, Option.some.injEq, exists_eq_left', meaning, rawValue, bind,
      Except.bind]
    cases hrow : row column with
    | none =>
      simp only [reduceCtorEq, false_implies, implies_true, and_true]
      constructor
      · rintro ⟨meant, hm, hs⟩
        cases meant with
        | none => exact hm
        | some w => exact hs.elim
      · intro h
        exact ⟨none, h, trivial⟩
    | some v =>
      simp only [Option.some.injEq]
      refine and_congr_left fun _ => ?_
      by_cases hnull : v.toStr std ∈ fieldMapping.firstSource.nullValues
      · simp only [hnull, if_true]
        constructor
        · rintro ⟨meant, hm, hs⟩
          cases meant with
          | none => exact hs.elim
          | some w => exact ⟨w, hm, hs⟩
        · rintro ⟨w, hm, hs⟩
          exact ⟨some w, hm, hs⟩
      · simp only [hnull, if_false, ← same_canonical hunit hmap v]
        constructor
        · rintro ⟨meant, hm, hs⟩
          cases hm; exact hs
        · intro hs
          exact ⟨_, rfl, hs⟩

end

/-! ## The builders -/

/-- Everything the builders hand on or look at is the value that is used of some field. -/
structure ReadsUsedValues (env : Environment) (document : MappingDocument) : Prop where
  targetRow : ∀ engine reference neededFields connection s record,
    (fetchTargetRow env engine document reference neededFields connection s).1 =
        .ok (some record) →
      ∃ row, SourceRow (env.world engine) document row ∧ ∀ f ∈ neededFields,
        valueUsed env.std .targetRow document f row = .ok (record.value f)
  datasetRow : ∀ engine timeField rangeStart rangeEnd neededFields connection s records,
    (fetchRowsInRange env engine document timeField rangeStart rangeEnd neededFields connection
        s).1 = .ok records →
      ∀ record ∈ records, ∃ row, SourceRow (env.world engine) document row ∧
        ∀ f ∈ neededFields ++ [timeField],
          valueUsed env.std .datasetRow document f row = .ok (record.value f)
  relatedRecord : ∀ engine joinField joinValue timestampField predictionTime limit connection s
      records,
    (fetchRelatedRecords env engine document joinField joinValue timestampField predictionTime
        limit connection s).1 = .ok records →
      ∀ record ∈ records, ∃ row, SourceRow (env.world engine) document row ∧
        ∀ f ∈ document.allFieldMappings.keys,
          valueUsed env.std .relatedRecord document f row = .ok (record.value f)
  relatedRecipe : ∀ engine feature joinValue predictionTime connection s,
    ∀ p ∈ (compileAndRunRelatedFeature env engine feature document joinValue predictionTime
        connection s).2.statements, p ∈ s.statements ∨ ∀ column ∈ p.2.columnsRead,
      ∃ f ∈ relatedFields feature, ∀ row,
        valueUsed env.std .relatedRecipe document f row = .ok (row column)

theorem readsUsedValues (env : Environment) (document : MappingDocument) :
    ReadsUsedValues env document where
  targetRow engine reference neededFields connection s record h := by
    rw [fetchTargetRow_perform, perform_result] at h
    obtain ⟨plan, hplan, hr⟩ := except_bind_ok.1 h
    exact targetRow_values hplan hr
  datasetRow engine timeField rangeStart rangeEnd neededFields connection s records h := by
    rw [fetchRowsInRange_perform, perform_result] at h
    obtain ⟨plan, hplan, hr⟩ := except_bind_ok.1 h
    exact fun record hrecord => rowsInRange_values hplan hr hrecord
  relatedRecord engine joinField joinValue timestampField predictionTime limit connection s records
      h := by
    rw [fetchRelatedRecords_perform, perform_result] at h
    obtain ⟨plan, hplan, hr⟩ := except_bind_ok.1 h
    exact fun record hrecord => relatedRecords_values hplan hr hrecord
  relatedRecipe engine feature joinValue predictionTime connection s p hp := by
    rw [compileAndRunRelatedFeature_perform, perform_state] at hp
    rcases List.mem_append.1 hp with hp | hp
    · exact .inl hp
    · right
      obtain ⟨plan, select, hplan, hs, rfl⟩ := mem_sent.1 hp
      exact fun column hc => recipe_values (relatedFeature_columns hplan hs hc)

/-- The builders use the values of `valueUsed`; for a field of a validated document and any row,
that value is the document's exactly when nothing of the document's alters it. -/
theorem values_honoured_iff (env : Environment) {document : MappingDocument}
    {entity : OntologyEntityDefinition}
    {availableColumns schemaAllowlist tableAllowlist : Option (List String)}
    (hentity : V1.ontology.getEntity document.entity = .ok entity)
    (hvalid : validateMappingDocument env.std document entity availableColumns schemaAllowlist
      tableAllowlist = .ok ()) :
    ReadsUsedValues env document ∧
      ∀ fieldName fieldMapping,
        document.allFieldMappings.get? fieldName = some fieldMapping →
        ∃ fieldDef, entity.field? fieldName = some fieldDef ∧ ∀ place row,
          Honoured env.std place document fieldDef fieldName fieldMapping row ↔
            Unaltered env.std place fieldDef fieldMapping row := by
  refine ⟨readsUsedValues env document, fun fieldName fieldMapping hf => ?_⟩
  obtain ⟨fieldDef, hdef, hsources⟩ :=
    fieldErrors_of_valid (validateMappingDocument_ok.1 hvalid) hf
  obtain ⟨-, hunit, hmap⟩ := hsources _ (List.head_mem fieldMapping.sources_ne)
  exact ⟨fieldDef, hdef, honoured_iff hentity hf hdef hunit hmap⟩

namespace Sample

open HermesRpt.Sample (std plain document connection isIdentifier_plate isIdentifier_in_use)

/-- The odometer of a vehicle, in miles. -/
def odometer : FieldMapping where
  sources := [{
    column := some "odometer", sourceUnit := some "miles", column_identifier := by decide
    column_only := by decide }]

def milesDocument : MappingDocument :=
  { document with
    fields := ⟨[("registration_number", plain "plate" isIdentifier_plate),
      ("is_active", plain "in_use" isIdentifier_in_use), ("current_odometer_km", odometer)],
      by decide⟩ }

def milesRow : Sql.Row Value := fun column =>
  if column = "vehicle_no" then some (.str "v1")
  else if column = "odometer" then some (.int 100)
  else none

end Sample

theorem values_honoured_iff_sample :
    ReadsUsedValues (Sample.serving (Sample.oneTable "vehicles" [Sample.milesRow]))
        Sample.milesDocument ∧
      ∀ fieldName fieldMapping,
        Sample.milesDocument.allFieldMappings.get? fieldName = some fieldMapping →
        ∃ fieldDef, V1.vehicle.field? fieldName = some fieldDef ∧ ∀ place row,
          Honoured HermesRpt.Sample.std place Sample.milesDocument fieldDef fieldName fieldMapping
              row ↔
            Unaltered HermesRpt.Sample.std place fieldDef fieldMapping row :=
  values_honoured_iff (Sample.serving (Sample.oneTable "vehicles" [Sample.milesRow])) (by rfl)
    (show validateMappingDocument HermesRpt.Sample.std Sample.milesDocument V1.vehicle
      (some ["vehicle_no", "plate", "in_use", "odometer"]) none none = .ok () by decide +kernel)

/-- A hundred miles of a validated document are used as a hundred kilometres. -/
theorem miles_not_converted :
    validateMappingDocument HermesRpt.Sample.std Sample.milesDocument V1.vehicle
        (some ["vehicle_no", "plate", "in_use", "odometer"]) none none = .ok () ∧
      ((fetchTargetRow (Sample.serving (Sample.oneTable "vehicles" [Sample.milesRow]))
          Sample.engine Sample.milesDocument "v1" ["current_odometer_km"]
          HermesRpt.Sample.connection Sample.start).1.map fun record =>
            record.map (·.value "current_odometer_km")) = .ok (some (some (.int 100))) ∧
      ∃ fieldDef, V1.vehicle.field? "current_odometer_km" = some fieldDef ∧
        meaning HermesRpt.Sample.std fieldDef Sample.milesRow none Sample.odometer.sources =
          .ok (some (.float (1609344 / 10000))) ∧
        ¬Same HermesRpt.Sample.std fieldDef (some (.int 100))
          (some (.float (1609344 / 10000))) := by
  refine ⟨by decide +kernel, by decide +kernel, _, rfl, by decide +kernel, ?_⟩
  simp only [Same]
  decide +kernel

end Extraction

end HermesRpt
