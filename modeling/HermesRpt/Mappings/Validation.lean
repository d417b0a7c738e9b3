import HermesRpt.Mappings.Document
import HermesRpt.Ontology.Schema
import Mathlib.Data.List.Sort

/-!
# HermesRpt.Mappings.Validation

Semantic validation of a mapping document: the checks that need the ontology entity and the source
table's columns. Every check appends texts to one list, and a document is refused when the list is
not empty.

* `validationErrors`        : the texts, in the order of the source.
* `validateMappingDocument` : raises `MappingValidationError` with all of them.
-/

namespace HermesRpt

namespace Mappings

open Ontology

/-- `sorted(set(xs))` -/
def sortedSet (xs : List String) : List String := xs.dedup.insertionSort (· ≤ ·)

/-- `_validate_source_columns` -/
def validateSourceColumns (std : Stdlib) (source : ValueSource)
    (availableColumns : Option (List String)) (fieldName : String) : List String :=
  match source.derived.map (checkExpressionDepth 1) with
  | some (.error e) => [fieldName ++ ": " ++ e.message]
  | _ =>
    match availableColumns with
    | none => []
    | some available =>
      (source.column.toList.filter (· ∉ available)).map (fun column =>
        fieldName ++ ": column " ++ reprStr column ++ " does not exist in the source table") ++
      (source.derived.toList.flatMap fun derived =>
        ((std.setOrder (referencedColumns derived)).filter (· ∉ available)).map fun column =>
          fieldName ++ ": derived expression references unknown column " ++ reprStr column)

/-- `_validate_source_unit` -/
def validateSourceUnit (source : ValueSource) (fieldDef : OntologyFieldDefinition)
    (fieldName : String) : List String :=
  match source.sourceUnit with
  | none => []
  | some sourceUnit =>
    match fieldDef.unit with
    | none => [fieldName ++ ": source_unit given but the ontology field has no canonical unit"]
    | some unit =>
      match convertToCanonical 1 sourceUnit unit with
      | .ok _ => []
      | .error e => [fieldName ++ ": " ++ e.message]

/-- `_validate_value_map` -/
def validateValueMap (source : ValueSource) (fieldDef : OntologyFieldDefinition)
    (fieldName : String) : List String :=
  match source.valueMap with
  | none => []
  | some valueMap =>
    if fieldDef.logicalType ≠ .enum then
      [fieldName ++ ": value_map is only valid for ENUM ontology fields"]
    else
      let invalidTargets := valueMap.values.filter (· ∉ fieldDef.enumValues)
      if invalidTargets = [] then []
      else [fieldName ++ ": value_map targets " ++ reprStrList (sortedSet invalidTargets) ++
        " are not valid values for this enum (expected one of " ++
        reprStrList (sortedSet fieldDef.enumValues) ++ ")"]

/-- The texts about one field and its sources. -/
def fieldErrors (std : Stdlib) (ontologyEntity : OntologyEntityDefinition)
    (availableColumns : Option (List String)) (fieldName : String) (fieldMapping : FieldMapping) :
    List String :=
  match ontologyEntity.field? fieldName with
  | none => ["Unknown ontology field: " ++ reprStr fieldName]
  | some fieldDef => fieldMapping.sources.flatMap fun source =>
      validateSourceColumns std source availableColumns fieldName ++
      validateSourceUnit source fieldDef fieldName ++
      validateValueMap source fieldDef fieldName

/-- A field with a default is covered, so `has_fallback` never excuses an uncovered one. -/
def requiredErrors (ontologyEntity : OntologyEntityDefinition) (document : MappingDocument) :
    List String :=
  (ontologyEntity.fields.filter fun fieldDef =>
      let covered := fieldDef.name ∈ document.allFieldMappings.keys
      let hasFallback := covered ∧
        (document.allFieldMappings.get? fieldDef.name).any (·.default.isSome)
      fieldDef.required ∧ ¬covered ∧ ¬hasFallback).map fun fieldDef =>
    "Required ontology field " ++ reprStr fieldDef.name ++ " is not mapped"

/-- The texts about one join; an allowlist that is not given allows everything. -/
def joinErrors (ontologyEntity : OntologyEntityDefinition)
    (schemaAllowlist tableAllowlist : Option (List String)) (join : JoinDefinition) :
    List String :=
  (if join.relationship ∈ ontologyEntity.relationships.map (·.name) then [] else
    ["Join " ++ reprStr join.relationship ++ " does not match any relationship declared on " ++
      "entity " ++ reprStr ontologyEntity.name ++ " — joins are only permitted through approved " ++
      "relationships"]) ++
  (if schemaAllowlist.all (join.schemaName ∈ ·) then [] else
    ["Join schema " ++ reprStr join.schemaName ++ " is not on the connection's allowlist"]) ++
  (if tableAllowlist.all (join.table ∈ ·) then [] else
    ["Join table " ++ reprStr join.table ++ " is not on the connection's allowlist"])

def validationErrors (std : Stdlib) (document : MappingDocument)
    (ontologyEntity : OntologyEntityDefinition) (availableColumns : Option (List String))
    (schemaAllowlist tableAllowlist : Option (List String)) : List String :=
  (if document.entity = ontologyEntity.name then [] else
    ["Mapping targets entity " ++ reprStr document.entity ++ " but was validated against " ++
      reprStr ontologyEntity.name]) ++
  (document.allFieldMappings.rows.flatMap fun p =>
    fieldErrors std ontologyEntity availableColumns p.1 p.2) ++
  requiredErrors ontologyEntity document ++
  document.joins.flatMap (joinErrors ontologyEntity schemaAllowlist tableAllowlist)

def validateMappingDocument (std : Stdlib) (document : MappingDocument)
    (ontologyEntity : OntologyEntityDefinition) (availableColumns : Option (List String))
    (schemaAllowlist tableAllowlist : Option (List String)) : Except PyError Unit :=
  let errors := validationErrors std document ontologyEntity availableColumns schemaAllowlist
    tableAllowlist
  if errors = [] then .ok () else .error ⟨.MappingValidationError, "; ".intercalate errors⟩

section

variable {std : Stdlib} {document : MappingDocument} {ontologyEntity : OntologyEntityDefinition}
  {availableColumns schemaAllowlist tableAllowlist : Option (List String)}

theorem validateMappingDocument_ok :
    validateMappingDocument std document ontologyEntity availableColumns schemaAllowlist
      tableAllowlist = .ok () ↔
    validationErrors std document ontologyEntity availableColumns schemaAllowlist
      tableAllowlist = [] := by
  simp only [validateMappingDocument]
  split <;> rename_i h <;> simp [h]

/-- Every field of a valid document is known, and none of its sources has an error. -/
theorem fieldErrors_of_valid
    (h : validationErrors std document ontologyEntity availableColumns schemaAllowlist
      tableAllowlist = [])
    {fieldName : String} {fieldMapping : FieldMapping}
    (hf : document.allFieldMappings.get? fieldName = some fieldMapping) :
    ∃ fieldDef, ontologyEntity.field? fieldName = some fieldDef ∧
      ∀ source ∈ fieldMapping.sources,
        validateSourceColumns std source availableColumns fieldName = [] ∧
        validateSourceUnit source fieldDef fieldName = [] ∧
        validateValueMap source fieldDef fieldName = [] := by
  simp only [validationErrors, List.append_eq_nil_iff, List.flatMap_eq_nil_iff] at h
  have he := h.1.1.2 _ (Keyed.Dict.get?_eq_some.1 hf)
  unfold fieldErrors at he
  split at he
  · cases he
  · rename_i fieldDef hdef
    refine ⟨fieldDef, hdef, fun source hs => ?_⟩
    have := List.flatMap_eq_nil_iff.1 he source hs
    simpa only [List.append_eq_nil_iff, and_assoc] using this

/-- A valid document maps every required field. -/
theorem required_of_valid
    (h : validationErrors std document ontologyEntity availableColumns schemaAllowlist
      tableAllowlist = []) :
    ∀ fieldDef ∈ ontologyEntity.fields, fieldDef.required = true →
      fieldDef.name ∈ document.identity.keys ∨ fieldDef.name ∈ document.fields.keys := by
  intro fieldDef hmem hrequired
  simp only [validationErrors, List.append_eq_nil_iff] at h
  have herrors : requiredErrors ontologyEntity document = [] := h.1.2
  have hcovered : fieldDef.name ∈ document.allFieldMappings.keys := by
    by_contra hno
    have hlisted := List.map_eq_nil_iff.1 herrors
    rw [List.filter_eq_nil_iff] at hlisted
    exact hlisted fieldDef hmem (by simp [hrequired, hno])
  obtain ⟨v, hv⟩ := Keyed.Dict.mem_keys.1 hcovered
  rw [MappingDocument.allFieldMappings, Keyed.Dict.get?_merge, Option.or_eq_some_iff] at hv
  rcases hv with hv | ⟨-, hv⟩
  · exact .inr (Keyed.Dict.mem_keys.2 ⟨v, hv⟩)
  · exact .inl (Keyed.Dict.mem_keys.2 ⟨v, hv⟩)

/-- A source without column errors names only columns of the table, directly or in its derived
expression. -/
theorem columns_available {source : ValueSource} {available : List String} {fieldName : String}
    (h : validateSourceColumns std source (some available) fieldName = []) :
    (∀ c ∈ source.column, c ∈ available) ∧
      ∀ e ∈ source.derived, ∀ c ∈ referencedColumns e, c ∈ available := by
  unfold validateSourceColumns at h
  split at h
  · cases h
  · simp only [List.append_eq_nil_iff, List.map_eq_nil_iff, List.filter_eq_nil_iff,
      List.flatMap_eq_nil_iff, Option.mem_toList, decide_not, Bool.not_eq_eq_eq_not, Bool.not_true,
      decide_eq_false_iff_not, not_not] at h
    refine ⟨fun c hc => h.1 c hc, fun e he c hc => h.2 e he c ((std.mem_setOrder _ _).2 hc)⟩

end

end Mappings

end HermesRpt
