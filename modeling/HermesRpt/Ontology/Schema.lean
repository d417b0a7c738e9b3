import HermesRpt.Common.Python
import HermesRpt.Ontology.Units

/-!
# HermesRpt.Ontology.Schema

Meta-schema for ontology definitions. A definition carries its own validators: a field whose unit,
enum values and type do not fit together, an entity with two fields of one name, or an ontology
with a dangling relationship cannot be built.
-/

namespace HermesRpt

namespace Ontology

/-- The base shape a field takes, independent of unit. -/
inductive LogicalType where
  | string | integer | float | boolean | date | datetime | enum | money
  deriving DecidableEq, Repr

inductive RelationshipCardinality where
  | oneToOne | oneToMany | manyToOne | manyToMany
  deriving DecidableEq, Repr

structure OntologyFieldDefinition where
  name : String
  logicalType : LogicalType
  unit : Option CanonicalUnit := none
  enumValues : List String := []
  required : Bool := false
  isBusinessIdentifier : Bool := false
  /-- `_validate_type_specific_constraints` -/
  enum_values : logicalType = .enum ↔ enumValues ≠ [] := by decide
  unit_float : unit ≠ none → logicalType = .float := by decide
  identifier_string : isBusinessIdentifier = true → logicalType = .string := by decide

structure OntologyRelationshipDefinition where
  name : String
  targetEntity : String
  cardinality : RelationshipCardinality
  required : Bool := false

structure OntologyEntityDefinition where
  name : String
  domain : String
  fields : List OntologyFieldDefinition := []
  relationships : List OntologyRelationshipDefinition := []
  /-- `_validate_unique_field_names` -/
  unique_names : (fields.map (·.name)).Nodup := by decide

structure OntologyDefinition where
  version : String
  entities : List OntologyEntityDefinition
  /-- `_validate_unique_entity_names_and_relationship_targets` -/
  unique_names : (entities.map (·.name)).Nodup := by decide
  targets_known : ∀ e ∈ entities, ∀ r ∈ e.relationships, r.targetEntity ∈ entities.map (·.name) := by
    decide

/-- The lookup `{f.name: f for f in entity.fields}.get(name)`. -/
def OntologyEntityDefinition.field? (entity : OntologyEntityDefinition) (name : String) :
    Option OntologyFieldDefinition := entity.fields.find? (·.name = name)

def OntologyDefinition.getEntity (ontology : OntologyDefinition) (name : String) :
    Except PyError OntologyEntityDefinition :=
  match ontology.entities.find? (·.name = name) with
  | some entity => .ok entity
  | none => .error ⟨.KeyError, reprStr ("Unknown ontology entity: " ++ reprStr name)⟩

end Ontology

end HermesRpt
