import HermesRpt.Lib.Table
import HermesRpt.Mappings.Document

/-!
# HermesRpt.Mappings.Models

The rows of `schema_mappings` and `mapping_versions`.

* `SchemaMapping`  : the stable identity of one entity's mapping; `version` is the row's version
  counter (`version_id_col`).
* `MappingVersion` : one version of the mapping document, with its number.
-/

namespace HermesRpt

namespace Mappings

/-- Lifecycle states. -/
inductive MappingState where
  | DRAFT | PENDING_VALIDATION | APPROVED | ACTIVE | DEPRECATED | REJECTED
  deriving DecidableEq, Repr

def MappingState.value : MappingState → String
  | .DRAFT => "draft"
  | .PENDING_VALIDATION => "pending_validation"
  | .APPROVED => "approved"
  | .ACTIVE => "active"
  | .DEPRECATED => "deprecated"
  | .REJECTED => "rejected"

structure SchemaMapping where
  id : Uuid
  tenantId : Uuid
  entityName : String
  schemaSnapshotId : Uuid
  ontologyVersion : String
  state : MappingState := .DRAFT
  activeVersionId : Option Uuid := none
  suspendedDueToDrift : Bool := false
  version : Nat := 1
  deriving DecidableEq

structure MappingVersion where
  id : Uuid
  tenantId : Uuid
  schemaMappingId : Uuid
  versionNumber : Nat
  mappingDocument : MappingDocument
  isAiSuggested : Bool := false
  confidence : Option ℚ := none
  explanation : Option String := none
  createdByUserId : Option Uuid := none
  approvedByUserId : Option Uuid := none

instance : Keyed.HasKey SchemaMapping Uuid := ⟨SchemaMapping.id⟩
instance : Keyed.HasKey MappingVersion Uuid := ⟨MappingVersion.id⟩

end Mappings

end HermesRpt
