import HermesRpt.Common.Python
import HermesRpt.Lib.Table

/-!
# HermesRpt.Registry.Models

The rows of the model registry.

* `ModelVersion`       : a model; without a tenant it is shared, visible to every tenant.
* `TenantModelAdapter` : a tenant's adapter on a base model.
* `ModelAlias`         : a name for a pair of a model and perhaps an adapter; without a tenant it is
  shared.
-/

namespace HermesRpt

namespace Registry

inductive ModelStage where
  | CANDIDATE | STAGING | PRODUCTION | ARCHIVED
  deriving DecidableEq, Repr

def ModelStage.value : ModelStage → String
  | .CANDIDATE => "candidate"
  | .STAGING => "staging"
  | .PRODUCTION => "production"
  | .ARCHIVED => "archived"

structure ModelVersion where
  id : Uuid
  tenantId : Option Uuid
  name : String
  versionLabel : String
  taskDefinitionId : Uuid
  stage : ModelStage := .CANDIDATE
  artifactUri : String
  artifactChecksum : String
  ontologyVersion : String
  featureContractVersion : String
  isActive : Bool := true
  version : Nat := 1
  deriving DecidableEq

structure TenantModelAdapter where
  id : Uuid
  tenantId : Uuid
  baseModelVersionId : Uuid
  name : String
  versionLabel : String
  stage : ModelStage := .CANDIDATE
  artifactUri : String
  artifactChecksum : String
  ontologyVersion : String
  featureContractVersion : String
  isActive : Bool := true
  version : Nat := 1
  deriving DecidableEq

structure ModelAlias where
  id : Uuid
  tenantId : Option Uuid
  taskDefinitionId : Uuid
  aliasName : String
  modelVersionId : Uuid
  tenantModelAdapterId : Option Uuid
  version : Nat := 1
  deriving DecidableEq

instance : Keyed.HasKey ModelVersion Uuid := ⟨ModelVersion.id⟩
instance : Keyed.HasKey TenantModelAdapter Uuid := ⟨TenantModelAdapter.id⟩
instance : Keyed.HasKey ModelAlias Uuid := ⟨ModelAlias.id⟩

end Registry

end HermesRpt
