import HermesRpt.Common.Repository

/-!
# HermesRpt.Features.Resolver

The active, production-ready mapping document of an entity, per tenant. A missing mapping is an
error only for the target entity.
-/

namespace HermesRpt

namespace Features

open Mappings

/-- `get_active_by_entity_name`: `scalar_one_or_none` refuses a second row. -/
def getActiveByEntityName (db : ControlPlane) (entityName : String) (ctx : TenantContext) :
    Except PyError (Option SchemaMapping) :=
  match db.mappings.rows.filter fun m =>
      m.tenantId = ctx.tenantId ∧ m.entityName = entityName ∧ m.state = .ACTIVE with
  | [] => .ok none
  | [mapping] => .ok (some mapping)
  | _ => .error ⟨.MultipleResultsFound,
      "Multiple rows were found when one or none was required"⟩

structure ResolvedMapping where
  schemaMapping : SchemaMapping
  document : MappingDocument

/-- `MappingResolver.resolve` -/
def resolve (db : ControlPlane) (entityName : String) (ctx : TenantContext) :
    Except PyError (Option ResolvedMapping) := do
  match ← getActiveByEntityName db entityName ctx with
  | none => return none
  | some mapping =>
    match mapping.activeVersionId, mapping.suspendedDueToDrift with
    | some activeVersionId, false =>
      match (get db activeVersionId ctx : Option MappingVersion) with
      | none => return none
      | some version => return some ⟨mapping, version.mappingDocument⟩
    | _, _ => return none

def targetMappingUnavailable (entityName : String) : PyError :=
  ⟨.TargetMappingUnavailableError,
    "No active production mapping for target entity " ++ reprStr entityName⟩

/-- `MappingResolver.resolve_target` -/
def resolveTarget (db : ControlPlane) (entityName : String) (ctx : TenantContext) :
    Except PyError ResolvedMapping := do
  match ← resolve db entityName ctx with
  | some resolved => return resolved
  | none => .error (targetMappingUnavailable entityName)

/-- The mapping that is found is the only active one of its entity. -/
theorem getActiveByEntityName_some {db : ControlPlane} {entityName : String} {ctx : TenantContext}
    {mapping : SchemaMapping} (h : getActiveByEntityName db entityName ctx = .ok (some mapping)) :
    ∀ m, m ∈ db.mappings ∧ m.tenantId = ctx.tenantId ∧ m.entityName = entityName ∧
      m.state = .ACTIVE ↔ m = mapping := by
  intro m
  have hfilter : m ∈ db.mappings.rows.filter (fun m =>
      m.tenantId = ctx.tenantId ∧ m.entityName = entityName ∧ m.state = .ACTIVE) ↔ m = mapping := by
    unfold getActiveByEntityName at h
    split at h
    · cases h
    · rename_i hl
      cases h
      rw [hl, List.mem_singleton]
    · cases h
  rw [← hfilter, List.mem_filter, decide_eq_true_eq]
  rfl

/-- A resolved mapping is the tenant's only active one of the entity, it is not suspended, and the
document is its active version's. -/
theorem resolve_some {db : ControlPlane} {entityName : String} {ctx : TenantContext}
    {resolved : ResolvedMapping} (h : resolve db entityName ctx = .ok (some resolved)) :
    ∃ version,
      (∀ m, m ∈ db.mappings ∧ m.tenantId = ctx.tenantId ∧ m.entityName = entityName ∧
        m.state = .ACTIVE ↔ m = resolved.schemaMapping) ∧
      resolved.schemaMapping.suspendedDueToDrift = false ∧
      resolved.schemaMapping.activeVersionId = some version.id ∧
      db.versions.find? version.id = some version ∧ version.tenantId = ctx.tenantId ∧
      resolved.document = version.mappingDocument := by
  unfold resolve at h
  cases hg : getActiveByEntityName db entityName ctx with
  | error e => rw [hg] at h; cases h
  | ok found =>
    rw [hg] at h
    cases found with
    | none => cases h
    | some mapping =>
      simp only [bind, Except.bind] at h
      split at h
      · rename_i a ha hs
        split at h
        · cases h
        · rename_i version hv
          cases h
          obtain ⟨hf, ht⟩ := get_eq_some.1 hv
          have hid : version.id = a := (Keyed.Table.find?_eq_some.1 hf).2
          exact ⟨version, getActiveByEntityName_some hg, hs, hid ▸ ha, hid ▸ hf, ht, rfl⟩
      · cases h

theorem resolveTarget_ok {db : ControlPlane} {entityName : String} {ctx : TenantContext}
    {resolved : ResolvedMapping} (h : resolveTarget db entityName ctx = .ok resolved) :
    resolve db entityName ctx = .ok (some resolved) := by
  unfold resolveTarget at h
  cases hr : resolve db entityName ctx with
  | error e => rw [hr] at h; cases h
  | ok found =>
    rw [hr] at h
    cases found with
    | none => cases h
    | some found => cases h; rfl

end Features

end HermesRpt
