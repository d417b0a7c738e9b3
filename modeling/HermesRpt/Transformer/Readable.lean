import HermesRpt.Extraction.Degradation
import HermesRpt.Extraction.PlanAgreement
import HermesRpt.Extraction.Cutoff
import HermesRpt.Transformer.Relations

/-!
# HermesRpt.Transformer.Readable

Which mappings `build_example` can read. `fetch_related_records` resolves every field of a document,
so one constant or derived field among them stops the example, also one that no slot holds.

* `ContextReadable`  : the encoded fields of a trip, and every field of a related document that is
  asked, have a column or are not mapped.
* `context_readable` : then nothing about the mapping of a field is raised.
-/

namespace HermesRpt

namespace Transformer

open Effect Connectors Mappings Features Extraction
open Keyed (Dict)

/-- No field that an example is read by is static or derived. A related document whose join field is
not mapped is not asked. -/
structure ContextReadable (db : ControlPlane) (ctx : TenantContext) : Prop where
  identity : ∀ trip, Features.resolveTarget db "Trip" ctx = .ok trip → HasIdentity trip.document
  target : ∀ trip, Features.resolveTarget db "Trip" ctx = .ok trip →
    ∀ f ∈ tripFields, Readable trip.document f
  related : ∀ spec ∈ relationSpecs, ∀ related, resolve db spec.entity ctx = .ok (some related) →
    related.document.allFieldMappings.get? spec.joinField = none ∨
      ∀ f ∈ related.document.allFieldMappings.keys, Readable related.document f

section

variable {env : Environment} {db : ControlPlane} {ctx : TenantContext} {pool : PoolRegistry}

theorem datetimeFieldNames_noFieldError (document : MappingDocument) :
    NoFieldError (datetimeFieldNames document) := by
  unfold datetimeFieldNames
  simp only [Ontology.getOntology, Ontology.defaultOntologyVersion, if_true, except_ok_bind]
  refine RaisesOnly.bind ?_ fun entity _ => .ok _
  unfold Ontology.OntologyDefinition.getEntity
  split
  · exact .ok _
  · exact .error (by simp [FieldError])

theorem coerceRowDatetimes_noFieldError (std : Stdlib) (row : FieldRow)
    (datetimeFields : List String) :
    NoFieldError (coerceRowDatetimes std row datetimeFields) := by
  rw [coerceRowDatetimes_eq]
  refine RaisesOnly.foldlM (fun row f _ => ?_) row
  unfold coerceField
  cases row.get? f with
  | none => exact .ok row
  | some value =>
    refine RaisesOnly.bind ?_ fun v _ => .ok _
    unfold coerceValue
    split
    · refine RaisesOnly.bind ?_ fun t _ => .ok _
      unfold parseDatetime
      split
      · exact .ok _
      · exact .error (by simp [FieldError])
    · exact .ok _

/-- The records of a related document whose fields are readable. -/
theorem relatedRecords_noFieldError (hserver : ServerErrors env) (engine : Engine)
    {document : MappingDocument} {spec : RelationSpec}
    (h : document.allFieldMappings.get? spec.joinField = none ∨
      ∀ f ∈ document.allFieldMappings.keys, Readable document f)
    (joinValue : Value) (predictionTime : DateTime) (k : Nat)
    (connection : CustomerDatabaseConnection) :
    NoFieldError (relatedRecordsPlan env.std document spec.joinField joinValue spec.timestampField
      (some predictionTime) k connection >>= Plan.result (env.world engine)) := by
  unfold relatedRecordsPlan
  rw [bind_assoc]
  refine (checkAllowlisted_noFieldError document connection).bind fun _ _ => ?_
  rcases h with hunmapped | hkeys
  · rw [resolveColumn_unmapped.2 hunmapped]
    exact .ok []
  · have hread := readable_of_keys hkeys
    obtain ⟨columns, hcolumns⟩ := addColumns_of_readable Keyed.Table.empty hkeys
    have htime : timestampColumn document spec.timestampField = .ok _ :=
      timestampColumn_iff.2 ⟨fun f _ => hread f, rfl⟩
    rw [resolveColumn_readable.1 (hread spec.joinField)]
    cases columnOf document spec.joinField with
    | none => exact .ok []
    | some joinColumn =>
      simp only [hcolumns, htime, except_ok_bind, bind_assoc]
      refine (datetimeFieldNames_noFieldError document).bind fun dates _ => ?_
      rw [pure_bind]
      refine ask_noFieldError hserver engine _ fun _ rows => ?_
      exact RaisesOnly.mapM fun row _ => coerceRowDatetimes_noFieldError env.std _ dates

theorem engineOf_noFieldError (resolved : ResolvedMapping) :
    NoFieldError (engineOf env db ctx pool resolved) :=
  (connectionAndSnapshotFor_noFieldError resolved).bind fun _ _ =>
    (routeOf_noFieldError _).bind fun _ _ => .ok _

theorem relatedOf_noFieldError (hserver : ServerErrors env) (hfields : ContextReadable db ctx)
    {spec : RelationSpec} (hspec : spec ∈ relationSpecs) (rawTarget : FieldRow)
    (predictionTime : DateTime) (k : Nat) :
    NoFieldError (relatedOf env db ctx pool rawTarget predictionTime k spec) := by
  unfold relatedOf
  cases rawTarget.value spec.fromTargetField with
  | none => exact .ok []
  | some joinValue =>
    refine (resolve_noFieldError spec.entity).bind fun found hfound => ?_
    cases found with
    | none => exact .ok []
    | some related =>
      refine (engineOf_noFieldError related).bind fun q _ => ?_
      obtain ⟨engine, connection⟩ := q
      exact relatedRecords_noFieldError hserver engine (hfields.related spec hspec related hfound)
        _ _ _ _

theorem exampleOf_noFieldError (hserver : ServerErrors env) (hfields : ContextReadable db ctx)
    (businessReference : String) (predictionTime : DateTime) (label : Option Int) (k : Nat) :
    NoFieldError (exampleOf env db ctx pool businessReference predictionTime label k) := by
  unfold exampleOf
  rw [neededFields_eq]
  refine (resolveTarget_noFieldError "Trip").bind fun trip htrip => ?_
  refine (engineOf_noFieldError trip).bind fun q _ => ?_
  obtain ⟨engine, connection⟩ := q
  simp only [except_ok_bind]
  refine (targetRow_noFieldError hserver engine connection businessReference (hfields.identity trip htrip)
    (hfields.target trip htrip)).bind fun row _ => ?_
  cases row with
  | none => exact .error (by simp [FieldError, targetRecordNotFound])
  | some rawTarget =>
    refine RaisesOnly.bind (RaisesOnly.foldlM (fun related spec hspec => ?_) []) fun _ _ => .ok _
    exact (relatedOf_noFieldError hserver hfields hspec rawTarget predictionTime k).bind
      fun _ _ => .ok _

end

namespace Sample

open Extraction.Sample (active version trips tripRow servedTrips planned serving oneTable
  events resolveTarget_servedTrips resolve_servedTrips)
open HermesRpt.Sample (ctx)

theorem serverErrors_planned : ServerErrors planned := by
  intro engine schemaName table relation select e hr he
  obtain ⟨-, rfl⟩ : (schemaName = "fleet" ∧ table = "vehicles") ∧ _ := by
    simpa [planned, serving, Extraction.Sample.tripTable, oneTable] using hr
  cases he

theorem readable_trips : ∀ f, Readable trips f := by
  have hall : ∀ f ∈ trips.allFieldMappings.keys, (columnOf trips f).isSome = true := by decide
  exact readable_of_keys fun f hf => .inr (hall f hf)

theorem contextReadable_trips : ContextReadable servedTrips ctx where
  identity trip h := by
    obtain rfl := Except.ok.inj (resolveTarget_servedTrips.symm.trans h)
    exact ⟨"trip_id", rfl, rfl⟩
  target trip h f _ := by
    obtain rfl := Except.ok.inj (resolveTarget_servedTrips.symm.trans h)
    exact readable_trips f
  related spec _ related h := by
    obtain ⟨-, rfl⟩ := resolve_servedTrips h
    exact .inr fun f _ => readable_trips f

theorem constant_is_one_kind (v : Value) : (none : Option String).isSome.toNat +
    (some v : ScalarValue).isSome.toNat + (none : Option Expression).isSome.toNat = 1 := rfl

theorem no_column : (none : Option String).all isIdentifier = true := rfl

theorem no_conversion : (truthy none || truthy none ||
    (none : Option (Dict String String)).any (!·.rows.isEmpty)) = true →
      (none : Option String).isSome = true := by
  simp [truthy]

/-- `ValueSource(static=v)` -/
def constant (v : Value) : ValueSource where
  static := some v
  one_kind := constant_is_one_kind v
  column_identifier := no_column
  column_only := no_conversion

def constantOrder : FieldMapping := { sources := [constant (.str "WO-STATIC")] }

/-- Maintenance events that have their work order by a constant. -/
def orderedEvents : MappingDocument :=
  { events with
    fields := ⟨events.fields.rows ++ [("work_order_id", constantOrder)], by decide⟩ }

def servedOrdered : ControlPlane :=
  { servedTrips with
    mappings := ⟨[active 30 1 "Trip", { active 31 1 "MaintenanceEvent" with
      activeVersionId := some 41 }], by decide⟩
    versions := ⟨[version trips, { version orderedEvents with id := 41, schemaMappingId := 31 }],
      by decide⟩ }

/-- The trip that departs at 2000 with its vehicle. -/
def withVehicle : Environment :=
  serving (oneTable "vehicles" [fun column =>
    if column = "vehicle_no" then some (.str "v1")
    else tripRow "t1" ⟨2000, 0⟩ "planned" none column])

end Sample

end Transformer

end HermesRpt
