import HermesRpt.Extraction.Isolation

/-!
# HermesRpt.Extraction.Recorded

What an extraction records. Only its last step writes an event, so a caller that flushes the events
of an extraction writes nothing else to the trail.

* `Records`              : the process adds only events that satisfy `P`.
* `extract_records`      : the events of `extract` are `feature_extraction.extract`, of the caller.
* `buildExample_records` : `build_example` records nothing.
-/

namespace HermesRpt

namespace Extraction

open Effect Connectors Mappings Features Transformer

/-- Whatever is recorded satisfies `P`, also when the process raises. -/
abbrev Records (P : AuditEvent → Prop) {α : Type} (x : Features.Extraction α) : Prop :=
  Keeps (fun s => ∀ event ∈ s.audit, P event) (fun _ => True) x

/-- The event of `extract`. -/
def Extracts (ctx : TenantContext) (event : AuditEvent) : Prop :=
  event.action = "feature_extraction.extract" ∧ event.tenantId = some ctx.tenantId ∧
    event.principalId = some ctx.principalId

section

variable {env : Environment} {db : ControlPlane} {ctx : TenantContext} {P : AuditEvent → Prop}

/-- What a process that found an empty trail has recorded. -/
theorem Records.events {α : Type} {x : Features.Extraction α} {s s' : ExtractionState}
    {r : Except PyError α} (hx : Records P x) (h : x s = (r, s')) (hs : s.audit = []) :
    ∀ event ∈ s'.audit, P event := by
  have hkept := (hx s (by simp [hs])).1
  rwa [h] at hkept

theorem Records.emit (metric : Metric) : Records P (emit metric) := .modify (fun _ hs => hs) trivial

theorem Records.execute (engine : Engine) (select : Sql.Select Value) :
    Records P (execute env engine select) :=
  (Keeps.modify (T := fun _ => True) (fun _ hs => hs) trivial).andThen fun _ => .lifted _

theorem engineFor_records (connectionId : Uuid) :
    Records P (engineFor env db connectionId ctx) := by
  intro s hs
  refine ⟨?_, fun _ _ => trivial⟩
  unfold engineFor Process.update
  cases hengine : getOrCreateEngine env.secrets db s.pool connectionId ctx with
  | error e => simpa only [bind, Except.bind, hengine] using hs
  | ok p => simpa only [bind, Except.bind, hengine, pure, Except.pure] using hs

theorem fetchTargetRow_records (engine : Engine) (document : MappingDocument)
    (businessReference : String) (neededFields : List String)
    (connection : CustomerDatabaseConnection) :
    Records P
      (fetchTargetRow env engine document businessReference neededFields connection) := by
  refine (Keeps.lifted _).andThen fun _ => (Keeps.lifted _).andThen fun p => ?_
  refine (Keeps.lifted _).andThen fun columns => (Records.execute _ _).andThen fun rows => ?_
  exact .pure trivial

theorem fetchRelatedRecords_records (engine : Engine) (document : MappingDocument)
    (joinField : String) (joinValue : Value) (timestampField : Option String)
    (predictionTime : Option DateTime) (limit : Nat) (connection : CustomerDatabaseConnection) :
    Records P
      (fetchRelatedRecords env engine document joinField joinValue timestampField predictionTime
        limit connection) := by
  refine (Keeps.lifted _).andThen fun _ => (Keeps.lifted _).andThen fun joinColumn => ?_
  cases joinColumn with
  | none => exact .returned []
  | some joinColumn =>
    refine (Keeps.lifted _).andThen fun columns => (Keeps.lifted _).andThen fun timestampColumn => ?_
    refine (Keeps.lifted _).andThen fun datetimeFields => ?_
    exact (Records.execute _ _).andThen fun rows => .lifted _

theorem compileAndRunRelatedFeature_records (engine : Engine) (feature : FeatureSpec)
    (document : MappingDocument) (joinValue : Value) (predictionTime : DateTime)
    (connection : CustomerDatabaseConnection) :
    Records P
      (compileAndRunRelatedFeature env engine feature document joinValue predictionTime
        connection) := by
  refine (Keeps.lifted _).andThen fun _ => (Keeps.lifted _).andThen fun joinColumn => ?_
  cases joinColumn with
  | none => exact .returned none
  | some joinColumn =>
    refine (Keeps.lifted _).andThen fun timestampColumn => (Keeps.lifted _).andThen fun times => ?_
    cases hk : feature.kind with
    | RELATED_COUNT =>
      refine (Keeps.lifted _).andThen fun filter => ?_
      exact (Records.execute _ _).andThen fun rows => .returned _
    | RELATED_RATIO =>
      refine (Keeps.lifted _).andThen fun filterColumn => ?_
      dsimp only
      split
      · exact (Records.execute _ _).andThen fun rows => .returned _
      · exact .returned _
    | RELATED_RECENCY_DAYS =>
      cases timestampColumn with
      | none => exact .raise _
      | some timestampColumn => exact (Records.execute _ _).andThen fun rows => .lifted _
    | RELATED_LATEST_VALUE =>
      refine (Keeps.lifted _).andThen fun valueColumn => ?_
      cases valueColumn with
      | none => exact .returned _
      | some valueColumn => exact (Records.execute _ _).andThen fun rows => .returned _
    | DIRECT_FIELD => exact .raise _
    | DERIVED_FROM_TARGET => exact .raise _

theorem recordDisallowedQueryAttempt_records (e : PyError) :
    Records P (recordDisallowedQueryAttempt ctx e) := by
  unfold recordDisallowedQueryAttempt
  split
  · exact .emit _
  · exact .returned ()

theorem extractFeature_records (relatedCache : Keyed.Dict String (Option ResolvedMapping))
    (targetRow : FieldRow) (predictionTime : DateTime) (extracted : Extracted)
    (feature : FeatureSpec) :
    Records P
      (extractFeature env db ctx relatedCache targetRow predictionTime extracted feature) := by
  unfold extractFeature extractRelated
  split
  · exact .lifted _
  split
  · dsimp only
    split
    · split
      · exact .lifted _
      · refine (Keeps.lifted _).andThen fun p => (engineFor_records _).andThen fun engine => ?_
        refine Keeps.andThen ((compileAndRunRelatedFeature_records _ _ _ _ _ _).onRaise
          recordDisallowedQueryAttempt_records) fun raw => ?_
        exact (Keeps.lifted _).andThen fun raw => .lifted _
    · exact .lifted _
  · exact .raise _

theorem extract_records (contract : FeatureContract) (businessReference : String)
    (predictionTime : DateTime) :
    Records (Extracts ctx) (extract env db contract ctx businessReference predictionTime) := by
  refine (Keeps.lifted _).andThen fun target => (Keeps.lifted _).andThen fun p => ?_
  refine (engineFor_records _).andThen fun engine => ?_
  refine Keeps.andThen ((fetchTargetRow_records _ _ _ _ _).onRaise
    recordDisallowedQueryAttempt_records) fun row => ?_
  cases row with
  | none => exact .raise _
  | some targetRow =>
    refine (Keeps.lifted _).andThen fun relatedCache => ?_
    refine Keeps.andThen (.foldlM (fun extracted feature _ _ =>
      extractFeature_records relatedCache targetRow predictionTime extracted feature) trivial)
      fun extracted => ?_
    split
    · exact .raise _
    · refine (Keeps.modify (T := fun _ => True) (fun s hs event hevent => ?_) trivial).andThen
        fun _ => .returned _
      rcases List.mem_append.1 hevent with hold | hnew
      · exact hs event hold
      · rw [List.mem_singleton.1 hnew]
        exact ⟨rfl, rfl, rfl⟩

theorem engineForMapping_records (resolved : ResolvedMapping) :
    Records P (engineForMapping env db resolved ctx) :=
  (Keeps.lifted _).andThen fun _ => (engineFor_records _).andThen fun _ => .returned _

theorem addRelation_records (rawTarget : FieldRow) (predictionTime : DateTime)
    (maxRecordsPerRelation : Nat) (related : List RelationalRecord) (spec : RelationSpec) :
    Records P
      (addRelation env db ctx rawTarget predictionTime maxRecordsPerRelation related spec) := by
  unfold addRelation
  split
  · exact .returned _
  · refine (Keeps.lifted _).andThen fun resolved => ?_
    cases resolved with
    | none => exact .returned _
    | some resolved =>
      refine (engineForMapping_records resolved).andThen fun p => ?_
      exact (fetchRelatedRecords_records _ _ _ _ _ _ _ _).andThen fun rows => .returned _

theorem buildExample_records (businessReference : String) (predictionTime : DateTime)
    (label : Option Int) (maxRecordsPerRelation : Nat) :
    Records (fun _ => False)
      (buildExample env db ctx businessReference predictionTime label maxRecordsPerRelation) := by
  refine (Keeps.lifted _).andThen fun targetMapping => ?_
  refine (engineForMapping_records targetMapping).andThen fun p => ?_
  refine (Keeps.lifted _).andThen fun needed => ?_
  refine (fetchTargetRow_records _ _ _ _ _).andThen fun row => ?_
  cases row with
  | none => exact .raise _
  | some rawTarget =>
    refine Keeps.andThen (.foldlM (fun related spec _ _ =>
      addRelation_records rawTarget predictionTime maxRecordsPerRelation related spec) trivial)
      fun related => .returned _

end

end Extraction

end HermesRpt
