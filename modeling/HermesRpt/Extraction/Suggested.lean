import HermesRpt.Extraction.Queries
import HermesRpt.Mappings.Suggest
import HermesRpt.System

/-!
# HermesRpt.Extraction.Suggested

Whether a suggested document that passes validation can be a target mapping. The suggestion makes
every business identifier that gets a column an identity field, also one that refers to another
entity, and the query compiler takes exactly one identity field.

* `ServesTarget`          : `identity_field_name` and `fetch_target_row` accept the document.
* `SoleIdentifier`        : one required identifier, and no column for an optional one.
* `suggestion_serves_iff` : a validated suggestion serves exactly then.
-/

namespace HermesRpt

namespace Extraction

open Effect Connectors Mappings Ontology Schemas Features
open Keyed (Dict)

/-- `identity_field_name` gives a field, and `fetch_target_row` sends its statement when the
connection allows the table. -/
structure ServesTarget (std : Stdlib) (document : MappingDocument) : Prop where
  identity : ∃ fieldName, identityFieldName document = .ok fieldName
  row : ∀ businessReference neededFields connection, Allowlisted document connection →
    ∃ select answer, targetRowPlan std document businessReference neededFields connection =
      .ok (.ask select answer)

/-- The entity requires one business identifier, and the stable assignment of columns to fields,
strongest pairs first, gives no column to an optional one. -/
structure SoleIdentifier (std : Stdlib) (doubles : Doubles)
    (ontologyEntity : OntologyEntityDefinition) (table : TableMetadata)
    (profile : Option TableProfileSummary) : Prop where
  one_required : ∃ field, ∀ f, (f ∈ ontologyEntity.fields ∧ f.isBusinessIdentifier = true ∧
    f.required = true) ↔ f = field
  no_optional : ∃ chosen,
    Greedy.Stable Competes (candidates std doubles ontologyEntity table profile) chosen ∧
      ∀ i ∈ chosen, ∀ p, (candidates std doubles ontologyEntity table profile)[i]? = some p →
        p.1.isBusinessIdentifier = true → p.1.required = true

section

variable {std : Stdlib} {doubles : Doubles} {document : MappingDocument}
  {ontologyEntity : OntologyEntityDefinition} {table : TableMetadata}
  {profile : Option TableProfileSummary} {claims : Claims} {taken : List Pair}

/-- A document without constants serves when it has its one identity field. -/
theorem servesTarget_iff (hread : ∀ f, Readable document f) :
    ServesTarget std document ↔ HasIdentity document := by
  constructor
  · intro h
    obtain ⟨fieldName, hname⟩ := h.identity
    obtain ⟨p, hp, -⟩ := except_bind_ok.1 hname
    exact identityColumn_iff.2 ⟨p, hp⟩
  · intro h
    obtain ⟨⟨identityField, identityColumn⟩, hp⟩ := identityColumn_iff.1 h
    refine ⟨⟨identityField, by rw [identityFieldName, hp]; rfl⟩, ?_⟩
    intro businessReference neededFields connection hallowed
    obtain ⟨columns, hcolumns⟩ := addColumns_of_readable
      (Dict.ofList [(identityField, identityColumn)])
      (fun f (_ : f ∈ std.setOrder neededFields) => hread f)
    simp only [targetRowPlan, checkAllowlisted_ok.2 hallowed, hp, hcolumns, except_ok_bind]
    exact ⟨_, _, rfl⟩

/-- Any other number of identity fields is refused. -/
theorem identityFieldName_error (h : document.identity.keys.length ≠ 1) :
    identityFieldName document = .error ⟨.ColumnNotDirectlyMappedError,
      "Expected exactly one identity field, found " ++ reprStrList document.identity.keys⟩ := by
  rw [identityFieldName, identityColumn]
  split
  · rename_i fieldName hkeys
    exact absurd (by rw [hkeys]; rfl) h
  · rfl

/-- What is claimed is read from a column. -/
theorem mapped_of_holds (h : Holds claims taken) (hidentity : document.identity = claims.identity)
    (hfields : document.fields = claims.fields) {fieldName : String}
    (hmem : fieldName ∈ document.allFieldMappings.keys) : Mapped document fieldName := by
  obtain ⟨mapping, hget⟩ := Dict.mem_keys.1 hmem
  rw [Mapped, columnOf, hget]
  rw [MappingDocument.allFieldMappings, Dict.get?_merge, hidentity, hfields,
    Option.or_eq_some_iff] at hget
  rcases hget with hget | ⟨-, hget⟩
  · exact h.plain _ _ (.inr hget)
  · exact h.plain _ _ (.inl hget)

/-- An identity with one key is that one identity field. -/
theorem hasIdentity_of_holds (h : Holds claims taken)
    (hidentity : document.identity = claims.identity) (hfields : document.fields = claims.fields)
    {fieldName : String} (hkeys : ∀ name, name ∈ document.identity.keys ↔ name = fieldName) :
    HasIdentity document := by
  have hnodup : document.identity.keys.Nodup := document.identity.nodup_keys
  have hone : document.identity.keys = [fieldName] :=
    List.perm_singleton.1 ((List.perm_ext_iff_of_nodup hnodup (List.nodup_singleton _)).2
      fun name => by rw [hkeys, List.mem_singleton])
  refine ⟨fieldName, hone, mapped_of_holds h hidentity hfields ?_⟩
  obtain ⟨mapping, hget⟩ := Dict.mem_keys.1 ((hkeys fieldName).2 rfl)
  rw [Dict.mem_keys, MappingDocument.allFieldMappings]
  simp only [Dict.get?_merge, hget]
  cases document.fields.get? fieldName with
  | none => exact ⟨mapping, rfl⟩
  | some other => exact ⟨other, rfl⟩

/-- A field of an entity is known by its name. -/
theorem field_eq_of_name {f g : OntologyFieldDefinition} (hf : f ∈ ontologyEntity.fields)
    (hg : g ∈ ontologyEntity.fields) (h : f.name = g.name) : f = g :=
  List.inj_on_of_nodup_map ontologyEntity.unique_names hf hg h

/-- Every entity requires a business identifier: its own. -/
theorem identifier_required : ∀ entity ∈ V1.ontology.entities,
    ∃ f ∈ entity.fields, f.isBusinessIdentifier = true ∧ f.required = true := by
  decide

/-- A required identifier is in the identity of a valid suggestion. -/
theorem identity_keys (h : Holds claims taken) (hfields : document.fields = claims.fields)
    (htaken : ∀ p ∈ taken, p.1 ∈ ontologyEntity.fields)
    (hrequired : ∀ f ∈ ontologyEntity.fields, f.required = true →
      f.name ∈ document.identity.keys ∨ f.name ∈ document.fields.keys)
    {f : OntologyFieldDefinition} (hf : f ∈ ontologyEntity.fields)
    (hidentifier : f.isBusinessIdentifier = true) (hrequires : f.required = true) :
    f.name ∈ document.identity.keys := by
  rcases hrequired f hf hrequires with hkey | hkey
  · exact hkey
  · rw [hfields, h.fields] at hkey
    obtain ⟨p, hp, hother, hname⟩ := hkey
    obtain rfl := field_eq_of_name (htaken p hp) hf hname
    rw [hother] at hidentifier
    cases hidentifier

end

/-- A suggestion that passes validation serves as a target mapping exactly when its entity requires
one business identifier and no optional one is assigned a column. -/
theorem suggestion_serves_iff (std : Stdlib) (doubles : Doubles)
    (ontologyEntity : OntologyEntityDefinition) (table : TableMetadata)
    (profile : Option TableProfileSummary)
    (availableColumns schemaAllowlist tableAllowlist : Option (List String))
    (result : SuggestionResult) (hentity : ontologyEntity ∈ V1.ontology.entities)
    (h : suggestMapping std doubles ontologyEntity table profile = .ok result)
    (hvalid : validateMappingDocument std result.document ontologyEntity availableColumns
      schemaAllowlist tableAllowlist = .ok ()) :
    ServesTarget std result.document ↔
      SoleIdentifier std doubles ontologyEntity table profile := by
  obtain ⟨claims, hholds, hidentity, hfields⟩ := suggestMapping_ok h
  have htaken : ∀ p ∈ Greedy.choose Competes []
      (candidates std doubles ontologyEntity table profile), p.1 ∈ ontologyEntity.fields := by
    intro p hp
    rcases Greedy.mem_of_mem_choose hp with hp | hp
    · cases hp
    · exact mem_candidates hp
  have hrequired := required_of_valid (validateMappingDocument_ok.1 hvalid)
  have hkeys : ∀ f ∈ ontologyEntity.fields, f.isBusinessIdentifier = true → f.required = true →
      f.name ∈ result.document.identity.keys := fun f hf hidentifier hrequires =>
    identity_keys hholds hfields htaken hrequired hf hidentifier hrequires
  have hread : ∀ f, Readable result.document f :=
    readable_of_keys fun f hf => .inr (mapped_of_holds hholds hidentity hfields hf)
  rw [servesTarget_iff hread]
  constructor
  · rintro ⟨name, hname, -⟩
    obtain ⟨field, hfield, hidentifier, hrequires⟩ := identifier_required _ hentity
    -- every identifier that is claimed has the name of the one identity field
    have hsole : ∀ f ∈ ontologyEntity.fields, f.name ∈ result.document.identity.keys →
        f = field := by
      intro f hf hkey
      have hown := hkeys field hfield hidentifier hrequires
      rw [hname, List.mem_singleton] at hkey hown
      exact field_eq_of_name hf hfield (hkey.trans hown.symm)
    obtain ⟨chosen, hstable⟩ : ∃ chosen, Greedy.Stable Competes
        (candidates std doubles ontologyEntity table profile) chosen := Greedy.exists_stable _
    refine ⟨⟨field, fun f => ⟨fun hf => ?_, ?_⟩⟩, chosen, hstable, fun i hi p hp hkind => ?_⟩
    · exact hsole f hf.1 (hkeys f hf.1 hf.2.1 hf.2.2)
    · rintro rfl
      exact ⟨hfield, hidentifier, hrequires⟩
    · have hclaimed := (Greedy.mem_choose hstable).2 ⟨i, hi, hp⟩
      have hkey : p.1.name ∈ result.document.identity.keys := by
        rw [hidentity, hholds.identity]
        exact ⟨p, hclaimed, hkind, rfl⟩
      rw [hsole p.1 (htaken p hclaimed) hkey]
      exact hrequires
  · rintro ⟨⟨field, hone⟩, chosen, hstable, hoptional⟩
    obtain ⟨hfield, hidentifier, hrequires⟩ := (hone field).2 rfl
    have hsole : ∀ name, name ∈ result.document.identity.keys ↔ name = field.name := by
      intro name
      constructor
      · intro hname
        rw [hidentity, hholds.identity] at hname
        obtain ⟨p, hp, hkind, rfl⟩ := hname
        obtain ⟨i, hi, hget⟩ := (Greedy.mem_choose hstable).1 hp
        rw [(hone p.1).1 ⟨htaken p hp, hkind, hoptional i hi p hget hkind⟩]
      · rintro rfl
        exact hkeys field hfield hidentifier hrequires
    exact hasIdentity_of_holds hholds hidentity hfields hsole

/-- The entities of which a suggestion can serve. -/
example : (V1.ontology.entities.filter fun e =>
      (e.fields.filter fun f => f.isBusinessIdentifier && f.required).length = 1).map (·.name) =
    ["Vehicle", "VehicleType", "Driver", "Operator", "Shift", "SafetyEvent", "Route", "Order",
      "Customer", "SparePart", "Tyre"] := by decide

namespace Sample

/-- The double nearest to a number, halfway to the even one. -/
def nearest (x : ℚ) : ℚ :=
  let scaled (e : Int) : Nat × Nat :=
    (x.num.natAbs * 2 ^ (-e).toNat, x.den * 2 ^ e.toNat)
  let least : Int := (Nat.log2 x.num.natAbs : Int) - Nat.log2 x.den - 53
  let e := if (scaled least).1 / (scaled least).2 < 2 ^ 53 then least else least + 1
  let quotient := (scaled e).1 / (scaled e).2
  let rest := 2 * ((scaled e).1 % (scaled e).2)
  let up := (scaled e).2 < rest ∨ (scaled e).2 = rest ∧ quotient % 2 = 1
  let magnitude : ℚ := (if up then quotient + 1 else quotient : Nat) * (2 : ℚ) ^ e
  if x < 0 then -magnitude else magnitude

def doubles : Doubles where
  round := nearest
  sum l := nearest l.sum
  fixed2 x :=
    let hundredths := (100 * x + 1 / 2).floor.toNat
    toString (hundredths / 100) ++ "." ++ (if hundredths % 100 < 10 then "0" else "") ++
      toString (hundredths % 100)

def typed (name sqlType : String) : ColumnMetadata :=
  { name, sqlType, isNullable := false, ordinalPosition := 1 }

def orderColumns : TableMetadata where
  schemaName := "fleet"
  name := "customer_order"
  kind := "table"
  columns := [typed "order_id" "integer", typed "placed_at" "timestamp with time zone"]
  primaryKeyColumns := ["order_id"]

/-- A table that has the required fields of a trip under their own names. -/
def tripColumns : TableMetadata where
  schemaName := "fleet"
  name := "trip"
  kind := "table"
  columns := [typed "trip_id" "integer", typed "vehicle_id" "integer",
    typed "planned_departure_at" "timestamp with time zone", typed "status" "text"]
  primaryKeyColumns := ["trip_id"]

end Sample

theorem suggestion_serves_iff_sample : ∃ result,
    suggestMapping HermesRpt.Sample.std Sample.doubles V1.order Sample.orderColumns none =
      .ok result ∧
    (ServesTarget HermesRpt.Sample.std result.document ↔
      SoleIdentifier HermesRpt.Sample.std Sample.doubles V1.order Sample.orderColumns none) := by
  have hrun : (suggestMapping HermesRpt.Sample.std Sample.doubles V1.order Sample.orderColumns
      none >>= fun result => validateMappingDocument HermesRpt.Sample.std result.document V1.order
        (some ["order_id", "placed_at"]) none none) = .ok () := by
    decide +kernel
  obtain ⟨result, hresult, hvalid⟩ := except_bind_ok.1 hrun
  exact ⟨result, hresult, suggestion_serves_iff HermesRpt.Sample.std Sample.doubles V1.order
    Sample.orderColumns none _ none none result (by simp [V1.ontology]) hresult hvalid⟩

/-- The suggestion for a table of trips is valid, and has the vehicle for a second identity
field. -/
theorem trip_suggestion_refused : ∃ result,
    suggestMapping HermesRpt.Sample.std Sample.doubles V1.trip Sample.tripColumns none =
      .ok result ∧
    validateMappingDocument HermesRpt.Sample.std result.document V1.trip
      (some ["trip_id", "vehicle_id", "planned_departure_at", "status"]) none none = .ok () ∧
    identityFieldName result.document = .error ⟨.ColumnNotDirectlyMappedError,
      "Expected exactly one identity field, found ['trip_id', 'vehicle_id']"⟩ ∧
    ¬ServesTarget HermesRpt.Sample.std result.document := by
  have hrun : (suggestMapping HermesRpt.Sample.std Sample.doubles V1.trip Sample.tripColumns none >>=
      fun result => validateMappingDocument HermesRpt.Sample.std result.document V1.trip
        (some ["trip_id", "vehicle_id", "planned_departure_at", "status"]) none none >>=
      fun _ => .ok result.document.identity.keys) = .ok ["trip_id", "vehicle_id"] := by
    decide +kernel
  obtain ⟨result, hresult, hrest⟩ := except_bind_ok.1 hrun
  obtain ⟨⟨⟩, hvalid, hkeys⟩ := except_bind_ok.1 hrest
  have hidentity : identityFieldName result.document = .error ⟨.ColumnNotDirectlyMappedError,
      "Expected exactly one identity field, found ['trip_id', 'vehicle_id']"⟩ := by
    have hkeys := Except.ok.inj hkeys
    rw [identityFieldName_error (by simp [hkeys]), hkeys]
    decide +kernel
  refine ⟨result, hresult, hvalid, hidentity, fun hserves => ?_⟩
  obtain ⟨fieldName, hname⟩ := hserves.identity
  rw [hidentity] at hname
  cases hname

end Extraction

end HermesRpt
