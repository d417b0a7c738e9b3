import HermesRpt.Datasets.Definition
import HermesRpt.Extraction.Agreement
import HermesRpt.Extraction.FieldErrors
import HermesRpt.Extraction.Isolation
import HermesRpt.Extraction.Outcome

/-!
# HermesRpt.Extraction.OwnLabel

The label of a dataset row, the trip's status and its arrival, is not in the row's own features:
the features are extracted at the trip's planned departure, and the histories of its driver and its
route, which read the status of trips, read only trips that depart before.

* `SameTrip`         : a trip in two states that differ in its status and its arrival.
* `DifferInLabel`    : two states of the customer databases that differ only in such trips.
* `own_label_unseen` : the extraction is the same in both.
-/

namespace HermesRpt

namespace Extraction

open Effect Connectors Mappings Features Datasets
open Keyed (Dict)

/-- What the label of a trip is computed from, besides what is planned. -/
def labelFields : List String := ["status", "actual_arrival_at"]

def LabelColumn (trip : MappingDocument) (column : String) : Prop :=
  ∃ f ∈ labelFields, columnOf trip f = some column

/-- One trip, of the given departure, in two states: its status and its arrival may differ. -/
structure SameTrip (std : Stdlib) (trip : MappingDocument) (timeField : String)
    (departure : DateTime) (row₁ row₂ : Sql.Row Value) : Prop where
  departs : ∃ c, columnOf trip timeField = some c ∧
    coerceValue std (row₁ c) = .ok (some (.datetime departure))
  identity : ∀ p, identityColumn trip = .ok p → row₁ p.2 = row₂ p.2
  others : ∀ c, ¬LabelColumn trip c → row₁ c = row₂ c

/-- Two states of the customer databases that differ only in such trips, in the tables that hold
trips. -/
structure DifferInLabel (env : Environment) (world' : Engine → CustomerDatabase)
    (trip : MappingDocument) (timeField : String) (departure : DateTime)
    (holdsTrips : Engine → String → String → Prop) : Prop where
  compare : ∀ engine, (env.world engine).compare = (world' engine).compare
  elsewhere : ∀ engine schemaName table, ¬holdsTrips engine schemaName table →
    (env.world engine).relation schemaName table = (world' engine).relation schemaName table
  trips : ∀ engine schemaName table, holdsTrips engine schemaName table →
    Option.Rel (fun r₁ r₂ => r₁.refuses = r₂.refuses ∧
        List.Forall₂ (fun row₁ row₂ =>
          row₁ = row₂ ∨ SameTrip env.std trip timeField departure row₁ row₂) r₁.rows r₂.rows)
      ((env.world engine).relation schemaName table) ((world' engine).relation schemaName table)

/-- The status and the arrival of a trip use columns that no other mapped field uses. -/
def LabelColumnsApart (env : Environment) (db : ControlPlane) (ctx : TenantContext)
    (pool : PoolRegistry) (trip : MappingDocument) (holdsTrips : Engine → String → String → Prop) :
    Prop :=
  ∀ name related p engine, resolve db name ctx = .ok (some related) →
    connectionAndSnapshotFor db related ctx = .ok p → routeOf env db ctx pool p.1.id = .ok engine →
    holdsTrips engine related.document.source.schemaName related.document.source.table →
    ∀ f c, columnOf related.document f = some c → LabelColumn trip c →
      name = "Trip" ∧ f ∈ labelFields

/-- A server does not take a value to be before the instant that it denotes. -/
def NotBeforeItself (std : Stdlib) (compare : Sql.Comparison Value) : Prop :=
  ∀ v t, coerceValue std (some v) = .ok (some (.datetime t)) → compare.lt v (.datetime t) = false

section

variable {env : Environment} {world' : Engine → CustomerDatabase} {db : ControlPlane}
  {ctx : TenantContext} {pool : PoolRegistry} {trip : MappingDocument} {timeField : String}
  {departure : DateTime} {holdsTrips : Engine → String → String → Prop}

/-! ## Statements that do not see the difference -/

/-- A statement that reads no column of the label. -/
theorem sameAnswer_blind
    (hdiffer : DifferInLabel env world' trip timeField departure holdsTrips) {engine : Engine}
    {select : Sql.Select Value}
    (h : holdsTrips engine select.schemaName select.table → ∀ c ∈ select.columnsRead,
      LabelColumn trip c → ∃ p, identityColumn trip = .ok p ∧ c = p.2) :
    SameAnswer select (env.world engine) (world' engine) := by
  by_cases hholds : holdsTrips engine select.schemaName select.table
  · have hrel := hdiffer.trips engine _ _ hholds
    have hshare : ∀ c ∈ select.columnsRead, ∀ a b,
        (a = b ∨ SameTrip env.std trip timeField departure a b) → a c = b c := by
      intro c hc a b hab
      rcases hab with rfl | hab
      · rfl
      · by_cases hlabel : LabelColumn trip c
        · obtain ⟨p, hp, rfl⟩ := h hholds c hc hlabel
          exact hab.identity p hp
        · exact hab.others c hlabel
    refine Sql.optionRel_mono (fun r₁ r₂ hr => ⟨by rw [hr.1], ?_⟩) hrel
    have hcolumns : ∀ c ∈ select.conditions, c.column ∈ select.columnsRead := by
      intro c hc
      simp only [Sql.Select.columnsRead, List.mem_append, List.mem_map]
      exact .inl (.inr ⟨c, hc, rfl⟩)
    have horder : ∀ k ∈ select.orderBy, k.column ∈ select.columnsRead := by
      intro k hk
      simp only [Sql.Select.columnsRead, List.mem_append, List.mem_map, Option.mem_toList]
      exact .inr ⟨k, hk, rfl⟩
    have hrows := Sql.forall₂_rows (show select.conditions = select.conditions ++ [] by simp)
      (fun c hc => hshare c.column (hcolumns c hc)) (fun k hk => hshare k.column (horder k hk))
      (show List.Forall₂ _ (r₁.rows.filter fun row =>
          [].all (Sql.Condition.holds (env.world engine).compare · row))
        (r₂.rows.filter fun row => [].all (Sql.Condition.holds (env.world engine).compare · row)) by
        simpa using hr.2)
    rw [← hdiffer.compare engine]
    refine hrows.imp fun a b hab c hc => hshare c (by simp [Sql.Select.columnsRead, hc]) a b hab
  · exact sameAnswer_of_eq (hdiffer.compare engine) (hdiffer.elsewhere _ _ _ hholds)

/-- A statement that takes only rows before the departure. -/
theorem sameAnswer_before
    (hdiffer : DifferInLabel env world' trip timeField departure holdsTrips) {engine : Engine}
    (hserver : NotBeforeItself env.std (env.world engine).compare) {select : Sql.Select Value}
    {column : String} (htime : columnOf trip timeField = some column)
    (hcut : ⟨column, .lt, .datetime departure⟩ ∈ select.conditions)
    (h : holdsTrips engine select.schemaName select.table → ¬LabelColumn trip column) :
    SameAnswer select (env.world engine) (world' engine) := by
  by_cases hholds : holdsTrips engine select.schemaName select.table
  · have hrel := hdiffer.trips engine _ _ hholds
    refine Sql.optionRel_mono (fun r₁ r₂ hr => ⟨by rw [hr.1], ?_⟩) hrel
    let cut : Sql.Condition Value := ⟨column, .lt, .datetime departure⟩
    have hkept : r₁.rows.filter (cut.holds (env.world engine).compare) =
        r₂.rows.filter (cut.holds (env.world engine).compare) := by
      refine Sql.filter_congr_of_forall₂ (hr.2.imp fun a b hab => ?_)
      rcases hab with rfl | hab
      · exact .inl rfl
      · right
        obtain ⟨c, hc, hdeparts⟩ := hab.departs
        obtain rfl : column = c := Option.some.inj (htime.symm.trans hc)
        have hsame : a column = b column := hab.others column (h hholds)
        have hnot : cut.holds (env.world engine).compare a = false := by
          unfold Sql.Condition.holds
          cases hv : a column with
          | none => rfl
          | some v =>
            rw [hv] at hdeparts
            exact hserver v departure hdeparts
        have hnot' : cut.holds (env.world engine).compare b = false := by
          rw [← hnot]
          exact (Sql.holds_congr hsame).symm
        exact ⟨hnot, hnot'⟩
    have hrows : select.rows (env.world engine).compare r₁.rows =
        select.rows (env.world engine).compare r₂.rows :=
      Sql.rows_congr (fun row hrow => hrow cut hcut) hkept
    rw [← hdiffer.compare engine, hrows]
    exact List.forall₂_same.2 fun row _ => Agree.refl _ row
  · exact sameAnswer_of_eq (hdiffer.compare engine) (hdiffer.elsewhere _ _ _ hholds)

/-! ## The features of the contract -/

/-- The contract reads no field of the label off the target. -/
theorem neededTargetFields_apart :
    ∀ f ∈ neededTargetFields deliveryDelayRiskContract, f ∉ labelFields := by decide

/-- A related feature reads no field of the label, or it reads trips before the prediction time. -/
theorem relatedFields_apart :
    ∀ feature ∈ deliveryDelayRiskContract.features, ¬feature.kind.onTarget →
      (∀ f ∈ relatedFields feature, f ∉ labelFields) ∨
      feature.relatedEntity = some "Trip" ∧
        feature.relatedTimestampField = some "planned_departure_at" := by decide

theorem targetRow_alike
    (hdiffer : DifferInLabel env world' trip timeField departure holdsTrips) {engine : Engine}
    (hown : holdsTrips engine trip.source.schemaName trip.source.table →
      ∀ f c, columnOf trip f = some c → LabelColumn trip c → f ∈ labelFields)
    {needed : List String} (hneeded : ∀ f ∈ needed, f ∉ labelFields) (reference : String)
    (connection : CustomerDatabaseConnection) :
    (targetRowPlan env.std trip reference needed connection >>= Plan.result (env.world engine)) =
      (targetRowPlan env.std trip reference needed connection >>= Plan.result (world' engine)) := by
  cases hplan : targetRowPlan env.std trip reference needed connection with
  | error e => rfl
  | ok plan =>
    refine result_congr (targetRow_reads hplan) (hdiffer.compare engine) fun select hselect => ?_
    obtain ⟨-, identity, columns, hid, hcolumns, rfl⟩ := targetRowPlan_ok hplan
    cases hselect
    refine sameAnswer_blind hdiffer fun hholds c hc hlabel => ⟨identity, hid, ?_⟩
    have hread : c ∈ columns.values ∨ c = identity.2 := by
      simpa [Sql.Select.columnsRead, targetSelect, selectFrom, Sql.Output.columnsRead] using hc
    rcases hread with hread | rfl
    · obtain ⟨f, hf⟩ := Keyed.Dict.mem_values.1 hread
      rcases addColumns_from hcolumns hf with hstart | ⟨hmem, hr⟩
      · rw [Keyed.Dict.get?_ofList_singleton] at hstart
        split at hstart
        · exact (Option.some.inj hstart).symm
        · cases hstart
      · exact absurd (hown hholds f c (resolveColumn_mapped.1 hr) hlabel)
          (hneeded f ((env.std.mem_setOrder _ _).1 hmem))
    · rfl

/-- A related feature of the contract. -/
theorem relatedFeature_alike
    (hdiffer : DifferInLabel env world' trip "planned_departure_at" departure holdsTrips)
    (hserver : ∀ engine, NotBeforeItself env.std (env.world engine).compare)
    (hmapped : Mapped trip "planned_departure_at") {engine : Engine} {name : String}
    {document : MappingDocument} {feature : FeatureSpec}
    (hmem : feature ∈ deliveryDelayRiskContract.features) (hkind : ¬feature.kind.onTarget)
    (hname : feature.relatedEntity = some name) (htrip : name = "Trip" → document = trip)
    (hown : holdsTrips engine document.source.schemaName document.source.table →
      ∀ f c, columnOf document f = some c → LabelColumn trip c → name = "Trip" ∧ f ∈ labelFields)
    (joinValue : Value) (connection : CustomerDatabaseConnection) :
    (relatedFeaturePlan env.std feature document joinValue departure connection >>=
        Plan.result (env.world engine)) =
      (relatedFeaturePlan env.std feature document joinValue departure connection >>=
        Plan.result (world' engine)) := by
  cases hplan : relatedFeaturePlan env.std feature document joinValue departure connection with
  | error e => rfl
  | ok plan =>
    refine result_congr (relatedFeature_reads hplan) (hdiffer.compare engine) fun select hs => ?_
    obtain ⟨-, hsends, hasks⟩ := relatedFeature_asks hplan hs
    rcases relatedFields_apart feature hmem hkind with hblind | ⟨hentity, htime⟩
    · refine sameAnswer_blind hdiffer fun hholds c hc hlabel => ?_
      obtain ⟨f, hf, hr⟩ := relatedFeature_columns hplan hs hc
      rw [hasks.schemaName, hasks.table] at hholds
      exact absurd (hown hholds f c (resolveColumn_mapped.1 hr) hlabel).2 (hblind f hf)
    · obtain rfl : document = trip := htrip (Option.some.inj (hname.symm.trans hentity))
      obtain ⟨column, hcolumn⟩ := Option.isSome_iff_exists.1 hmapped
      refine sameAnswer_before hdiffer (hserver engine) hcolumn ?_ fun hholds hlabel => ?_
      · have hgiven : given feature.relatedTimestampField = some "planned_departure_at" := by
          rw [htime]
          rfl
        rw [hasks.conditions, Query.comparisons, hgiven, compareField_some hcolumn]
        simp
      · rw [hasks.schemaName, hasks.table] at hholds
        exact absurd (hown hholds _ column hcolumn hlabel).2 (by decide)

/-! ## The extraction -/

theorem relatedOutcome_alike
    (hdiffer : DifferInLabel env world' trip "planned_departure_at" departure holdsTrips)
    (hserver : ∀ engine, NotBeforeItself env.std (env.world engine).compare)
    (hmapped : Mapped trip "planned_departure_at")
    (hown : LabelColumnsApart env db ctx pool trip holdsTrips)
    (htrip : ∀ related, resolve db "Trip" ctx = .ok (some related) → related.document = trip)
    {feature : FeatureSpec} (hmem : feature ∈ deliveryDelayRiskContract.features)
    (hkind : ¬feature.kind.onTarget) {relatedCache : Dict String (Option ResolvedMapping)}
    (hcache : ∀ name resolved, relatedCache.get? name = some resolved →
      resolve db name ctx = .ok resolved) (targetRow : FieldRow) :
    relatedOutcome env db ctx pool relatedCache targetRow departure feature =
      relatedOutcome { env with world := world' } db ctx pool relatedCache targetRow departure
        feature := by
  unfold relatedOutcome
  split
  · rename_i name fkField hname hfk
    dsimp only
    split
    · rename_i related version hrelated hversion
      split
      · rfl
      · rename_i joinValue hjoin
        have hresolve := resolve_of_cached hcache hrelated
        cases hconnection : connectionAndSnapshotFor db related ctx with
        | error e => rfl
        | ok p =>
          have hroute : routeOf { env with world := world' } db ctx pool p.1.id =
              routeOf env db ctx pool p.1.id := rfl
          simp only [except_ok_bind, hroute]
          cases hengine : routeOf env db ctx pool p.1.id with
          | error e => rfl
          | ok engine =>
            have halike := relatedFeature_alike hdiffer hserver hmapped hmem hkind hname
              (fun h => htrip related (h ▸ hresolve))
              (hown name related p engine hresolve hconnection hengine) joinValue p.1
            simp only [except_ok_bind, halike]
    · rfl
  · rfl

end

/-- The label of a trip is not in the features that are extracted at its planned departure: two
states of the customer databases that differ in nothing but the status and the arrival of trips of
that departure give the same. -/
theorem own_label_unseen (env : Environment) (db : ControlPlane) (ctx : TenantContext)
    (pool : PoolRegistry) (definition : DatasetDefinition) (trip : ResolvedMapping)
    (departure : DateTime) (businessReference : String) (world' : Engine → CustomerDatabase)
    (holdsTrips : Engine → String → String → Prop)
    (htimeField : definition.label.timeField = "planned_departure_at")
    (htrip : Features.resolveTarget db "Trip" ctx = .ok trip)
    (hmapped : Mapped trip.document "planned_departure_at")
    (hapart : LabelColumnsApart env db ctx pool trip.document holdsTrips)
    (hserver : ∀ engine, NotBeforeItself env.std (env.world engine).compare)
    (hdiffer : DifferInLabel env world' trip.document definition.label.timeField departure
      holdsTrips) :
    (extract { env with world := world' } db deliveryDelayRiskContract ctx businessReference
        departure { pool }).1 =
      (extract env db deliveryDelayRiskContract ctx businessReference departure { pool }).1 := by
  rw [htimeField] at hdiffer
  have hfirst : (extract env db deliveryDelayRiskContract ctx businessReference departure
      { pool }).1 = extractOf env db ctx pool deliveryDelayRiskContract businessReference departure :=
    (extract_computes _ _ _ _ onRoutes_start).2
  have hsecond : (extract { env with world := world' } db deliveryDelayRiskContract ctx
      businessReference departure { pool }).1 =
        extractOf { env with world := world' } db ctx pool deliveryDelayRiskContract
          businessReference departure := (extract_computes _ _ _ _ onRoutes_start).2
  have hresolve : ∀ related, resolve db "Trip" ctx = .ok (some related) → related = trip := by
    intro related hrelated
    unfold Features.resolveTarget at htrip
    rw [hrelated] at htrip
    exact Except.ok.inj htrip
  rw [hfirst, hsecond]
  refine (extractOf_congr (fun target p engine htarget hp hengine => ?_)
    fun relatedCache targetRow feature hcache hmem hkind => ?_).symm
  · obtain rfl : trip = target := Except.ok.inj (htrip.symm.trans htarget)
    obtain ⟨resolved, hresolved, hsome⟩ := except_bind_ok.1 htrip
    cases resolved with
    | none => cases hsome
    | some resolved =>
      obtain rfl : resolved = trip := hresolve resolved hresolved
      have hcolumns := hapart "Trip" resolved p engine hresolved hp hengine
      exact targetRow_alike hdiffer (fun hholds f c hc hlabel => (hcolumns hholds f c hc hlabel).2)
        neededTargetFields_apart businessReference p.1
  · exact relatedOutcome_alike hdiffer hserver hmapped hapart
      (fun related hrelated => by rw [hresolve related hrelated]) hmem hkind
      (fun _ _ => resolve_of_relatedCache hcache) targetRow

namespace Sample

open HermesRpt.Sample (std ctx plain document isIdentifier_vehicle_no)

/-- Trips with their driver, in the sample's table. -/
def trips : MappingDocument where
  entity := "Trip"
  source := document.source
  identity := ⟨[("trip_id", plain "trip_no")], by decide⟩
  fields := ⟨[("vehicle_id", plain "vehicle_no" isIdentifier_vehicle_no), ("driver_id", plain "driver"),
    ("planned_departure_at", plain "departs"), ("status", plain "state"),
    ("actual_arrival_at", plain "arrived")], by decide⟩

def tripMapping : ResolvedMapping := ⟨active 30 1 "Trip", trips⟩

def servedTrips : ControlPlane :=
  { served with
    mappings := ⟨[active 30 1 "Trip"], by decide⟩, versions := ⟨[version trips], by decide⟩ }

def tripRow (id : String) (departs : DateTime) (state : String) (arrived : Option Value) :
    Sql.Row Value := fun column =>
  if column = "trip_no" then some (.str id)
  else if column = "driver" then some (.str "d1")
  else if column = "departs" then some (.datetime departs)
  else if column = "state" then some (.str state)
  else if column = "arrived" then arrived
  else none

/-- An earlier cancelled trip of the driver, and the trip that departs at 2000. -/
def tripTable (state : String) (arrived : Option Value) : CustomerDatabase :=
  oneTable "vehicles" [tripRow "t0" ⟨1000, 0⟩ "cancelled" none, tripRow "t1" ⟨2000, 0⟩ state arrived]

def planned : Environment := serving (tripTable "planned" none)

def cancelled : Engine → CustomerDatabase := fun _ =>
  tripTable "cancelled" (some (.datetime ⟨9000, 0⟩))

def holdsTrips (_ : Engine) (schemaName table : String) : Prop :=
  schemaName = "fleet" ∧ table = "vehicles"

def delays : DatasetDefinition where
  datasetKey := "delays"
  tenantId := some 1
  timeRangeStart := ⟨0, 0⟩
  timeRangeEnd := ⟨9000, 0⟩
  label := {
    functionName := "delivery_delay_label", sourceFields := ["status", "actual_arrival_at"],
    timeField := "planned_departure_at" }
  splitStrategy := {
    trainFraction := 7 / 10, validationFraction := 15 / 100, in_unit := by decide +kernel,
    room_for_test := by decide +kernel }

theorem notBeforeItself_compare : NotBeforeItself std compare := by
  intro v t h
  cases v with
  | str s =>
    obtain ⟨t', -, h⟩ := except_bind_ok.1 h
    rfl
  | datetime t' =>
    cases h
    exact decide_eq_false (lt_irrefl t.micros)
  | _ => cases h

theorem resolveTarget_servedTrips :
    Features.resolveTarget servedTrips "Trip" ctx = .ok tripMapping := rfl

/-- A control plane with one mapping, of trips, resolves no other. -/
theorem resolve_trips {document : MappingDocument} {hversions} {name : String}
    {found : ResolvedMapping}
    (h : resolve { servedTrips with versions := ⟨[version document], hversions⟩ } name ctx =
      .ok (some found)) :
    name = "Trip" ∧ found = ⟨active 30 1 "Trip", document⟩ := by
  obtain ⟨version, hunique, -⟩ := resolve_some h
  obtain ⟨hmem, -, hname, -⟩ := (hunique found.schemaMapping).2 rfl
  have hmapping : found.schemaMapping = active 30 1 "Trip" := by
    simpa [servedTrips, Keyed.Table.mem_def] using hmem
  rw [hmapping] at hname
  obtain rfl : "Trip" = name := hname
  exact ⟨rfl, (Option.some.inj (Except.ok.inj h)).symm⟩

theorem resolve_servedTrips {name : String} {related : ResolvedMapping}
    (h : resolve servedTrips name ctx = .ok (some related)) :
    name = "Trip" ∧ related = tripMapping :=
  resolve_trips h

theorem labelColumnsApart_trips :
    LabelColumnsApart planned servedTrips ctx Keyed.Table.empty trips holdsTrips := by
  intro name related p engine hresolve _ _ _ f c hf hlabel
  obtain ⟨rfl, rfl⟩ := resolve_servedTrips hresolve
  refine ⟨rfl, ?_⟩
  obtain ⟨g, hg, hc⟩ := hlabel
  have hkey : f ∈ trips.allFieldMappings.keys := by
    obtain ⟨mapping, hmapping, -⟩ := Option.bind_eq_some_iff.1 hf
    exact Keyed.Dict.mem_keys.2 ⟨mapping, hmapping⟩
  have hall : ∀ f ∈ trips.allFieldMappings.keys, ∀ g ∈ labelFields,
      columnOf trips f = columnOf trips g → f ∈ labelFields := by decide
  exact hall f hkey g hg (hf.trans hc.symm)

theorem differInLabel_trips : DifferInLabel planned cancelled trips "planned_departure_at"
    ⟨2000, 0⟩ holdsTrips where
  compare engine := rfl
  elsewhere engine schemaName table h := by
    have hne : ¬(schemaName = "fleet" ∧ table = "vehicles") := h
    simp [planned, cancelled, serving, tripTable, oneTable, hne]
  trips engine schemaName table h := by
    obtain ⟨rfl, rfl⟩ := h
    refine .some ⟨rfl, .cons (.inl rfl) (.cons (.inr ?_) .nil)⟩
    refine ⟨⟨"departs", rfl, rfl⟩, fun p hp => ?_, fun c hc => ?_⟩
    · cases hp
      rfl
    · have hstate : c ≠ "state" := fun h => hc ⟨"status", by decide, h ▸ rfl⟩
      have harrived : c ≠ "arrived" := fun h => hc ⟨"actual_arrival_at", by decide, h ▸ rfl⟩
      simp [tripRow, hstate, harrived]

end Sample

theorem own_label_unseen_sample :
    (extract { Sample.planned with world := Sample.cancelled } Sample.servedTrips
        deliveryDelayRiskContract HermesRpt.Sample.ctx "t1" ⟨2000, 0⟩
        { pool := Keyed.Table.empty }).1 =
      (extract Sample.planned Sample.servedTrips deliveryDelayRiskContract HermesRpt.Sample.ctx "t1"
        ⟨2000, 0⟩ { pool := Keyed.Table.empty }).1 ∧
    ((extract Sample.planned Sample.servedTrips deliveryDelayRiskContract HermesRpt.Sample.ctx "t1"
        ⟨2000, 0⟩ { pool := Keyed.Table.empty }).1.map fun batch =>
      batch.features.get? "driver_late_delivery_ratio") = .ok (some (some (.float 1))) := by
  have h := own_label_unseen Sample.planned Sample.servedTrips HermesRpt.Sample.ctx
    Keyed.Table.empty Sample.delays Sample.tripMapping ⟨2000, 0⟩ "t1" Sample.cancelled
    Sample.holdsTrips rfl Sample.resolveTarget_servedTrips rfl Sample.labelColumnsApart_trips
    (fun _ => Sample.notBeforeItself_compare) Sample.differInLabel_trips
  exact ⟨h, by decide +kernel⟩

end Extraction

end HermesRpt
