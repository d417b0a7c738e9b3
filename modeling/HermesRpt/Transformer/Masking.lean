import HermesRpt.Transformer.Disguise

/-!
# HermesRpt.Transformer.Masking

A masked cell looks like a missing one, unless the position is given another record's content after
it was masked.

* `fieldsOf` : the fields of an entity type and its protected ones, which the sets are made of.
* `chosenIn`, `substitute` : the cells that are drawn as targets at a position, and the record that
  takes its place, from the input and the draws.
* `finalAt_eq` : the copies at a position, from these two.
* `targetsHidden_iff` : when all the targets are hidden in the masked batch.
-/

namespace HermesRpt

namespace Transformer

open Effect
open Keyed (Dict)

/-! ## Protected fields -/

/-- The fields of an entity type, and the names of its business identifiers. -/
def fieldsOf (entityIndex : Nat) : Except PyError (EntityFieldSchema × List String) := do
  let entity ← entityName entityIndex
  let schema ← entityFieldSchema entity
  let names ← protectedFieldNames entity
  return (schema, names)

theorem entityFieldSchema_ok {entity : String} {schema : EntityFieldSchema}
    (h : entityFieldSchema entity = .ok schema) :
    schema ∈ entityFieldSchemas ∧ schema.entity = entity := by
  unfold entityFieldSchema at h
  cases hfind : entityFieldSchemas.find? (·.entity = entity) with
  | none =>
    rw [hfind] at h
    cases h
  | some found =>
    rw [hfind] at h
    cases h
    exact ⟨List.mem_of_find?_eq_some hfind, by simpa using List.find?_some hfind⟩

theorem nodup_entities : (entityFieldSchemas.map (·.entity)).Nodup := by decide

/-- The sets hold the protected names of every entity with fields. -/
theorem get?_protectedSets {sets : Dict String (List String)} (hsets : protectedSets = .ok sets)
    {schema : EntityFieldSchema} (hschema : schema ∈ entityFieldSchemas) :
    ∃ names, sets.get? schema.entity = some names ∧ protectedFieldNames schema.entity = .ok names := by
  obtain ⟨pairs, hpairs, hsets⟩ := except_bind_ok.1 hsets
  cases hsets
  obtain ⟨g, hg, rfl⟩ := except_mapM_exists.1 hpairs
  have hpair : ∀ schema ∈ entityFieldSchemas, ∃ names, g schema = (schema.entity, names) ∧
      protectedFieldNames schema.entity = .ok names := by
    intro schema hschema
    obtain ⟨names, hnames, h⟩ := except_bind_ok.1 (hg schema hschema)
    exact ⟨names, (except_pure_ok.1 h).symm, hnames⟩
  have hkeys : (entityFieldSchemas.map g).map Prod.fst = entityFieldSchemas.map (·.entity) := by
    rw [List.map_map]
    refine List.map_congr_left fun schema hschema => ?_
    obtain ⟨names, hpair, -⟩ := hpair schema hschema
    simp [hpair]
  obtain ⟨names, hg', hnames⟩ := hpair schema hschema
  refine ⟨names, Keyed.Dict.get?_ofList_of_mem ?_ ?_, hnames⟩
  · rw [hkeys]
    exact nodup_entities
  · exact List.mem_map.2 ⟨schema, hschema, hg'⟩

theorem maskableFields_eq {sets : Dict String (List String)} (hsets : protectedSets = .ok sets)
    (entityIndex : Nat) : maskableFields sets entityIndex = fieldsOf entityIndex := by
  unfold maskableFields fieldsOf
  refine except_bind_congr fun entity _ => except_bind_congr fun schema hschema => ?_
  obtain ⟨hmem, rfl⟩ := entityFieldSchema_ok hschema
  obtain ⟨names, hget, hnames⟩ := get?_protectedSets hsets hmem
  rw [hget, hnames]
  rfl

theorem protectedSets_isOk : ∃ sets, protectedSets = .ok sets := by
  cases h : protectedSets with
  | ok sets => exact ⟨sets, rfl⟩
  | error e =>
    have hok : protectedSets.isOk = true := by decide +kernel
    rw [h] at hok
    cases hok

/-- Every entity type but the padding has fields. -/
theorem fieldsOf_isOk {entityIndex : Nat} (hlt : entityIndex < entityTypeVocab.length)
    (hpad : entityIndex ≠ padEntityIndex) : ∃ fields, fieldsOf entityIndex = .ok fields := by
  have hall : ∀ i < entityTypeVocab.length, i ≠ padEntityIndex → (fieldsOf i).isOk = true := by
    decide +kernel
  cases h : fieldsOf entityIndex with
  | ok fields => exact ⟨fields, rfl⟩
  | error e =>
    have hok := hall entityIndex hlt hpad
    rw [h] at hok
    cases hok

/-- The entity types of the attended positions are known. -/
def KnownEntities (batch : EncodedBatch) : Prop :=
  ∀ b s p, batch.cell? b s = some p → p.attentionMask = true → p.entityTypeId < entityTypeVocab.length

theorem mem_of_cell? {batch : EncodedBatch} {b s : Nat} {p : Position} (h : batch.cell? b s = some p) :
    ∃ row ∈ batch.positions, p ∈ row := by
  obtain ⟨row, hrow, hp⟩ := Option.bind_eq_some_iff.1 h
  exact ⟨row, List.mem_of_getElem? hrow, List.mem_of_getElem? hp⟩

theorem knownEntities_of_forall {batch : EncodedBatch}
    (h : ∀ row ∈ batch.positions, ∀ p ∈ row, p.entityTypeId < entityTypeVocab.length) :
    KnownEntities batch := by
  intro b s p hp _
  obtain ⟨row, hrow, hmem⟩ := mem_of_cell? hp
  exact h row hrow p hmem

/-- Nothing fails on a batch of known entity types. -/
theorem buildPretrainingBatch_isOk {batch : EncodedBatch} (hknown : KnownEntities batch)
    (config : MaskingConfig) (draws : Draws) :
    ∃ masked targets, buildPretrainingBatch batch config draws = .ok (masked, targets) := by
  obtain ⟨sets, hsets⟩ := protectedSets_isOk
  have hmask : ∀ b w, ∀ s ∈ realPositions batch b, ∃ w',
      maskStep batch config draws sets b w s = .ok w' := by
    intro b w s hs
    obtain ⟨p, hp, hattended⟩ := mem_realPositions.1 hs
    unfold maskStep
    rw [hp]
    by_cases hpad : p.entityTypeId = padEntityIndex
    · exact ⟨w, if_pos hpad⟩
    · obtain ⟨fields, hfields⟩ := fieldsOf_isOk (hknown b s p hp hattended) hpad
      refine ⟨w.modify b s (maskPosition config draws b s fields.1 fields.2 p), ?_⟩
      simp only [if_neg hpad, maskableFields_eq hsets, hfields]
      rfl
  have hexample : ∀ w, ∀ b ∈ List.range batch.positions.length, ∃ w',
      pretrainExample batch config draws sets w b = .ok w' := by
    intro w b _
    obtain ⟨copies, hcopies⟩ := Cells.foldlM_isOk (hmask b) w.copies
    exact ⟨_, except_bind_ok.2 ⟨copies, hcopies, rfl⟩⟩
  obtain ⟨w, hw⟩ := Cells.foldlM_isOk hexample
    { copies := batch.positions.map (List.map WorkingPosition.clone), temporalPairs := [] }
  exact ⟨_, _, except_bind_ok.2 ⟨sets, hsets, except_bind_ok.2 ⟨w, hw, rfl⟩⟩⟩

/-! ## Cells -/

theorem hide_false {α : Type} [Zero α] (cells : List (Masked α)) : hide (fun _ => false) cells = cells := by
  refine List.ext_getElem? fun slot => ?_
  simp [hide]

theorem mark_false (flags : List Bool) : mark (fun _ => false) flags = flags := by
  refine List.ext_getElem? fun slot => ?_
  simp [mark]

theorem getElem?_hide {α : Type} [Zero α] (chosen : Nat → Bool) (cells : List (Masked α)) (slot : Nat) :
    (hide chosen cells)[slot]? =
      cells[slot]?.map fun cell => if chosen slot then .unused else cell := by
  rw [hide, List.getElem?_mapIdx]

/-- The flags that the masking loop leaves. -/
theorem flagged_iff {α : Type} {chosen : Nat → Bool} {cells : List (Masked α)} {slot : Nat} :
    (mark chosen (cells.map fun _ => false))[slot]? = some true ↔
      chosen slot = true ∧ slot < cells.length := by
  rw [mark, List.getElem?_mapIdx, List.getElem?_map]
  cases hcell : cells[slot]? with
  | none =>
    have hle := List.getElem?_eq_none_iff.1 hcell
    simp
    omega
  | some cell =>
    have hlt := (List.getElem?_eq_some_iff.1 hcell).1
    simp [hlt]

theorem selected_iff {config : MaskingConfig} {α : Type} {draw : Nat → ℚ} {protectedNames fieldNames : List String}
    {cells : List (Masked α)} {slot : Nat} :
    selected config draw protectedNames fieldNames cells slot = true ↔
      ∃ fieldName cell, fieldNames[slot]? = some fieldName ∧ cells[slot]? = some cell ∧
        fieldName ∉ protectedNames ∧ cell.mask = true ∧ draw slot < config.maskProbability := by
  unfold selected
  cases hname : fieldNames[slot]? with
  | none => simp
  | some fieldName =>
    cases hcell : cells[slot]? with
    | none => simp
    | some cell => simp [and_assoc]

/-! ## One position -/

/-- The cells that are drawn as targets, by slot. -/
structure Chosen where
  numeric : Nat → Bool
  categorical : Nat → Bool
  datetime : Nat → Bool

def Chosen.nothing : Chosen := ⟨fun _ => false, fun _ => false, fun _ => false⟩

section

variable (batch : EncodedBatch) (config : MaskingConfig) (draws : Draws)

/-- The cells of a position that are drawn as targets: present cells of fields that are no business
identifiers, for which the draw is below the probability. -/
def chosenIn (b s : Nat) (p : Position) : Chosen :=
  if p.attentionMask = true ∧ p.entityTypeId ≠ padEntityIndex then
    match fieldsOf p.entityTypeId with
    | .ok (schema, names) =>
      { numeric := selected config (draws.numeric b s) names schema.numericFields p.numeric
        categorical := selected config (draws.categorical b s) names schema.categoricalFields
          p.categorical
        datetime := selected config (draws.datetime b s) names schema.datetimeFields p.datetime }
    | .error _ => .nothing
  else .nothing

/-- The record whose content a position is given, when its link is corrupted. -/
def substitute (b s : Nat) : Option Position :=
  if s ∈ relatedPositions batch b then replacement batch config draws b s else none

/-- What the copies hold at a position in the end. -/
def disguised (b s : Nat) (p : Position) : WorkingPosition :=
  let chosen := chosenIn config draws b s p
  let other := substitute batch config draws b s
  { numeric := other.elim (hide chosen.numeric p.numeric) (·.numeric)
    categorical := other.elim (hide chosen.categorical p.categorical) (·.categorical)
    datetime := other.elim (hide chosen.datetime p.datetime) (·.datetime)
    numericTargetMask := mark chosen.numeric (p.numeric.map fun _ => false)
    categoricalTargetMask := mark chosen.categorical (p.categorical.map fun _ => false)
    datetimeTargetMask := mark chosen.datetime (p.datetime.map fun _ => false)
    linkPosition := decide (s ∈ relatedPositions batch b)
    linkLabel := if s ∈ relatedPositions batch b ∧ other = none then 1 else 0 }

end

section

variable {batch : EncodedBatch} {config : MaskingConfig} {draws : Draws}
  {sets : Dict String (List String)}

/-- The masking loop hides the drawn cells and flags them. -/
theorem maskAt_eq (hsets : protectedSets = .ok sets) {b s : Nat} {p : Position}
    (hp : batch.cell? b s = some p) (w : WorkingPosition) :
    (if s ∈ realPositions batch b then maskAt batch config draws sets b s w else w) =
      { w with
        numeric := hide (chosenIn config draws b s p).numeric w.numeric
        categorical := hide (chosenIn config draws b s p).categorical w.categorical
        datetime := hide (chosenIn config draws b s p).datetime w.datetime
        numericTargetMask := mark (chosenIn config draws b s p).numeric w.numericTargetMask
        categoricalTargetMask := mark (chosenIn config draws b s p).categorical w.categoricalTargetMask
        datetimeTargetMask := mark (chosenIn config draws b s p).datetime w.datetimeTargetMask } := by
  have hnothing : ∀ c : Chosen, c = .nothing → w =
      { w with
        numeric := hide c.numeric w.numeric
        categorical := hide c.categorical w.categorical
        datetime := hide c.datetime w.datetime
        numericTargetMask := mark c.numeric w.numericTargetMask
        categoricalTargetMask := mark c.categorical w.categoricalTargetMask
        datetimeTargetMask := mark c.datetime w.datetimeTargetMask } := by
    rintro c rfl
    simp [Chosen.nothing, hide_false, mark_false]
  have hreal : s ∈ realPositions batch b ↔ p.attentionMask = true := by
    rw [mem_realPositions, hp]
    simp
  by_cases hattended : p.attentionMask = true
  · rw [if_pos (hreal.2 hattended)]
    simp only [maskAt, hp]
    by_cases hpad : p.entityTypeId = padEntityIndex
    · rw [if_pos hpad]
      exact hnothing _ (if_neg fun h => h.2 hpad)
    · rw [if_neg hpad, maskableFields_eq hsets]
      cases hfields : fieldsOf p.entityTypeId with
      | error e =>
        refine hnothing _ ?_
        rw [chosenIn, if_pos ⟨hattended, hpad⟩, hfields]
      | ok fields =>
        have hchosen : chosenIn config draws b s p =
            { numeric := selected config (draws.numeric b s) fields.2 fields.1.numericFields p.numeric
              categorical := selected config (draws.categorical b s) fields.2 fields.1.categoricalFields
                p.categorical
              datetime := selected config (draws.datetime b s) fields.2 fields.1.datetimeFields
                p.datetime } := by
          rw [chosenIn, if_pos ⟨hattended, hpad⟩, hfields]
        rw [hchosen]
        rfl
  · rw [if_neg fun h => hattended (hreal.1 h)]
    exact hnothing _ (if_neg fun h => hattended h.1)

theorem finalAt_eq (hsets : protectedSets = .ok sets) {b s : Nat} {p : Position}
    (hp : batch.cell? b s = some p) :
    finalAt batch config draws sets b s (.clone p) = disguised batch config draws b s p := by
  unfold finalAt
  rw [maskAt_eq hsets hp]
  by_cases hrelated : s ∈ relatedPositions batch b
  · rw [if_pos hrelated]
    have hsub : substitute batch config draws b s = replacement batch config draws b s := if_pos hrelated
    cases hother : replacement batch config draws b s with
    | none => simp [disguised, corruptAt, hsub, hother, hrelated, WorkingPosition.clone]
    | some other =>
      simp [disguised, corruptAt, hsub, hother, hrelated, WorkingPosition.clone,
        WorkingPosition.replaceContent]
  · rw [if_neg hrelated]
    have hsub : substitute batch config draws b s = none := if_neg hrelated
    simp [disguised, hsub, hrelated, WorkingPosition.clone]

/-- The masked batch and the targets, from the drawn cells and the substituted records. -/
theorem disguise_ok {masked : EncodedBatch} {targets : ReconstructionTargets}
    (h : buildPretrainingBatch batch config draws = .ok (masked, targets)) (b s : Nat) :
    masked.cell? b s =
        (batch.cell? b s).map (fun p => (disguised batch config draws b s p).shown p) ∧
      targets.cell? b s =
        (batch.cell? b s).map (fun p => (disguised batch config draws b s p).targets p) := by
  obtain ⟨sets, hsets, hmasked, htargets, -, -⟩ := buildPretrainingBatch_ok h
  rw [hmasked, htargets]
  cases hp : batch.cell? b s with
  | none => exact ⟨rfl, rfl⟩
  | some p => simp [finalAt_eq hsets hp]

/-! ## Targets -/

/-- Every flagged cell is zero and not present. -/
def Hidden {α : Type} [Zero α] (flags : List Bool) (cells : List (Masked α)) : Prop :=
  ∀ slot : Nat, flags[slot]? = some true → cells[slot]? = some Masked.unused

/-- The same cells of another record are zero and not present. -/
def Blank {α : Type} [Zero α] (chosen : Nat → Bool) (cells : List (Masked α)) : Prop :=
  ∀ slot, chosen slot = true → cells[slot]? = some Masked.unused

/-- No reconstruction target is shown in the masked batch. -/
def TargetsHidden (masked : EncodedBatch) (targets : ReconstructionTargets) : Prop :=
  ∀ b s p t, masked.cell? b s = some p → targets.cell? b s = some t →
    Hidden t.numericTargetMask p.numeric ∧ Hidden t.categoricalTargetMask p.categorical ∧
      Hidden t.datetimeTargetMask p.datetime

/-- A drawn cell exists. -/
theorem lt_of_selected {α : Type} {draw : Nat → ℚ} {names fieldNames : List String}
    {cells : List (Masked α)} {slot : Nat}
    (h : selected config draw names fieldNames cells slot = true) : slot < cells.length := by
  obtain ⟨_, _, -, hcell, -⟩ := selected_iff.1 h
  exact (List.getElem?_eq_some_iff.1 hcell).1

theorem lt_of_chosenIn {b s slot : Nat} {p : Position} :
    ((chosenIn config draws b s p).numeric slot = true → slot < p.numeric.length) ∧
      ((chosenIn config draws b s p).categorical slot = true → slot < p.categorical.length) ∧
      ((chosenIn config draws b s p).datetime slot = true → slot < p.datetime.length) := by
  have hnothing : ∀ c : Chosen, c = .nothing →
      (c.numeric slot = true → slot < p.numeric.length) ∧
        (c.categorical slot = true → slot < p.categorical.length) ∧
        (c.datetime slot = true → slot < p.datetime.length) := by
    rintro c rfl
    simp [Chosen.nothing]
  by_cases hreal : p.attentionMask = true ∧ p.entityTypeId ≠ padEntityIndex
  · cases hfields : fieldsOf p.entityTypeId with
    | error e =>
      refine hnothing _ ?_
      rw [chosenIn, if_pos hreal, hfields]
    | ok fields =>
      rw [chosenIn, if_pos hreal, hfields]
      exact ⟨lt_of_selected, lt_of_selected, lt_of_selected⟩
  · exact hnothing _ (if_neg hreal)

/-- Flagged cells of hidden content are hidden; of another record's content they are what the other
record has there. -/
theorem hidden_elim_iff {α : Type} [Zero α] {chosen : Nat → Bool} {cells : List (Masked α)}
    (hlt : ∀ slot, chosen slot = true → slot < cells.length) (other : Option Position)
    (content : Position → List (Masked α)) :
    Hidden (mark chosen (cells.map fun _ => false)) (other.elim (hide chosen cells) content) ↔
      ∀ o, other = some o → Blank chosen (content o) := by
  have hflag : ∀ slot, (mark chosen (cells.map fun _ => false))[slot]? = some true ↔ chosen slot = true :=
    fun slot => flagged_iff.trans ⟨And.left, fun h => ⟨h, hlt slot h⟩⟩
  cases other with
  | none =>
    simp only [Hidden, hflag, Option.elim_none, reduceCtorEq, false_implies, implies_true, iff_true]
    intro slot h
    rw [getElem?_hide, List.getElem?_eq_getElem (hlt slot h), Option.map_some, if_pos h]
  | some o =>
    simp only [Hidden, hflag, Option.elim_some, Blank, Option.some.injEq, forall_eq']

theorem hidden_disguised_iff {b s : Nat} {p : Position} :
    (Hidden (disguised batch config draws b s p).numericTargetMask
        (disguised batch config draws b s p).numeric ∧
      Hidden (disguised batch config draws b s p).categoricalTargetMask
        (disguised batch config draws b s p).categorical ∧
      Hidden (disguised batch config draws b s p).datetimeTargetMask
        (disguised batch config draws b s p).datetime) ↔
      ∀ other, substitute batch config draws b s = some other →
        Blank (chosenIn config draws b s p).numeric other.numeric ∧
          Blank (chosenIn config draws b s p).categorical other.categorical ∧
          Blank (chosenIn config draws b s p).datetime other.datetime := by
  simp only [disguised]
  rw [hidden_elim_iff (fun slot => lt_of_chosenIn.1), hidden_elim_iff (fun slot => lt_of_chosenIn.2.1),
    hidden_elim_iff (fun slot => lt_of_chosenIn.2.2)]
  cases substitute batch config draws b s with
  | none => simp
  | some other => simp

/-- All the targets are hidden exactly when no position with a drawn cell is given the content of a
record that has this cell. -/
theorem targetsHidden_iff (masked : EncodedBatch) (targets : ReconstructionTargets)
    (h : buildPretrainingBatch batch config draws = .ok (masked, targets)) :
    TargetsHidden masked targets ↔
      ∀ b s p other, batch.cell? b s = some p → substitute batch config draws b s = some other →
        Blank (chosenIn config draws b s p).numeric other.numeric ∧
          Blank (chosenIn config draws b s p).categorical other.categorical ∧
          Blank (chosenIn config draws b s p).datetime other.datetime := by
  constructor
  · intro hhidden b s p other hp hother
    obtain ⟨hmasked, htargets⟩ := disguise_ok h b s
    rw [hp] at hmasked htargets
    exact hidden_disguised_iff.1 (hhidden b s _ _ hmasked htargets) other hother
  · intro hblank b s q t hq ht
    obtain ⟨hmasked, htargets⟩ := disguise_ok h b s
    rw [hq] at hmasked
    rw [ht] at htargets
    cases hp : batch.cell? b s with
    | none =>
      rw [hp] at hmasked
      cases hmasked
    | some p =>
      rw [hp] at hmasked htargets
      cases hmasked
      cases htargets
      exact hidden_disguised_iff.2 fun other hother => hblank b s p other hp hother

end

namespace Sample

/-- A trip without cells of its own. -/
def tripPosition : Position :=
  { Position.padding with entityTypeId := 1, relationshipId := targetRelationshipIndex, attentionMask := true }

def vehiclePosition : Position :=
  { Position.padding with
    datetime := ⟨(0, 0, 1 / 2), true⟩ :: List.replicate 3 .unused
    entityTypeId := 2, relationshipId := 2, attentionMask := true }

def maintenancePosition : Position :=
  { Position.padding with
    datetime := ⟨(0, 0, 3 / 5), true⟩ :: List.replicate 3 .unused
    entityTypeId := 3, relationshipId := 6, attentionMask := true }

/-- One example, with one position for each relation. -/
def serviced : EncodedBatch where
  positions := [[tripPosition, vehiclePosition, .padding, .padding, .padding, maintenancePosition, .padding]]
  labels := none

theorem lt_of_two_le {n : Nat} (h : 2 ≤ n) : 0 < n ∧ 1 < n := by omega

/-- A generator whose numbers are all zero and that takes what comes first. -/
def lowDraws : Draws where
  numeric _ _ _ := 0
  categorical _ _ _ := 0
  datetime _ _ _ := 0
  link _ _ := 0
  choice _ _ _ := 0
  choice_lt _ _ _ h := h
  pair _ _ := 0
  sample _ _ _ := (0, 1)
  sample_lt _ _ _ h := lt_of_two_le h
  sample_ne _ _ _ _ := Nat.zero_ne_one

theorem knownEntities_serviced : KnownEntities serviced := knownEntities_of_forall (by decide +kernel)

/-- The date of acquisition is masked, and then the vehicle is given the content of the maintenance
event, with its date. -/
theorem substitute_vehicle : substitute serviced {} lowDraws 0 1 = some maintenancePosition := by
  decide +kernel

theorem chosen_vehicle : (chosenIn {} lowDraws 0 1 vehiclePosition).datetime 0 = true := by decide +kernel

theorem serviced_target_shown : ∃ masked targets,
    buildPretrainingBatch serviced {} lowDraws = .ok (masked, targets) ∧ ¬ TargetsHidden masked targets := by
  obtain ⟨masked, targets, h⟩ := buildPretrainingBatch_isOk knownEntities_serviced {} lowDraws
  refine ⟨masked, targets, h, fun hhidden => ?_⟩
  obtain ⟨hmasked, htargets⟩ := disguise_ok h 0 1
  have hblank := hidden_disguised_iff.1 (hhidden 0 1 _ _ hmasked htargets) maintenancePosition
    substitute_vehicle
  have hcell := hblank.2.2 0 chosen_vehicle
  simp [maintenancePosition, Masked.unused] at hcell

theorem substitute_of_no_corruption (batch : EncodedBatch) (b s : Nat) :
    substitute batch { linkCorruptionProbability := 0 } lowDraws b s = none := by
  unfold substitute replacement
  split
  · exact if_pos (le_refl 0)
  · rfl

/-- Without corrupted links every target is hidden. -/
theorem serviced_targets_hidden : ∃ masked targets,
    buildPretrainingBatch serviced { linkCorruptionProbability := 0 } lowDraws = .ok (masked, targets) ∧
      TargetsHidden masked targets := by
  obtain ⟨masked, targets, h⟩ := buildPretrainingBatch_isOk knownEntities_serviced
    { linkCorruptionProbability := 0 } lowDraws
  refine ⟨masked, targets, h, (targetsHidden_iff masked targets h).2 ?_⟩
  intro b s p other _ hother
  rw [substitute_of_no_corruption] at hother
  cases hother

end Sample

end Transformer

end HermesRpt
