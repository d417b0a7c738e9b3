import HermesRpt.Transformer.Masking

/-!
# HermesRpt.Transformer.Frame

What `build_pretraining_batch` leaves alone.

* `Keeps` : what holds of a position of the input, the masked batch and the targets.
* `keeps_disguised` : it holds at every position.
* `SameExample` : two inputs and draws that agree on one example.
* `masking_frame` : nothing but flagged cells and corrupted positions changes, and an example gets
  nothing from the others.
-/

namespace HermesRpt

namespace Transformer

open Effect
open Keyed (Dict)

/-- The slot of an entity type is that of a field that is no business identifier. -/
def PlainField (entityIndex : Nat) (fieldNames : EntityFieldSchema → List String) (slot : Nat) : Prop :=
  ∃ entity schema ontology ontologyEntity fieldName,
    entityTypeVocab[entityIndex]? = some entity ∧ entityFieldSchema entity = .ok schema ∧
      Ontology.getOntology Ontology.defaultOntologyVersion = .ok ontology ∧
      ontology.getEntity entity = .ok ontologyEntity ∧ (fieldNames schema)[slot]? = some fieldName ∧
      ∀ field ∈ ontologyEntity.fields, field.name = fieldName → field.isBusinessIdentifier = false

/-- Cells that are not flagged are as they were. -/
def KeepsUnflagged {α : Type} (flags : List Bool) (old new : List (Masked α)) : Prop :=
  ∀ slot : Nat, flags[slot]? ≠ some true → new[slot]? = old[slot]?

/-- A position of the input `p`, of the masked batch `q` and of the targets `t`. -/
structure Keeps (batch : EncodedBatch) (b s : Nat) (p q : Position) (t : TargetPosition) : Prop where
  ids : q.entityTypeId = p.entityTypeId ∧ q.relationshipId = p.relationshipId ∧
    q.attentionMask = p.attentionMask
  numeric_plain : ∀ slot : Nat, t.numericTargetMask[slot]? = some true →
    PlainField p.entityTypeId (·.numericFields) slot
  categorical_plain : ∀ slot : Nat, t.categoricalTargetMask[slot]? = some true →
    PlainField p.entityTypeId (·.categoricalFields) slot
  datetime_plain : ∀ slot : Nat, t.datetimeTargetMask[slot]? = some true →
    PlainField p.entityTypeId (·.datetimeFields) slot
  uncorrupted : ¬ (t.linkPosition = true ∧ t.linkLabel = 0) →
    KeepsUnflagged t.numericTargetMask p.numeric q.numeric ∧
      KeepsUnflagged t.categoricalTargetMask p.categorical q.categorical ∧
      KeepsUnflagged t.datetimeTargetMask p.datetime q.datetime
  corrupted : t.linkPosition = true → t.linkLabel = 0 → ∃ s' other,
    s ∈ relatedPositions batch b ∧ s' ∈ relatedPositions batch b ∧ s' ≠ s ∧
      batch.cell? b s' = some other ∧ other.entityTypeId ≠ p.entityTypeId ∧
      q.numeric = other.numeric ∧ q.categorical = other.categorical ∧ q.datetime = other.datetime
  target : p.relationshipId = targetRelationshipIndex →
    KeepsUnflagged t.numericTargetMask p.numeric q.numeric ∧
      KeepsUnflagged t.categoricalTargetMask p.categorical q.categorical ∧
      KeepsUnflagged t.datetimeTargetMask p.datetime q.datetime
  padding : p.attentionMask = false → q = p

section

variable {batch : EncodedBatch} {config : MaskingConfig} {draws : Draws}

/-! ## Drawn cells -/

theorem plainField_of_selected {α : Type} {entityIndex slot : Nat} {schema : EntityFieldSchema}
    {names : List String} (hfields : fieldsOf entityIndex = .ok (schema, names)) {draw : Nat → ℚ}
    {fieldNames : EntityFieldSchema → List String} {cells : List (Masked α)}
    (h : selected config draw names (fieldNames schema) cells slot = true) :
    PlainField entityIndex fieldNames slot := by
  obtain ⟨fieldName, _, hname, -, hplain, -⟩ := selected_iff.1 h
  obtain ⟨entity, hentity, hfields⟩ := except_bind_ok.1 hfields
  obtain ⟨schema', hschema, hfields⟩ := except_bind_ok.1 hfields
  obtain ⟨names', hnames, hfields⟩ := except_bind_ok.1 hfields
  cases except_pure_ok.1 hfields
  obtain ⟨ontology, hontology, hnames⟩ := except_bind_ok.1 hnames
  obtain ⟨ontologyEntity, hget, hnames⟩ := except_bind_ok.1 hnames
  cases except_pure_ok.1 hnames
  have hvocab : entityTypeVocab[entityIndex]? = some entity := by
    unfold entityName at hentity
    cases hv : entityTypeVocab[entityIndex]? with
    | none =>
      rw [hv] at hentity
      cases hentity
    | some e =>
      rw [hv] at hentity
      cases hentity
      rfl
  refine ⟨entity, schema, ontology, ontologyEntity, fieldName, hvocab, hschema, hontology, hget, hname,
    fun field hfield hfieldName => ?_⟩
  cases hidentifier : field.isBusinessIdentifier with
  | false => rfl
  | true =>
    refine absurd (List.mem_map.2 ⟨field, ?_, hfieldName⟩) hplain
    simp [hfield, hidentifier]

theorem plainField_of_chosenIn {b s slot : Nat} {p : Position} :
    ((chosenIn config draws b s p).numeric slot = true →
        PlainField p.entityTypeId (·.numericFields) slot) ∧
      ((chosenIn config draws b s p).categorical slot = true →
        PlainField p.entityTypeId (·.categoricalFields) slot) ∧
      ((chosenIn config draws b s p).datetime slot = true →
        PlainField p.entityTypeId (·.datetimeFields) slot) := by
  by_cases hreal : p.attentionMask = true ∧ p.entityTypeId ≠ padEntityIndex
  · cases hfields : fieldsOf p.entityTypeId with
    | error e =>
      rw [chosenIn, if_pos hreal, hfields]
      simp [Chosen.nothing]
    | ok fields =>
      rw [chosenIn, if_pos hreal, hfields]
      exact ⟨plainField_of_selected hfields, plainField_of_selected hfields,
        plainField_of_selected hfields⟩
  · rw [chosenIn, if_neg hreal]
    simp [Chosen.nothing]

theorem keepsUnflagged_hide {α : Type} [Zero α] {chosen : Nat → Bool} {cells : List (Masked α)} :
    KeepsUnflagged (mark chosen (cells.map fun _ => false)) cells (hide chosen cells) := by
  intro slot hflag
  rw [getElem?_hide]
  cases hcell : cells[slot]? with
  | none => rfl
  | some cell =>
    have hlt := (List.getElem?_eq_some_iff.1 hcell).1
    have hchosen : chosen slot ≠ true := fun h => hflag (flagged_iff.2 ⟨h, hlt⟩)
    rw [Option.map_some, if_neg hchosen]

/-! ## Corrupted positions -/

/-- What takes the place of a related record is a related record of another entity type. -/
theorem substitute_eq_some {b s : Nat} {p other : Position} (hp : batch.cell? b s = some p)
    (h : substitute batch config draws b s = some other) :
    s ∈ relatedPositions batch b ∧ ∃ s', s' ∈ relatedPositions batch b ∧ s' ≠ s ∧
      batch.cell? b s' = some other ∧ other.entityTypeId ≠ p.entityTypeId := by
  unfold substitute at h
  by_cases hrelated : s ∈ relatedPositions batch b
  · rw [if_pos hrelated, replacement] at h
    by_cases hdraw : draws.link b s ≥ config.linkCorruptionProbability
    · rw [if_pos hdraw] at h
      cases h
    · rw [if_neg hdraw] at h
      obtain ⟨s', hs', hother⟩ := Option.bind_eq_some_iff.1 h
      have hmem := List.mem_of_getElem? hs'
      rw [crossEntityCandidates, List.mem_filter] at hmem
      have htype : other.entityTypeId ≠ p.entityTypeId := by
        simpa [entityTypeAt, hother, hp] using hmem.2
      refine ⟨hrelated, s', hmem.1, ?_, hother, htype⟩
      rintro rfl
      rw [hp] at hother
      cases hother
      exact htype rfl
  · rw [if_neg hrelated] at h
    cases h

theorem keeps_disguised {b s : Nat} {p : Position} (hp : batch.cell? b s = some p) :
    Keeps batch b s p ((disguised batch config draws b s p).shown p)
      ((disguised batch config draws b s p).targets p) := by
  have hlink : (disguised batch config draws b s p).linkPosition = true ∧
      (disguised batch config draws b s p).linkLabel = 0 ↔
        substitute batch config draws b s ≠ none := by
    by_cases hrelated : s ∈ relatedPositions batch b
    · simp [disguised, hrelated]
    · have hsub : substitute batch config draws b s = none := if_neg hrelated
      simp [disguised, hrelated, hsub]
  have hunflagged : substitute batch config draws b s = none →
      KeepsUnflagged (disguised batch config draws b s p).numericTargetMask p.numeric
          (disguised batch config draws b s p).numeric ∧
        KeepsUnflagged (disguised batch config draws b s p).categoricalTargetMask p.categorical
          (disguised batch config draws b s p).categorical ∧
        KeepsUnflagged (disguised batch config draws b s p).datetimeTargetMask p.datetime
          (disguised batch config draws b s p).datetime := by
    intro hsub
    simp only [disguised, hsub, Option.elim_none]
    exact ⟨keepsUnflagged_hide, keepsUnflagged_hide, keepsUnflagged_hide⟩
  have hunrelated : s ∉ relatedPositions batch b → substitute batch config draws b s = none :=
    fun h => if_neg h
  constructor
  · exact ⟨rfl, rfl, rfl⟩
  · exact fun slot h => plainField_of_chosenIn.1 (flagged_iff.1 h).1
  · exact fun slot h => plainField_of_chosenIn.2.1 (flagged_iff.1 h).1
  · exact fun slot h => plainField_of_chosenIn.2.2 (flagged_iff.1 h).1
  · intro h
    refine hunflagged ?_
    by_contra hsub
    exact h (hlink.2 hsub)
  · intro hposition hlabel
    obtain ⟨other, hother⟩ := Option.ne_none_iff_exists'.1 (hlink.1 ⟨hposition, hlabel⟩)
    obtain ⟨hrelated, s', hs', hne, hentry, htype⟩ := substitute_eq_some hp hother
    refine ⟨s', other, hrelated, hs', hne, hentry, htype, ?_, ?_, ?_⟩
    all_goals simp [disguised, hother, WorkingPosition.shown]
  · intro htarget
    refine hunflagged (hunrelated fun hrelated => ?_)
    obtain ⟨p', hp', -, hne⟩ := mem_relatedPositions.1 hrelated
    rw [hp] at hp'
    cases hp'
    exact hne htarget
  · intro hpadding
    have hsub : substitute batch config draws b s = none := by
      refine hunrelated fun hrelated => ?_
      obtain ⟨p', hp', hattended, -⟩ := mem_relatedPositions.1 hrelated
      rw [hp] at hp'
      cases hp'
      rw [hpadding] at hattended
      cases hattended
    have hchosen : chosenIn config draws b s p = .nothing := by
      refine if_neg fun h => ?_
      rw [hpadding] at h
      cases h.1
    simp only [disguised, WorkingPosition.shown, hsub, hchosen, Chosen.nothing, hide_false,
      Option.elim_none]

end

/-! ## Examples -/

/-- Two inputs have the same example at a place, and the generator answers alike for it. -/
structure SameExample (b : Nat) (batch batch' : EncodedBatch) (draws draws' : Draws) : Prop where
  positions : batch.positions[b]? = batch'.positions[b]?
  numeric : draws.numeric b = draws'.numeric b
  categorical : draws.categorical b = draws'.categorical b
  datetime : draws.datetime b = draws'.datetime b
  link : draws.link b = draws'.link b
  choice : draws.choice b = draws'.choice b
  pair : draws.pair b = draws'.pair b
  sample : draws.sample b = draws'.sample b

namespace SameExample

variable {batch batch' : EncodedBatch} {config : MaskingConfig} {draws draws' : Draws}
  {sets : Dict String (List String)} {b : Nat}

theorem cell? (h : SameExample b batch batch' draws draws') (s : Nat) :
    batch.cell? b s = batch'.cell? b s := by
  rw [EncodedBatch.cell?, EncodedBatch.cell?, Cells.Grid.cell?, Cells.Grid.cell?, h.positions]

theorem realPositions (h : SameExample b batch batch' draws draws') :
    realPositions batch b = Transformer.realPositions batch' b := by
  simp only [Transformer.realPositions, h.positions, h.cell?]

theorem relatedPositions (h : SameExample b batch batch' draws draws') :
    relatedPositions batch b = Transformer.relatedPositions batch' b := by
  simp only [Transformer.relatedPositions, h.realPositions, h.cell?]

theorem entityTypeAt (h : SameExample b batch batch' draws draws') (s : Nat) :
    entityTypeAt batch b s = Transformer.entityTypeAt batch' b s := by
  simp only [Transformer.entityTypeAt, h.cell?]

theorem substitute (h : SameExample b batch batch' draws draws') (s : Nat) :
    substitute batch config draws b s = Transformer.substitute batch' config draws' b s := by
  have hentry : batch.cell? b = batch'.cell? b := funext h.cell?
  simp only [Transformer.substitute, replacement, crossEntityCandidates, h.relatedPositions,
    h.entityTypeAt, hentry, h.link, h.choice]

theorem disguised (h : SameExample b batch batch' draws draws') (s : Nat) (p : Position) :
    disguised batch config draws b s p = Transformer.disguised batch' config draws' b s p := by
  simp only [Transformer.disguised, chosenIn, h.substitute, h.relatedPositions, h.numeric,
    h.categorical, h.datetime]

theorem pairsOf (h : SameExample b batch batch' draws draws') (hsets : protectedSets = .ok sets) :
    pairsOf batch config draws sets b = Transformer.pairsOf batch' config draws' sets b := by
  have hyears : ∀ s, yearsAt batch b s = yearsAt batch' b s := by
    intro s
    simp only [yearsAt, h.cell?]
  have hgroups : byEntity batch b = byEntity batch' b := by
    simp only [byEntity, h.relatedPositions, h.entityTypeAt]
  have hdraw : ∀ w, drawPairs batch config draws b w = drawPairs batch' config draws' b w := by
    intro w
    simp only [drawPairs, drawPair, hyears, hgroups, h.pair, h.sample]
  rw [Transformer.pairsOf, hdraw]
  refine drawPairs_congr fun s => ?_
  rw [Cells.Grid.cell?_mapIdx, Cells.Grid.cell?_mapIdx]
  show (batch.cell? b s).map _ = (batch'.cell? b s).map _
  rw [← h.cell?]
  cases hp : batch.cell? b s with
  | none => rfl
  | some p =>
    have hp' : batch'.cell? b s = some p := by rw [← h.cell?, hp]
    rw [Option.map_some, Option.map_some, finalAt_eq hsets hp, finalAt_eq hsets hp', h.disguised]

end SameExample

section

variable {batch : EncodedBatch} {config : MaskingConfig} {draws : Draws}
  {sets : Dict String (List String)}

theorem fst_of_mem_pairsOf {b : Nat} {pair : Nat × Nat × Nat × Nat}
    (h : pair ∈ pairsOf batch config draws sets b) : pair.1 = b := by
  obtain ⟨group, -, hgroup⟩ := List.mem_filterMap.1 h
  obtain ⟨positions, -, rfl⟩ := Option.map_eq_some_iff.1 hgroup
  rfl

/-- The pairs of an example among all pairs. -/
theorem filter_pairs (n b : Nat) :
    ((List.range n).flatMap (pairsOf batch config draws sets)).filter (·.1 = b) =
      if b < n then pairsOf batch config draws sets b else [] := by
  have hown : (pairsOf batch config draws sets b).filter (·.1 = b) =
      pairsOf batch config draws sets b :=
    List.filter_eq_self.2 fun pair hpair => by simpa using fst_of_mem_pairsOf hpair
  induction n with
  | zero => rfl
  | succ n ih =>
    rw [List.range_succ, List.flatMap_append, List.filter_append, ih, List.flatMap_singleton]
    by_cases hb : n = b
    · subst hb
      simp [hown]
    · have hother : (pairsOf batch config draws sets n).filter (·.1 = b) = [] := by
        rw [List.filter_eq_nil_iff]
        intro pair hpair
        simpa [fst_of_mem_pairsOf hpair] using hb
      have hlt : b < n + 1 ↔ b < n := by omega
      simp [hother, hlt]

/-- At every position nothing but flagged cells and the content of corrupted positions changes, and
what is made of an example depends on this example and on the answers for it only. -/
theorem masking_frame (batch : EncodedBatch) (config : MaskingConfig) (draws : Draws)
    (masked : EncodedBatch) (targets : ReconstructionTargets)
    (h : buildPretrainingBatch batch config draws = .ok (masked, targets)) :
    (∀ b s p, batch.cell? b s = some p → ∃ q t, masked.cell? b s = some q ∧
        targets.cell? b s = some t ∧ Keeps batch b s p q t) ∧
      (∀ b s, batch.cell? b s = none → masked.cell? b s = none ∧ targets.cell? b s = none) ∧
      masked.labels = batch.labels ∧
      ∀ b batch' draws' masked' targets', SameExample b batch batch' draws draws' →
        buildPretrainingBatch batch' config draws' = .ok (masked', targets') →
        (∀ s, masked'.cell? b s = masked.cell? b s ∧ targets'.cell? b s = targets.cell? b s) ∧
          targets'.temporalPairs.filter (·.1 = b) = targets.temporalPairs.filter (·.1 = b) := by
  obtain ⟨sets, hsets, -, -, hpairs, hlabels⟩ := buildPretrainingBatch_ok h
  refine ⟨fun b s p hp => ?_, fun b s hp => ?_, hlabels, ?_⟩
  · obtain ⟨hmasked, htargets⟩ := disguise_ok h b s
    rw [hp] at hmasked htargets
    exact ⟨_, _, hmasked, htargets, keeps_disguised hp⟩
  · obtain ⟨hmasked, htargets⟩ := disguise_ok h b s
    rw [hp] at hmasked htargets
    exact ⟨hmasked, htargets⟩
  · intro b batch' draws' masked' targets' hsame h'
    obtain ⟨sets', hsets', -, -, hpairs', -⟩ := buildPretrainingBatch_ok h'
    rw [hsets] at hsets'
    cases hsets'
    constructor
    · intro s
      obtain ⟨hmasked, htargets⟩ := disguise_ok h b s
      obtain ⟨hmasked', htargets'⟩ := disguise_ok h' b s
      rw [hmasked, htargets, hmasked', htargets', ← hsame.cell?]
      simp only [hsame.disguised, and_self]
    · have hnone : batch'.positions.length ≤ b ↔ batch.positions.length ≤ b := by
        rw [← List.getElem?_eq_none_iff, ← List.getElem?_eq_none_iff, hsame.positions]
      have hlength : b < batch'.positions.length ↔ b < batch.positions.length := by omega
      rw [hpairs, hpairs', filter_pairs, filter_pairs, hsame.pairsOf hsets]
      simp only [hlength]

end

namespace Sample

/-- The vehicle's position is corrupted, the other positions keep all that is not flagged. -/
theorem serviced_framed : ∃ masked targets,
    buildPretrainingBatch serviced {} lowDraws = .ok (masked, targets) ∧
      (∀ b s p, serviced.cell? b s = some p → ∃ q t, masked.cell? b s = some q ∧
        targets.cell? b s = some t ∧ Keeps serviced b s p q t) := by
  obtain ⟨masked, targets, h⟩ := buildPretrainingBatch_isOk knownEntities_serviced {} lowDraws
  exact ⟨masked, targets, h, (masking_frame serviced {} lowDraws masked targets h).1⟩

end Sample

end Transformer

end HermesRpt
