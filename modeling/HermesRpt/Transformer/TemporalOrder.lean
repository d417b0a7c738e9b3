import HermesRpt.Transformer.Frame

/-!
# HermesRpt.Transformer.TemporalOrder

The pairs of records whose order in time is a target. Their candidates are read off the copies, and
their labels off the input.

* `get?_byEntity` : the groups are the related positions of an entity type.
* `drawPair_spec` : a drawn pair is of two positions of the group that show a timestamp.
* `truthful_iff`  : when all the labels are those of the timestamps that are shown.
-/

namespace HermesRpt

namespace Transformer

open Cells (Grid)
open Keyed (Dict)

section

variable {batch : EncodedBatch} {config : MaskingConfig} {draws : Draws}
  {sets : Dict String (List String)}

/-! ## Groups -/

theorem get?_foldl_groups (key : Nat → Option Nat) (l : List Nat) (e : Nat) :
    Dict.get? (l.foldl (fun d s =>
        match key s with
        | some k => Dict.set d k ((Dict.get? d k).getD [] ++ [s])
        | none => d) Keyed.Table.empty) e =
      if l.filter (key · = some e) = [] then none else some (l.filter (key · = some e)) := by
  induction l using List.reverseRecOn with
  | nil => rfl
  | append_singleton l s ih =>
    rw [List.foldl_append, List.foldl_cons, List.foldl_nil, List.filter_append]
    cases hs : key s with
    | none => simpa [hs] using ih
    | some k =>
      simp only
      rw [Dict.get?_set]
      by_cases he : e = k
      · subst he
        rw [if_pos rfl, ih]
        by_cases hnil : l.filter (key · = some e) = []
        · simp [hnil, hs]
        · simp [hnil, hs]
      · rw [if_neg he, ih]
        simp [hs, Ne.symm he]

theorem get?_byEntity (b entity : Nat) :
    (byEntity batch b).get? entity =
      let positions := (relatedPositions batch b).filter (entityTypeAt batch b · = some entity)
      if positions = [] then none else some positions :=
  get?_foldl_groups (entityTypeAt batch b) (relatedPositions batch b) entity

theorem group_eq {b : Nat} {group : Nat × List Nat} (h : group ∈ (byEntity batch b).rows) :
    group.2 = (relatedPositions batch b).filter (entityTypeAt batch b · = some group.1) := by
  have hget : (byEntity batch b).get? group.1 = some group.2 := Dict.get?_eq_some.2 h
  rw [get?_byEntity] at hget
  dsimp only at hget
  split at hget
  · cases hget
  · exact (Option.some.inj hget).symm

/-! ## Pairs -/

/-- The copies at every position of the input. -/
def disguisedCopies (batch : EncodedBatch) (config : MaskingConfig) (draws : Draws) :
    Grid WorkingPosition :=
  batch.positions.mapIdx fun b row => row.mapIdx fun s p => disguised batch config draws b s p

theorem cell?_disguisedCopies (b s : Nat) :
    Grid.cell? (disguisedCopies batch config draws) b s =
      (batch.cell? b s).map (disguised batch config draws b s) :=
  Grid.cell?_mapIdx _ _ _ _

theorem pairsOf_eq (hsets : protectedSets = .ok sets) (b : Nat) :
    pairsOf batch config draws sets b =
      drawPairs batch config draws b (disguisedCopies batch config draws) := by
  refine drawPairs_congr fun s => ?_
  rw [cell?_disguisedCopies, Grid.cell?_mapIdx]
  show (batch.cell? b s).map _ = _
  cases hp : batch.cell? b s with
  | none => rfl
  | some p => rw [Option.map_some, Option.map_some, finalAt_eq hsets hp]

/-- A position of an example has a timestamp in slot 0. -/
def HasTimestamp (batch : EncodedBatch) (b s : Nat) : Prop :=
  ∃ p, batch.cell? b s = some p ∧ timestamped p.datetime = true

theorem mem_temporalCandidates {b s : Nat} {w : Grid WorkingPosition} {group : Nat × List Nat}
    (hgroup : group ∈ (byEntity batch b).rows) (hs : s ∈ temporalCandidates b w group.2) :
    s ∈ relatedPositions batch b ∧ entityTypeAt batch b s = some group.1 ∧
      ∃ position, w.cell? b s = some position ∧ timestamped position.datetime = true := by
  obtain ⟨hposition, hshown⟩ := List.mem_filter.1 hs
  rw [group_eq hgroup] at hposition
  obtain ⟨hrelated, htype⟩ := List.mem_filter.1 hposition
  refine ⟨hrelated, by simpa using htype, ?_⟩
  cases hw : w.cell? b s with
  | none =>
    rw [hw] at hshown
    cases hshown
  | some position =>
    rw [hw] at hshown
    exact ⟨position, rfl, hshown⟩

theorem nodup_temporalCandidates {b : Nat} {w : Grid WorkingPosition} {group : Nat × List Nat}
    (hgroup : group ∈ (byEntity batch b).rows) : (temporalCandidates b w group.2).Nodup := by
  unfold temporalCandidates
  rw [group_eq hgroup]
  exact ((nodup_relatedPositions b).filter _).filter _

/-- A pair is drawn at two different places among at least two candidates. -/
theorem drawPair_ok {b : Nat} {w : Grid WorkingPosition} {group : Nat × List Nat} {p q : Nat}
    (h : drawPair config draws b w group = some (p, q)) :
    ∃ i j : Nat, i ≠ j ∧ (temporalCandidates b w group.2)[i]? = some p ∧
      (temporalCandidates b w group.2)[j]? = some q := by
  unfold drawPair at h
  dsimp only at h
  generalize temporalCandidates b w group.2 = candidates at h ⊢
  by_cases hskip : candidates.length < 2 ∨ draws.pair b group.1 > config.temporalPairProbability
  · rw [if_pos hskip] at h
    cases h
  · rw [if_neg hskip] at h
    have hlength : 2 ≤ candidates.length := by
      by_contra hlt
      exact hskip (.inl (by omega))
    have hne := draws.sample_ne b group.1 candidates.length hlength
    cases hi : candidates[(draws.sample b group.1 candidates.length).1]? with
    | none => simp [hi] at h
    | some posA =>
      cases hj : candidates[(draws.sample b group.1 candidates.length).2]? with
      | none => simp [hi, hj] at h
      | some posB =>
        simp only [hi, hj, Option.some.injEq, Prod.mk.injEq] at h
        obtain ⟨rfl, rfl⟩ := h
        exact ⟨_, _, hne, hi, hj⟩

/-- A drawn pair is of two positions that are related, of the entity type of the group, and show a
timestamp. -/
theorem drawPair_spec {b : Nat} {w : Grid WorkingPosition} {group : Nat × List Nat} {p q : Nat}
    (hgroup : group ∈ (byEntity batch b).rows) (h : drawPair config draws b w group = some (p, q)) :
    p ≠ q ∧ ∀ s, s = p ∨ s = q →
      s ∈ relatedPositions batch b ∧ entityTypeAt batch b s = some group.1 ∧
        ∃ position, w.cell? b s = some position ∧ timestamped position.datetime = true := by
  obtain ⟨i, j, hne, hi, hj⟩ := drawPair_ok h
  constructor
  · rintro rfl
    obtain ⟨hlt, hget⟩ := List.getElem?_eq_some_iff.1 hi
    obtain ⟨hlt', hget'⟩ := List.getElem?_eq_some_iff.1 hj
    exact hne (((nodup_temporalCandidates hgroup).getElem_inj_iff).1 (hget.trans hget'.symm))
  · rintro s (rfl | rfl)
    · exact mem_temporalCandidates hgroup (List.mem_of_getElem? hi)
    · exact mem_temporalCandidates hgroup (List.mem_of_getElem? hj)

theorem mem_temporalPairs {masked : EncodedBatch} {targets : ReconstructionTargets}
    (h : buildPretrainingBatch batch config draws = .ok (masked, targets)) {b p q label : Nat} :
    (b, p, q, label) ∈ targets.temporalPairs ↔
      ∃ group ∈ (byEntity batch b).rows,
        drawPair config draws b (disguisedCopies batch config draws) group = some (p, q) ∧
          label = if yearsAt batch b p < yearsAt batch b q then 1 else 0 := by
  obtain ⟨sets, hsets, -, -, hpairs, -⟩ := buildPretrainingBatch_ok h
  have hown : ∀ n, (b, p, q, label) ∈ pairsOf batch config draws sets n ↔ n = b ∧
      ∃ group ∈ (byEntity batch b).rows,
        drawPair config draws b (disguisedCopies batch config draws) group = some (p, q) ∧
          label = if yearsAt batch b p < yearsAt batch b q then 1 else 0 := by
    intro n
    rw [pairsOf_eq hsets, drawPairs, List.mem_filterMap]
    constructor
    · rintro ⟨group, hgroup, hpair⟩
      obtain ⟨pair, hdrawn, heq⟩ := Option.map_eq_some_iff.1 hpair
      simp only [Prod.mk.injEq] at heq
      obtain ⟨rfl, rfl, rfl, rfl⟩ := heq
      exact ⟨rfl, group, hgroup, hdrawn, rfl⟩
    · rintro ⟨rfl, group, hgroup, hpair, rfl⟩
      exact ⟨group, hgroup, Option.map_eq_some_iff.2 ⟨(p, q), hpair, rfl⟩⟩
  rw [hpairs, List.mem_flatMap]
  simp only [hown, List.mem_range]
  constructor
  · rintro ⟨n, -, -, hdrawn⟩
    exact hdrawn
  · rintro ⟨group, hgroup, hpair, hlabel⟩
    obtain ⟨-, hpositions⟩ := drawPair_spec hgroup hpair
    obtain ⟨hrelated, -⟩ := hpositions p (.inl rfl)
    obtain ⟨position, hp, -⟩ := mem_relatedPositions.1 hrelated
    exact ⟨b, example_lt hp, rfl, group, hgroup, hpair, hlabel⟩

/-! ## What is shown -/

/-- The record whose content a position shows: the one that takes its place, or its own. -/
def shownRecord (batch : EncodedBatch) (config : MaskingConfig) (draws : Draws) (b s : Nat) :
    Option Position := (substitute batch config draws b s).or (batch.cell? b s)

/-- The years feature of the record that a position shows. -/
def yearsShown (batch : EncodedBatch) (config : MaskingConfig) (draws : Draws) (b s : Nat) : ℚ :=
  match shownRecord batch config draws b s with
  | some p => years p.datetime
  | none => 0

/-- A timestamp that is not hidden is as it was. -/
theorem timestamped_hide {chosen : Nat → Bool} {cells : List (Masked (ℚ × ℚ × ℚ))}
    (h : timestamped (hide chosen cells) = true) :
    timestamped cells = true ∧ years (hide chosen cells) = years cells := by
  unfold timestamped at h ⊢
  unfold years
  rw [getElem?_hide] at h ⊢
  cases hcell : cells[0]? with
  | none =>
    rw [hcell] at h
    cases h
  | some cell =>
    rw [hcell] at h
    cases hchosen : chosen 0 with
    | true =>
      simp [hchosen, Masked.unused] at h
    | false =>
      simp [hchosen] at h
      simp [h]

theorem hasTimestamp_of_shown {b s : Nat} {p : Position} (hp : batch.cell? b s = some p)
    (hsub : substitute batch config draws b s = none)
    (h : timestamped (disguised batch config draws b s p).datetime = true) : HasTimestamp batch b s := by
  simp only [disguised, hsub, Option.elim_none] at h
  exact ⟨p, hp, (timestamped_hide h).1⟩

/-- The years feature in the masked batch is that of the record that is shown. -/
theorem yearsAt_masked {masked : EncodedBatch} {targets : ReconstructionTargets}
    (hbuild : buildPretrainingBatch batch config draws = .ok (masked, targets)) {b s : Nat}
    {p : Position} (hp : batch.cell? b s = some p)
    (h : timestamped (disguised batch config draws b s p).datetime = true) :
    yearsAt masked b s = yearsShown batch config draws b s := by
  have hmasked := (disguise_ok hbuild b s).1
  rw [hp, Option.map_some] at hmasked
  simp only [yearsAt, hmasked, yearsShown, shownRecord, WorkingPosition.shown]
  cases hsub : substitute batch config draws b s with
  | some other => simp [disguised, hsub]
  | none =>
    simp only [disguised, hsub, Option.elim_none] at h ⊢
    rw [(timestamped_hide h).2]
    simp [hp]

/-! ## Labels -/

/-- Every pair is of two related positions of one entity type, with a timestamp in the input and in
the masked batch, and its label is that of the timestamps in the masked batch. -/
def Truthful (batch masked : EncodedBatch) (targets : ReconstructionTargets) : Prop :=
  ∀ b p q label, (b, p, q, label) ∈ targets.temporalPairs →
    p ≠ q ∧ p ∈ relatedPositions batch b ∧ q ∈ relatedPositions batch b ∧
      entityTypeAt batch b p = entityTypeAt batch b q ∧
      HasTimestamp batch b p ∧ HasTimestamp batch b q ∧
      HasTimestamp masked b p ∧ HasTimestamp masked b q ∧
      (label = 1 ↔ yearsAt masked b p < yearsAt masked b q)

/-- What a drawn position shows, in the input's terms. -/
theorem drawn_shown {masked : EncodedBatch} {targets : ReconstructionTargets}
    (hbuild : buildPretrainingBatch batch config draws = .ok (masked, targets)) {b s : Nat}
    {position : WorkingPosition}
    (hshown : Grid.cell? (disguisedCopies batch config draws) b s = some position)
    (hts : timestamped position.datetime = true) :
    HasTimestamp masked b s ∧ yearsAt masked b s = yearsShown batch config draws b s ∧
      (substitute batch config draws b s = none →
        HasTimestamp batch b s ∧ yearsShown batch config draws b s = yearsAt batch b s) := by
  rw [cell?_disguisedCopies] at hshown
  obtain ⟨p, hp, rfl⟩ := Option.map_eq_some_iff.1 hshown
  have hmasked := (disguise_ok hbuild b s).1
  rw [hp, Option.map_some] at hmasked
  refine ⟨⟨_, hmasked, hts⟩, yearsAt_masked hbuild hp hts, fun hsub => ?_⟩
  refine ⟨hasTimestamp_of_shown hp hsub hts, ?_⟩
  rw [yearsShown, shownRecord, hsub, Option.none_or]
  rfl

/-- The labels are truthful exactly when the drawn pairs that have a corrupted position are of records
with timestamps of their own, in the order of those that are shown. -/
theorem truthful_iff (masked : EncodedBatch) (targets : ReconstructionTargets)
    (hbuild : buildPretrainingBatch batch config draws = .ok (masked, targets)) :
    Truthful batch masked targets ↔
      ∀ b p q, ∀ group ∈ (byEntity batch b).rows,
        drawPair config draws b (disguisedCopies batch config draws) group = some (p, q) →
        (substitute batch config draws b p ≠ none ∨ substitute batch config draws b q ≠ none) →
        HasTimestamp batch b p ∧ HasTimestamp batch b q ∧
          (yearsAt batch b p < yearsAt batch b q ↔
            yearsShown batch config draws b p < yearsShown batch config draws b q) := by
  constructor
  · intro htruthful b p q group hgroup hpair _
    obtain ⟨-, hpositions⟩ := drawPair_spec hgroup hpair
    obtain ⟨-, -, positionP, hp, htsP⟩ := hpositions p (.inl rfl)
    obtain ⟨-, -, positionQ, hq, htsQ⟩ := hpositions q (.inr rfl)
    obtain ⟨-, hyearsP, -⟩ := drawn_shown hbuild hp htsP
    obtain ⟨-, hyearsQ, -⟩ := drawn_shown hbuild hq htsQ
    have hmem := (mem_temporalPairs hbuild).2 ⟨group, hgroup, hpair, rfl⟩
    obtain ⟨-, -, -, -, hownP, hownQ, -, -, hlabel⟩ := htruthful b p q _ hmem
    refine ⟨hownP, hownQ, ?_⟩
    rw [← hyearsP, ← hyearsQ, ← hlabel]
    by_cases hlt : yearsAt batch b p < yearsAt batch b q
    · simp [hlt]
    · simp [hlt]
  · intro hcondition b p q label hmem
    obtain ⟨group, hgroup, hpair, rfl⟩ := (mem_temporalPairs hbuild).1 hmem
    obtain ⟨hne, hpositions⟩ := drawPair_spec hgroup hpair
    obtain ⟨hrelatedP, htypeP, positionP, hp, htsP⟩ := hpositions p (.inl rfl)
    obtain ⟨hrelatedQ, htypeQ, positionQ, hq, htsQ⟩ := hpositions q (.inr rfl)
    obtain ⟨hmaskedP, hyearsP, hkeptP⟩ := drawn_shown hbuild hp htsP
    obtain ⟨hmaskedQ, hyearsQ, hkeptQ⟩ := drawn_shown hbuild hq htsQ
    have hown : HasTimestamp batch b p ∧ HasTimestamp batch b q ∧
        (yearsAt batch b p < yearsAt batch b q ↔
          yearsShown batch config draws b p < yearsShown batch config draws b q) := by
      by_cases hcorrupted : substitute batch config draws b p ≠ none ∨
          substitute batch config draws b q ≠ none
      · exact hcondition b p q group hgroup hpair hcorrupted
      · obtain ⟨hsubP, hsubQ⟩ := not_or.1 hcorrupted
        obtain ⟨hownP, hsameP⟩ := hkeptP (not_not.1 hsubP)
        obtain ⟨hownQ, hsameQ⟩ := hkeptQ (not_not.1 hsubQ)
        exact ⟨hownP, hownQ, by rw [hsameP, hsameQ]⟩
    obtain ⟨hownP, hownQ, horder⟩ := hown
    refine ⟨hne, hrelatedP, hrelatedQ, htypeP.trans htypeQ.symm, hownP, hownQ, hmaskedP, hmaskedQ, ?_⟩
    rw [hyearsP, hyearsQ, ← horder]
    by_cases hlt : yearsAt batch b p < yearsAt batch b q
    · simp [hlt]
    · simp [hlt]

end

namespace Sample

def earlyMaintenance : Position :=
  { maintenancePosition with datetime := ⟨(0, 0, 3 / 10), true⟩ :: List.replicate 3 .unused }

/-- One example with two positions for each relation, and two maintenance events. -/
def twiceServiced : EncodedBatch where
  positions := [[tripPosition, vehiclePosition] ++ List.replicate 7 .padding ++
    [earlyMaintenance, maintenancePosition] ++ List.replicate 2 .padding]
  labels := none

theorem knownEntities_twiceServiced : KnownEntities twiceServiced :=
  knownEntities_of_forall (by decide +kernel)

theorem maintenance_group : (3, [9, 10]) ∈ (byEntity twiceServiced 0).rows := by decide +kernel

theorem maintenance_pair :
    drawPair {} lowDraws 0 (disguisedCopies twiceServiced {} lowDraws) (3, [9, 10]) = some (9, 10) := by
  decide +kernel

theorem maintenance_order : yearsAt twiceServiced 0 9 < yearsAt twiceServiced 0 10 := by decide +kernel

/-- Both events show the vehicle's date. -/
theorem maintenance_shown :
    yearsShown twiceServiced {} lowDraws 0 9 = yearsShown twiceServiced {} lowDraws 0 10 := by
  decide +kernel

/-- The pair is labelled as if the first came earlier, and both show one date. -/
theorem twiceServiced_label_untruthful : ∃ masked targets,
    buildPretrainingBatch twiceServiced {} lowDraws = .ok (masked, targets) ∧
      ¬ Truthful twiceServiced masked targets := by
  obtain ⟨masked, targets, h⟩ := buildPretrainingBatch_isOk knownEntities_twiceServiced {} lowDraws
  refine ⟨masked, targets, h, fun htruthful => ?_⟩
  have hmem := (mem_temporalPairs h).2 ⟨_, maintenance_group, maintenance_pair, rfl⟩
  rw [if_pos maintenance_order] at hmem
  obtain ⟨-, hpositions⟩ := drawPair_spec maintenance_group maintenance_pair
  obtain ⟨-, -, _, hearly, htsEarly⟩ := hpositions 9 (.inl rfl)
  obtain ⟨-, -, _, hlate, htsLate⟩ := hpositions 10 (.inr rfl)
  obtain ⟨-, hyearsEarly, -⟩ := drawn_shown h hearly htsEarly
  obtain ⟨-, hyearsLate, -⟩ := drawn_shown h hlate htsLate
  obtain ⟨-, -, -, -, -, -, -, -, hlabel⟩ := htruthful 0 9 10 1 hmem
  have hlt := hlabel.1 rfl
  rw [hyearsEarly, hyearsLate, maintenance_shown] at hlt
  exact lt_irrefl _ hlt

theorem twiceServiced_labels_truthful : ∃ masked targets,
    buildPretrainingBatch twiceServiced { linkCorruptionProbability := 0 } lowDraws =
        .ok (masked, targets) ∧ Truthful twiceServiced masked targets := by
  obtain ⟨masked, targets, h⟩ := buildPretrainingBatch_isOk knownEntities_twiceServiced
    { linkCorruptionProbability := 0 } lowDraws
  refine ⟨masked, targets, h, (truthful_iff masked targets h).2 ?_⟩
  intro b p q group _ _ hcorrupted
  rcases hcorrupted with hp | hq
  · exact absurd (substitute_of_no_corruption twiceServiced b p) hp
  · exact absurd (substitute_of_no_corruption twiceServiced b q) hq

end Sample

end Transformer

end HermesRpt
