import HermesRpt.Transformer.Pretraining

/-!
# HermesRpt.Transformer.Disguise

What the loops of `build_pretraining_batch` leave at every position.

* `maskAt`, `corruptAt` : what the two loops do to the copies at one position.
* `finalAt` : the copies at a position after both of them.
* `buildPretrainingBatch_ok` : the masked batch, the targets and the pairs, position by position.
-/

namespace HermesRpt

namespace Transformer

open Cells (Grid)
open Effect
open Keyed (Dict)

section

variable {batch : EncodedBatch} {config : MaskingConfig} {draws : Draws}

/-! ## Positions -/

theorem lt_of_cell? {b s : Nat} {p : Position} (h : batch.cell? b s = some p) :
    s < (batch.positions[b]?.getD []).length := by
  rw [EncodedBatch.cell?, Grid.cell?] at h
  cases hrow : batch.positions[b]? with
  | none => simp [hrow] at h
  | some row =>
    simp only [hrow, Option.bind_some] at h
    exact (List.getElem?_eq_some_iff.1 h).1

theorem mem_realPositions {b s : Nat} :
    s ∈ realPositions batch b ↔ ∃ p, batch.cell? b s = some p ∧ p.attentionMask = true := by
  rw [realPositions, List.mem_filter, List.mem_range]
  constructor
  · rintro ⟨-, h⟩
    cases hp : batch.cell? b s with
    | none =>
      rw [hp] at h
      cases h
    | some p =>
      rw [hp] at h
      exact ⟨p, rfl, h⟩
  · rintro ⟨p, hp, hattended⟩
    exact ⟨lt_of_cell? hp, by simp [hp, hattended]⟩

theorem mem_relatedPositions {b s : Nat} :
    s ∈ relatedPositions batch b ↔ ∃ p, batch.cell? b s = some p ∧ p.attentionMask = true ∧
      p.relationshipId ≠ targetRelationshipIndex := by
  rw [relatedPositions, List.mem_filter, mem_realPositions]
  constructor
  · rintro ⟨⟨p, hp, hattended⟩, h⟩
    exact ⟨p, hp, hattended, by simpa [hp] using h⟩
  · rintro ⟨p, hp, hattended, h⟩
    exact ⟨⟨p, hp, hattended⟩, by simpa [hp] using h⟩

theorem nodup_realPositions (b : Nat) : (realPositions batch b).Nodup :=
  List.nodup_range.filter _

theorem nodup_relatedPositions (b : Nat) : (relatedPositions batch b).Nodup :=
  (nodup_realPositions b).filter _

end

section

variable (batch : EncodedBatch) (config : MaskingConfig) (draws : Draws)
  (sets : Dict String (List String))

/-! ## One example -/

/-- What the masking loop does at a position. -/
def maskAt (b s : Nat) (w : WorkingPosition) : WorkingPosition :=
  match batch.cell? b s with
  | none => w
  | some original =>
    if original.entityTypeId = padEntityIndex then w
    else
      match maskableFields sets original.entityTypeId with
      | .error _ => w
      | .ok (schema, entityProtected) =>
        maskPosition config draws b s schema entityProtected original w

/-- What the corruption loop does at a position. -/
def corruptAt (b s : Nat) (w : WorkingPosition) : WorkingPosition :=
  match replacement batch config draws b s with
  | none => { w with linkPosition := true, linkLabel := 1 }
  | some other => { w with linkPosition := true, linkLabel := 1 }.replaceContent other

/-- The copies at a position after both loops. -/
def finalAt (b s : Nat) (w : WorkingPosition) : WorkingPosition :=
  let masked := if s ∈ realPositions batch b then maskAt batch config draws sets b s w else w
  if s ∈ relatedPositions batch b then corruptAt batch config draws b s masked else masked

/-- The pairs of an example, by what its positions hold after both loops. -/
def pairsOf (b : Nat) : List (Nat × Nat × Nat × Nat) :=
  drawPairs batch config draws b
    (batch.positions.mapIdx fun i row => row.mapIdx fun s p =>
      finalAt batch config draws sets i s (.clone p))

end

section

variable {batch : EncodedBatch} {config : MaskingConfig} {draws : Draws}
  {sets : Dict String (List String)}

theorem maskStep_ok {b s : Nat} {w w' : Grid WorkingPosition}
    (h : maskStep batch config draws sets b w s = .ok w') :
    w' = w.modify b s (maskAt batch config draws sets b s) := by
  have hskip : w = w.modify b s fun a => a := (Grid.modify_id w b s).symm
  cases hp : batch.cell? b s with
  | none =>
    have hat : maskAt batch config draws sets b s = fun a => a := by
      funext a
      simp only [maskAt, hp]
    simp only [maskStep, hp, Except.ok.injEq] at h
    rw [hat, ← h]
    exact hskip
  | some original =>
    simp only [maskStep, hp] at h
    by_cases hpad : original.entityTypeId = padEntityIndex
    · have hat : maskAt batch config draws sets b s = fun a => a := by
        funext a
        simp only [maskAt, hp, if_pos hpad]
      rw [if_pos hpad] at h
      cases h
      rw [hat]
      exact hskip
    · rw [if_neg hpad] at h
      cases hfields : maskableFields sets original.entityTypeId with
      | error e =>
        rw [hfields] at h
        cases h
      | ok fields =>
        have hat : maskAt batch config draws sets b s =
            maskPosition config draws b s fields.1 fields.2 original := by
          funext a
          simp only [maskAt, hp, if_neg hpad, hfields]
        rw [hfields] at h
        cases h
        rw [hat]

theorem cell?_maskExample {b : Nat} {w w' : Grid WorkingPosition}
    (h : maskExample batch config draws sets b w = .ok w') (i j : Nat) :
    w'.cell? i j = (w.cell? i j).map fun a =>
      if i = b ∧ j ∈ realPositions batch b then maskAt batch config draws sets b j a else a := by
  have hfold := Cells.foldlM_eq_foldl (fun w s w' => maskStep_ok) h
  rw [hfold]
  exact Grid.cell?_foldl_modify (nodup_realPositions b) w b (maskAt batch config draws sets b) i j

theorem corruptStep_eq (b : Nat) (w : Grid WorkingPosition) (s : Nat) :
    corruptStep batch config draws b w s = w.modify b s (corruptAt batch config draws b s) := by
  cases hother : replacement batch config draws b s with
  | none =>
    have hat : corruptAt batch config draws b s =
        fun position => { position with linkPosition := true, linkLabel := 1 } := by
      funext a
      simp only [corruptAt, hother]
    simp only [corruptStep, hother, hat]
  | some other =>
    have hat : corruptAt batch config draws b s = fun position =>
        { position with linkPosition := true, linkLabel := 1 }.replaceContent other := by
      funext a
      simp only [corruptAt, hother]
    simp only [corruptStep, hother, hat]
    exact Grid.modify_modify w b s _ _

theorem cell?_corruptExample (b : Nat) (w : Grid WorkingPosition) (i j : Nat) :
    (corruptExample batch config draws b w).cell? i j = (w.cell? i j).map fun a =>
      if i = b ∧ j ∈ relatedPositions batch b then corruptAt batch config draws b j a else a := by
  have hstep : corruptStep batch config draws b = fun w s =>
      w.modify b s (corruptAt batch config draws b s) := by
    funext w s
    exact corruptStep_eq b w s
  rw [corruptExample, hstep]
  exact Grid.cell?_foldl_modify (nodup_relatedPositions b) w b (corruptAt batch config draws b) i j

/-- The loops of an example write its positions only. -/
theorem cell?_pretrainExample {b : Nat} {w w' : Working}
    (h : pretrainExample batch config draws sets w b = .ok w') (i j : Nat) :
    w'.copies.cell? i j = (w.copies.cell? i j).map fun a =>
      if i = b then finalAt batch config draws sets b j a else a := by
  obtain ⟨masked, hmask, h⟩ := except_bind_ok.1 h
  cases h
  show (corruptExample batch config draws b masked).cell? i j = _
  rw [cell?_corruptExample, cell?_maskExample hmask, Option.map_map]
  congr 1
  funext a
  by_cases hi : i = b
  · simp [hi, finalAt]
  · simp [hi]

/-- The pairs of an example depend on the copies of its own positions only. -/
theorem drawPairs_congr {b : Nat} {w w' : Grid WorkingPosition}
    (h : ∀ j, w.cell? b j = w'.cell? b j) :
    drawPairs batch config draws b w = drawPairs batch config draws b w' := by
  have hcandidates : ∀ positions, temporalCandidates b w positions = temporalCandidates b w' positions := by
    intro positions
    simp only [temporalCandidates, h]
  simp only [drawPairs, drawPair, hcandidates]

/-! ## The batch -/

/-- The copies and the pairs after some examples. -/
def Progress (batch : EncodedBatch) (config : MaskingConfig) (draws : Draws)
    (sets : Dict String (List String)) (k : Nat) (w : Working) : Prop :=
  (∀ b s, w.copies.cell? b s = (batch.cell? b s).map fun p =>
    if b < k then finalAt batch config draws sets b s (.clone p) else .clone p) ∧
  w.temporalPairs = (List.range k).flatMap (pairsOf batch config draws sets)

theorem progress_zero : Progress batch config draws sets 0
    { copies := batch.positions.map (List.map WorkingPosition.clone), temporalPairs := [] } := by
  refine ⟨fun b s => ?_, rfl⟩
  simp only [Nat.not_lt_zero, if_false]
  exact Grid.cell?_map _ _ _ _

theorem progress_succ {k : Nat} {w w' : Working} (hw : Progress batch config draws sets k w)
    (h : pretrainExample batch config draws sets w k = .ok w') :
    Progress batch config draws sets (k + 1) w' := by
  have hcopies : ∀ b s, w'.copies.cell? b s = (batch.cell? b s).map fun p =>
      if b < k + 1 then finalAt batch config draws sets b s (.clone p) else .clone p := by
    intro b s
    rw [cell?_pretrainExample h, hw.1, Option.map_map]
    congr 1
    funext p
    by_cases hb : b = k
    · subst hb
      simp
    · have hlt : b < k + 1 ↔ b < k := by omega
      simp [hb, hlt]
  have hpairs : w'.temporalPairs = w.temporalPairs ++ drawPairs batch config draws k w'.copies := by
    obtain ⟨masked, -, h⟩ := except_bind_ok.1 h
    cases h
    rfl
  have hown : drawPairs batch config draws k w'.copies = pairsOf batch config draws sets k := by
    refine drawPairs_congr fun j => ?_
    rw [hcopies, Grid.cell?_mapIdx]
    simp only [Nat.lt_succ_self, if_true]
    rfl
  refine ⟨hcopies, ?_⟩
  rw [hpairs, hown, hw.2, List.range_succ, List.flatMap_append]
  simp

theorem example_lt {b s : Nat} {p : Position} (h : batch.cell? b s = some p) :
    b < batch.positions.length := by
  rw [EncodedBatch.cell?, Grid.cell?] at h
  cases hrow : batch.positions[b]? with
  | none => simp [hrow] at h
  | some row => exact (List.getElem?_eq_some_iff.1 hrow).1

/-- The masked batch and the targets, position by position, and the pairs, example by example. -/
theorem buildPretrainingBatch_ok {masked : EncodedBatch} {targets : ReconstructionTargets}
    (h : buildPretrainingBatch batch config draws = .ok (masked, targets)) :
    ∃ sets, protectedSets = .ok sets ∧
      (∀ b s, masked.cell? b s = (batch.cell? b s).map fun p =>
        (finalAt batch config draws sets b s (.clone p)).shown p) ∧
      (∀ b s, targets.cell? b s = (batch.cell? b s).map fun p =>
        (finalAt batch config draws sets b s (.clone p)).targets p) ∧
      targets.temporalPairs =
        (List.range batch.positions.length).flatMap (pairsOf batch config draws sets) ∧
      masked.labels = batch.labels := by
  obtain ⟨sets, hsets, h⟩ := except_bind_ok.1 h
  obtain ⟨w, hfold, h⟩ := except_bind_ok.1 h
  cases h
  have hw := Cells.foldlM_range progress_zero (fun k t t' => progress_succ) hfold
  have hentry : ∀ b s, w.copies.cell? b s = (batch.cell? b s).map fun p =>
      finalAt batch config draws sets b s (.clone p) := by
    intro b s
    rw [hw.1]
    cases hp : batch.cell? b s with
    | none => rfl
    | some p => simp [example_lt hp]
  refine ⟨sets, hsets, fun b s => ?_, fun b s => ?_, hw.2, rfl⟩
  · show Grid.cell? (List.zipWith (List.zipWith WorkingPosition.shown) batch.positions w.copies) b s = _
    rw [Grid.cell?_zipWith, hentry, EncodedBatch.cell?]
    cases Grid.cell? batch.positions b s <;> rfl
  · show Grid.cell? (List.zipWith (List.zipWith WorkingPosition.targets) batch.positions w.copies) b s = _
    rw [Grid.cell?_zipWith, hentry, EncodedBatch.cell?]
    cases Grid.cell? batch.positions b s <;> rfl

end

end Transformer

end HermesRpt
