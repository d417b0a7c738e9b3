import HermesRpt.Lib.Grid
import HermesRpt.Ontology.V1
import HermesRpt.Transformer.Encoding

/-!
# HermesRpt.Transformer.Pretraining

`build_pretraining_batch`: cells are masked, links corrupted and pairs of records drawn, one example
after the other, in working copies of the tensors of an encoded batch.

* `Draws` : what the random generator answers at the places that ask it.
* `maskExample`, `corruptExample`, `drawPairs` : the three loops over the positions of one example.
* `buildPretrainingBatch` : the loops for every example, and the batch and targets they leave.
-/

namespace HermesRpt

namespace Transformer

open Cells (Grid)
open Keyed (Dict)

/-- `_TARGET_RELATIONSHIP_INDEX` -/
def targetRelationshipIndex : Nat := relationshipVocab.idxOf "__target__"

/-- `_PAD_ENTITY_INDEX` -/
def padEntityIndex : Nat := entityTypeVocab.idxOf "__pad__"

structure MaskingConfig where
  maskProbability : ℚ := 1 / 5
  linkCorruptionProbability : ℚ := 3 / 10
  temporalPairProbability : ℚ := 1 / 2

/-- The answers of the random generator. No place asks twice in one run, so a run of the generator
from any seed is one of these. -/
structure Draws where
  /-- `rng.random()` for a cell of an example, a position and a slot. -/
  numeric : Nat → Nat → Nat → ℚ
  categorical : Nat → Nat → Nat → ℚ
  datetime : Nat → Nat → Nat → ℚ
  /-- `rng.random()` for the link of a position. -/
  link : Nat → Nat → ℚ
  /-- `rng.choice` for a position, as an index among so many candidates. -/
  choice : Nat → Nat → Nat → Nat
  choice_lt : ∀ b s n, 0 < n → choice b s n < n
  /-- `rng.random()` for an entity type. -/
  pair : Nat → Nat → ℚ
  /-- `rng.sample` of two, for an entity type, as indices among so many candidates. -/
  sample : Nat → Nat → Nat → Nat × Nat
  sample_lt : ∀ b entity n, 2 ≤ n → (sample b entity n).1 < n ∧ (sample b entity n).2 < n
  sample_ne : ∀ b entity n, 2 ≤ n → (sample b entity n).1 ≠ (sample b entity n).2

def protectedFieldNames (entity : String) : Except PyError (List String) := do
  let ontology ← Ontology.getOntology Ontology.defaultOntologyVersion
  let ontologyEntity ← ontology.getEntity entity
  return (ontologyEntity.fields.filter (·.isBusinessIdentifier)).map (·.name)

/-- `_protected_sets` -/
def protectedSets : Except PyError (Dict String (List String)) := do
  let sets ← entityFieldSchemas.mapM fun schema => do
    return (schema.entity, ← protectedFieldNames schema.entity)
  return Keyed.Dict.ofList sets

/-- What the working copies and the targets hold at one position. -/
structure WorkingPosition where
  numeric : List (Masked ℚ)
  categorical : List (Masked Int)
  datetime : List (Masked (ℚ × ℚ × ℚ))
  numericTargetMask : List Bool
  categoricalTargetMask : List Bool
  datetimeTargetMask : List Bool
  linkPosition : Bool
  linkLabel : ℚ

/-- The copies before the loops. -/
def WorkingPosition.clone (p : Position) : WorkingPosition where
  numeric := p.numeric
  categorical := p.categorical
  datetime := p.datetime
  numericTargetMask := p.numeric.map fun _ => false
  categoricalTargetMask := p.categorical.map fun _ => false
  datetimeTargetMask := p.datetime.map fun _ => false
  linkPosition := false
  linkLabel := 0

section

variable (batch : EncodedBatch) (config : MaskingConfig) (draws : Draws)

def EncodedBatch.cell? (b s : Nat) : Option Position := Grid.cell? batch.positions b s

/-- The attended positions of an example. -/
def realPositions (b : Nat) : List Nat :=
  (List.range (batch.positions[b]?.getD []).length).filter fun s =>
    (batch.cell? b s).any (·.attentionMask)

def relatedPositions (b : Nat) : List Nat :=
  (realPositions batch b).filter fun s =>
    (batch.cell? b s).any (·.relationshipId ≠ targetRelationshipIndex)

/-! ## Masking -/

/-- A cell that is drawn as a target: the field is not protected, the cell is present, and the draw
is below the probability. -/
def selected {α : Type} (draw : Nat → ℚ) (protectedNames : List String) (fieldNames : List String)
    (cells : List (Masked α)) (slot : Nat) : Bool :=
  match fieldNames[slot]?, cells[slot]? with
  | some fieldName, some cell =>
    !(decide (fieldName ∈ protectedNames) || !cell.mask) && decide (draw slot < config.maskProbability)
  | _, _ => false

def hide {α : Type} [Zero α] (chosen : Nat → Bool) (cells : List (Masked α)) : List (Masked α) :=
  cells.mapIdx fun slot cell => if chosen slot then .unused else cell

def mark (chosen : Nat → Bool) (flags : List Bool) : List Bool :=
  flags.mapIdx fun slot flag => if chosen slot then true else flag

/-- The cells of a position of an entity with these fields. -/
def maskPosition (b s : Nat) (schema : EntityFieldSchema) (protectedNames : List String)
    (original : Position) (w : WorkingPosition) : WorkingPosition :=
  let numericChosen := selected config (draws.numeric b s) protectedNames schema.numericFields
    original.numeric
  let categoricalChosen := selected config (draws.categorical b s) protectedNames
    schema.categoricalFields original.categorical
  let datetimeChosen := selected config (draws.datetime b s) protectedNames schema.datetimeFields
    original.datetime
  { w with
    numeric := hide numericChosen w.numeric
    categorical := hide categoricalChosen w.categorical
    datetime := hide datetimeChosen w.datetime
    numericTargetMask := mark numericChosen w.numericTargetMask
    categoricalTargetMask := mark categoricalChosen w.categoricalTargetMask
    datetimeTargetMask := mark datetimeChosen w.datetimeTargetMask }

/-- `ENTITY_TYPE_VOCAB[entity_index]` -/
def entityName (entityIndex : Nat) : Except PyError String :=
  match entityTypeVocab[entityIndex]? with
  | some entity => .ok entity
  | none => .error ⟨.IndexError, "tuple index out of range"⟩

/-- The fields of an entity type, and the protected ones. -/
def maskableFields (sets : Dict String (List String)) (entityIndex : Nat) :
    Except PyError (EntityFieldSchema × List String) := do
  let entity ← entityName entityIndex
  let schema ← entityFieldSchema entity
  match sets.get? entity with
  | some entityProtected => return (schema, entityProtected)
  | none => .error ⟨.KeyError, reprStr entity⟩

def maskStep (sets : Dict String (List String)) (b : Nat) (w : Grid WorkingPosition) (s : Nat) :
    Except PyError (Grid WorkingPosition) :=
  match batch.cell? b s with
  | none => .ok w
  | some original =>
    if original.entityTypeId = padEntityIndex then .ok w
    else do
      let (schema, entityProtected) ← maskableFields sets original.entityTypeId
      return w.modify b s (maskPosition config draws b s schema entityProtected original)

def maskExample (sets : Dict String (List String)) (b : Nat) (w : Grid WorkingPosition) :
    Except PyError (Grid WorkingPosition) :=
  (realPositions batch b).foldlM (maskStep batch config draws sets b) w

/-! ## Link corruption -/

def entityTypeAt (b s : Nat) : Option Nat := (batch.cell? b s).map (·.entityTypeId)

def crossEntityCandidates (b s : Nat) : List Nat :=
  (relatedPositions batch b).filter fun p => entityTypeAt batch b p ≠ entityTypeAt batch b s

/-- The content of another record in the place of a position's own. -/
def WorkingPosition.replaceContent (other : Position) (w : WorkingPosition) : WorkingPosition :=
  { w with
    numeric := other.numeric, categorical := other.categorical, datetime := other.datetime,
    linkLabel := 0 }

/-- The record that takes the place of a position's own, when its link is corrupted. -/
def replacement (b s : Nat) : Option Position :=
  if draws.link b s ≥ config.linkCorruptionProbability then none
  else
    let candidates := crossEntityCandidates batch b s
    candidates[draws.choice b s candidates.length]?.bind (batch.cell? b)

def corruptStep (b : Nat) (w : Grid WorkingPosition) (s : Nat) : Grid WorkingPosition :=
  let w := w.modify b s fun position => { position with linkPosition := true, linkLabel := 1 }
  match replacement batch config draws b s with
  | none => w
  | some other => w.modify b s (·.replaceContent other)

def corruptExample (b : Nat) (w : Grid WorkingPosition) : Grid WorkingPosition :=
  (relatedPositions batch b).foldl (corruptStep batch config draws b) w

/-! ## Temporal pairs -/

/-- `by_entity`: the related positions of each entity type. -/
def byEntity (b : Nat) : Dict Nat (List Nat) :=
  (relatedPositions batch b).foldl (fun d s =>
    match entityTypeAt batch b s with
    | some entity => d.set entity ((d.get? entity).getD [] ++ [s])
    | none => d) Keyed.Table.empty

/-- `datetime_mask[b, s, 0]` -/
def timestamped (cells : List (Masked (ℚ × ℚ × ℚ))) : Bool := cells[0]?.any (·.mask)

/-- The years feature of slot 0; the hour and the day of the week come around again. -/
def years (cells : List (Masked (ℚ × ℚ × ℚ))) : ℚ :=
  match cells[0]? with
  | some cell => cell.value.2.2
  | none => 0

def yearsAt (b s : Nat) : ℚ :=
  match batch.cell? b s with
  | some p => years p.datetime
  | none => 0

def temporalCandidates (b : Nat) (w : Grid WorkingPosition) (positions : List Nat) : List Nat :=
  positions.filter fun s => (w.cell? b s).any (timestamped ·.datetime)

/-- The pair that is drawn for an entity type, if any. -/
def drawPair (b : Nat) (w : Grid WorkingPosition) (group : Nat × List Nat) : Option (Nat × Nat) :=
  let candidates := temporalCandidates b w group.2
  if candidates.length < 2 ∨ draws.pair b group.1 > config.temporalPairProbability then none
  else
    let (i, j) := draws.sample b group.1 candidates.length
    match candidates[i]?, candidates[j]? with
    | some posA, some posB => some (posA, posB)
    | _, _ => none

def drawPairs (b : Nat) (w : Grid WorkingPosition) : List (Nat × Nat × Nat × Nat) :=
  (byEntity batch b).rows.filterMap fun group =>
    (drawPair config draws b w group).map fun pair =>
      (b, pair.1, pair.2, if yearsAt batch b pair.1 < yearsAt batch b pair.2 then 1 else 0)

/-! ## The batch -/

/-- The working copies and the pairs so far. -/
structure Working where
  copies : Grid WorkingPosition
  temporalPairs : List (Nat × Nat × Nat × Nat)

def pretrainExample (sets : Dict String (List String)) (w : Working) (b : Nat) :
    Except PyError Working := do
  let masked ← maskExample batch config draws sets b w.copies
  let copies := corruptExample batch config draws b masked
  return { copies, temporalPairs := w.temporalPairs ++ drawPairs batch config draws b copies }

/-- The targets at one position. -/
structure TargetPosition where
  numericTargetMask : List Bool
  numericTargets : List (Masked ℚ)
  categoricalTargetMask : List Bool
  categoricalTargets : List (Masked Int)
  datetimeTargetMask : List Bool
  datetimeTargets : List (Masked (ℚ × ℚ × ℚ))
  linkPosition : Bool
  linkLabel : ℚ

structure ReconstructionTargets where
  positions : Grid TargetPosition
  temporalPairs : List (Nat × Nat × Nat × Nat)

def ReconstructionTargets.cell? (targets : ReconstructionTargets) (b s : Nat) :
    Option TargetPosition := Grid.cell? targets.positions b s

/-- A position of the masked batch: the working copies, and the tensors that are not copied. -/
def WorkingPosition.shown (original : Position) (w : WorkingPosition) : Position :=
  { original with numeric := w.numeric, categorical := w.categorical, datetime := w.datetime }

/-- The targets are the elements of the input. -/
def WorkingPosition.targets (original : Position) (w : WorkingPosition) : TargetPosition where
  numericTargetMask := w.numericTargetMask
  numericTargets := original.numeric
  categoricalTargetMask := w.categoricalTargetMask
  categoricalTargets := original.categorical
  datetimeTargetMask := w.datetimeTargetMask
  datetimeTargets := original.datetime
  linkPosition := w.linkPosition
  linkLabel := w.linkLabel

def buildPretrainingBatch : Except PyError (EncodedBatch × ReconstructionTargets) := do
  let sets ← protectedSets
  let copies := batch.positions.map (List.map WorkingPosition.clone)
  let w ← (List.range batch.positions.length).foldlM (pretrainExample batch config draws sets)
    { copies, temporalPairs := [] }
  return ({ positions := List.zipWith (List.zipWith WorkingPosition.shown) batch.positions w.copies
            labels := batch.labels },
          { positions := List.zipWith (List.zipWith WorkingPosition.targets) batch.positions w.copies
            temporalPairs := w.temporalPairs })

end

end Transformer

end HermesRpt
