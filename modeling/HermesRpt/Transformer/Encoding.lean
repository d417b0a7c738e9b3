import HermesRpt.Transformer.Context

/-!
# HermesRpt.Transformer.Encoding

`encode_batch`: examples as tensors of a fixed shape. The tensors hold one element per example,
position and slot; a `Position` is what all of them hold at one position of one example.

* `writeRecord` : a record at a position.
* `encodeExample` : the target, then a block of `max_records_per_relation` positions per relation,
  its records first and padding after.
-/

namespace HermesRpt

namespace Transformer

open Features

/-- `_RELATION_ORDER` -/
def relationOrder : List String :=
  relationshipVocab.filter fun name => name ≠ "__pad__" ∧ name ≠ "__target__"

/-- A slot with its mask: an unused slot holds zero and `false`. -/
structure Masked (α : Type) where
  value : α
  mask : Bool
  deriving DecidableEq

def Masked.unused {α : Type} [Zero α] : Masked α := ⟨0, false⟩

/-- The elements of the tensors at one position. -/
structure Position where
  numeric : List (Masked ℚ)
  categorical : List (Masked Int)
  datetime : List (Masked (ℚ × ℚ × ℚ))
  entityTypeId : Nat
  relationshipId : Nat
  attentionMask : Bool
  deriving DecidableEq

/-- A position that no record is written to. -/
def Position.padding : Position where
  numeric := List.replicate numericSlots .unused
  categorical := List.replicate categoricalSlots .unused
  datetime := List.replicate datetimeSlots .unused
  entityTypeId := 0
  relationshipId := 0
  attentionMask := false

structure EncodedBatch where
  positions : List (List Position)
  labels : Option (List ℚ)

/-- A hash into `[1, vocab_size)`. -/
def hashCategorical (std : Stdlib) (value : String) (vocabSize : Int) : Except PyError Int :=
  if vocabSize = 1 then .error ⟨.ZeroDivisionError, "integer modulo by zero"⟩
  else .ok (1 + Int.fmod (std.sha256Prefix value) (vocabSize - 1))

/-- `_DATETIME_EPOCH`, 2020-01-01, in days from 1970-01-01. -/
def datetimeEpochDay : Int := 18262

/-- `_DATETIME_HORIZON_YEARS` -/
def datetimeHorizonYears : ℚ := 10

/-- `_encode_datetime`: hour of day, day of week, and years since the epoch, cut to the horizon. -/
def encodeDatetime (t : DateTime) : ℚ × ℚ × ℚ :=
  let years : ℚ := ((t.day - datetimeEpochDay : Int) : ℚ) / (36525 / 100)
  ((t.hour : ℚ) / 24, (t.weekday : ℚ) / 7, max 0 (min 1 (years / datetimeHorizonYears)))

def numericSlot (std : Stdlib) : Option Value → Except PyError (Masked ℚ)
  | none => .ok .unused
  | some v => do return ⟨std.float32 (← v.toFloat std), true⟩

def categoricalSlot (std : Stdlib) (vocabSize : Int) : Option Value → Except PyError (Masked Int)
  | none => .ok .unused
  | some v => do return ⟨← hashCategorical std (v.toStr std) vocabSize, true⟩

/-- Anything but a datetime leaves the slot unused. -/
def datetimeSlot (std : Stdlib) : Option Value → Except PyError (Masked (ℚ × ℚ × ℚ))
  | some (.datetime t) =>
    let (hour, day, years) := encodeDatetime t
    .ok ⟨(std.float32 hour, std.float32 day, std.float32 years), true⟩
  | _ => .ok .unused

/-- The slots of some fields, and unused ones up to `slots`. -/
def writeFields {α : Type} [Zero α] (slot : Option Value → Except PyError (Masked α)) (slots : Nat)
    (fields : FieldRow) (fieldNames : List String) : Except PyError (List (Masked α)) := do
  let written ← fieldNames.mapM fun fieldName => slot (fields.value fieldName)
  return written ++ List.replicate (slots - fieldNames.length) .unused

/-- `_write_record` -/
def writeRecord (std : Stdlib) (vocabSize : Int) (record : RelationalRecord) :
    Except PyError Position := do
  let schema ← entityFieldSchema record.entity
  let numeric ← writeFields (numericSlot std) numericSlots record.fields schema.numericFields
  let categorical ← writeFields (categoricalSlot std vocabSize) categoricalSlots record.fields
    schema.categoricalFields
  let datetime ← writeFields (datetimeSlot std) datetimeSlots record.fields schema.datetimeFields
  if record.relationship ∈ relationshipVocab then
    return {
      numeric, categorical, datetime,
      entityTypeId := entityTypeVocab.idxOf record.entity,
      relationshipId := relationshipVocab.idxOf record.relationship, attentionMask := true }
  else .error ⟨.KeyError, reprStr record.relationship⟩

/-- The block of one relation: at most `k` records, and padding up to `k` positions. -/
def encodeBlock (std : Stdlib) (vocabSize : Int) (k : Nat) (related : List RelationalRecord)
    (relationship : String) : Except PyError (List Position) := do
  let records := (related.filter (·.relationship = relationship)).take k
  let written ← records.mapM (writeRecord std vocabSize)
  return written ++ List.replicate (k - records.length) .padding

/-- `by_relation[related_record.relationship]`, for every record. -/
def checkRelationships (related : List RelationalRecord) : Except PyError Unit :=
  match related.find? (·.relationship ∉ relationOrder) with
  | some record => .error ⟨.KeyError, reprStr record.relationship⟩
  | none => .ok ()

def encodeExample (std : Stdlib) (vocabSize : Int) (k : Nat) (ex : RelationalExample) :
    Except PyError (List Position) := do
  let target ← writeRecord std vocabSize ex.target
  checkRelationships ex.related
  let blocks ← relationOrder.mapM (encodeBlock std vocabSize k ex.related)
  return target :: blocks.flatten

/-- Labels only when every example has one. -/
def batchLabels (examples : List RelationalExample) : Option (List ℚ) :=
  examples.mapM fun ex => ex.label.map fun label => (label : ℚ)

def encodeBatch (std : Stdlib) (examples : List RelationalExample) (maxRecordsPerRelation : Nat)
    (categoricalVocabSize : Int) : Except PyError EncodedBatch := do
  let positions ← examples.mapM (encodeExample std categoricalVocabSize maxRecordsPerRelation)
  return { positions, labels := batchLabels examples }

end Transformer

end HermesRpt
