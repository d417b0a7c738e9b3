import HermesRpt.Lib.Grid
import HermesRpt.System
import HermesRpt.Transformer.Encoding

/-!
# HermesRpt.Transformer.Layout

`encode_batch` as it writes: tensors of zeros for the whole batch, and every record written to the
slots of its own index.

* `writeAt`, `writeRecordAt` : `_write_record` on one row, and on the row of an example.
* `encodeBatchInPlace` : the loops over examples, relations and records.
* `encodeBatchInPlace_eq` : what is written is `encodeBatch`, failures included.
* `layout` : where the records are, and that an example's row does not depend on its batch.
-/

namespace HermesRpt

namespace Transformer

open Cells (Grid)
open Effect
open Features

/-- `isinstance(value, datetime)` -/
def isDatetime : Option Value → Bool
  | some (.datetime _) => true
  | _ => false

/-- A field of one kind; a value that is not written leaves its slot as it is. -/
def writeCell {α : Type} (isWritten : Option Value → Bool)
    (cell : Option Value → Except PyError (Masked α)) (fields : FieldRow) (cells : List (Masked α))
    (field : String × Nat) : Except PyError (List (Masked α)) :=
  if isWritten (fields.value field.1) then do return cells.set field.2 (← cell (fields.value field.1))
  else .ok cells

/-- The loop over the fields of one kind. -/
def writeCells {α : Type} (isWritten : Option Value → Bool)
    (cell : Option Value → Except PyError (Masked α)) (fields : FieldRow) (fieldNames : List String)
    (cells : List (Masked α)) : Except PyError (List (Masked α)) :=
  fieldNames.zipIdx.foldlM (writeCell isWritten cell fields) cells

def indexError (index size : Nat) : PyError :=
  ⟨.IndexError, "index " ++ toString index ++ " is out of bounds for dimension 1 with size " ++
    toString size⟩

/-- `_write_record`, on the tensors of one example. -/
def writeAt (std : Stdlib) (vocabSize : Int) (row : List Position) (position : Nat)
    (record : RelationalRecord) : Except PyError (List Position) :=
  match row[position]? with
  | none => .error (indexError position row.length)
  | some p => do
    let schema ← entityFieldSchema record.entity
    let numeric ← writeCells Option.isSome (numericSlot std) record.fields schema.numericFields p.numeric
    let categorical ← writeCells Option.isSome (categoricalSlot std vocabSize) record.fields
      schema.categoricalFields p.categorical
    let datetime ← writeCells isDatetime (datetimeSlot std) record.fields schema.datetimeFields
      p.datetime
    if record.relationship ∈ relationshipVocab then
      return row.set position {
        numeric, categorical, datetime,
        entityTypeId := entityTypeVocab.idxOf record.entity,
        relationshipId := relationshipVocab.idxOf record.relationship, attentionMask := true }
    else .error ⟨.KeyError, reprStr record.relationship⟩

/-- `_write_record` -/
def writeRecordAt (std : Stdlib) (vocabSize : Int) (tensors : Grid Position) (batchIndex position : Nat)
    (record : RelationalRecord) : Except PyError (Grid Position) :=
  match tensors[batchIndex]? with
  | none => .error (indexError batchIndex tensors.length)
  | some row => do return List.set tensors batchIndex (← writeAt std vocabSize row position record)

/-- `by_relation[relation_name][:max_records_per_relation]` -/
def recordsOf (k : Nat) (related : List RelationalRecord) (relationName : String) :
    List RelationalRecord := (related.filter (·.relationship = relationName)).take k

/-- The loop over the records of one relation, from the start of its block on. -/
def writeBlockAt (std : Stdlib) (vocabSize : Int) (k batchIndex : Nat) (related : List RelationalRecord)
    (tensors : Grid Position) (relation : String × Nat) : Except PyError (Grid Position) :=
  let blockStart := 1 + relation.2 * k
  (recordsOf k related relation.1).zipIdx.foldlM (fun tensors record =>
    writeRecordAt std vocabSize tensors batchIndex (blockStart + record.2) record.1) tensors

def writeExampleAt (std : Stdlib) (vocabSize : Int) (k : Nat) (tensors : Grid Position)
    (ex : RelationalExample × Nat) : Except PyError (Grid Position) := do
  let tensors ← writeRecordAt std vocabSize tensors ex.2 0 ex.1.target
  checkRelationships ex.1.related
  relationOrder.zipIdx.foldlM (writeBlockAt std vocabSize k ex.2 ex.1.related) tensors

/-- `1 + len(_RELATION_ORDER) * max_records_per_relation` -/
def seqLen (k : Nat) : Nat := 1 + relationOrder.length * k

/-- The tensors of zeros for one example. -/
def zeros (k : Nat) : List Position := List.replicate (seqLen k) .padding

def encodeBatchInPlace (std : Stdlib) (examples : List RelationalExample) (maxRecordsPerRelation : Nat)
    (categoricalVocabSize : Int) : Except PyError EncodedBatch := do
  let tensors ← examples.zipIdx.foldlM (writeExampleAt std categoricalVocabSize maxRecordsPerRelation)
    (List.replicate examples.length (zeros maxRecordsPerRelation))
  return { positions := tensors, labels := batchLabels examples }

section

variable {std : Stdlib} {vocabSize : Int} {k : Nat}

/-! ## One record -/

/-- Over unused slots the loop leaves the slots of the fields, and unused ones after them. -/
theorem writeCells_unused {α : Type} [Zero α] {isWritten : Option Value → Bool}
    {cell : Option Value → Except PyError (Masked α)}
    (hskip : ∀ v, isWritten v = false → cell v = .ok .unused) {slots : Nat} (fields : FieldRow)
    {fieldNames : List String} (hfit : fieldNames.length ≤ slots) :
    writeCells isWritten cell fields fieldNames (List.replicate slots .unused) =
      writeFields cell slots fields fieldNames := by
  have hstep : ∀ (before after : List (Masked α)) (name : String) (n : Nat), before.length = 0 + n →
      writeCell isWritten cell fields (before ++ .unused :: after) (name, n) =
        (cell (fields.value name)).map fun a => before ++ a :: after := by
    intro before after name n hn
    unfold writeCell
    cases hwritten : isWritten (fields.value name) with
    | false =>
      rw [hskip _ hwritten]
      rfl
    | true =>
      rw [if_pos rfl]
      cases cell (fields.value name) with
      | error e => rfl
      | ok a =>
        have hn' : n = before.length := by omega
        subst hn'
        simp [Except.map, bind, Except.bind, pure, Except.pure]
  have hfold := @Cells.foldlM_write (Masked α) PyError String _ (writeCell isWritten cell fields) .unused
    0 hstep fieldNames (slots - fieldNames.length) 0 [] [] rfl
  rw [Nat.add_sub_of_le hfit] at hfold
  simp only [List.nil_append, List.append_nil] at hfold
  rw [writeCells, hfold, writeFields]
  cases fieldNames.mapM fun name => cell (fields.value name) <;> rfl

/-- A record that is written over padding. -/
theorem writeAt_padding {before after : List Position} {position : Nat} (hposition : before.length = position)
    (record : RelationalRecord) :
    writeAt std vocabSize (before ++ .padding :: after) position record =
      (writeRecord std vocabSize record).map fun p => before ++ p :: after := by
  subst hposition
  have hread : (before ++ Position.padding :: after)[before.length]? = some .padding := by simp
  have hset : ∀ p, (before ++ Position.padding :: after).set before.length p = before ++ p :: after := by
    intro p
    simp
  unfold writeAt writeRecord
  rw [hread]
  simp only [hset]
  cases hschema : entityFieldSchema record.entity with
  | error e => rfl
  | ok schema =>
    have hnumeric := @writeCells_unused ℚ _ Option.isSome (numericSlot std)
      (fun v hv => by cases v <;> simp_all [numericSlot]) numericSlots record.fields schema.numericFields
      schema.numeric_fit
    have hcategorical := @writeCells_unused Int _ Option.isSome (categoricalSlot std vocabSize)
      (fun v hv => by cases v <;> simp_all [categoricalSlot]) categoricalSlots record.fields
      schema.categoricalFields schema.categorical_fit
    have hdatetime := @writeCells_unused (ℚ × ℚ × ℚ) _ isDatetime (datetimeSlot std)
      (fun v hv => by
        cases v with
        | none => rfl
        | some v => cases v <;> simp_all [isDatetime, datetimeSlot]) datetimeSlots record.fields
      schema.datetimeFields schema.datetime_fit
    simp only [except_ok_bind, Position.padding, hnumeric, hcategorical, hdatetime]
    cases writeFields (numericSlot std) numericSlots record.fields schema.numericFields with
    | error e => rfl
    | ok numeric =>
      cases writeFields (categoricalSlot std vocabSize) categoricalSlots record.fields
          schema.categoricalFields with
      | error e => rfl
      | ok categorical =>
        cases writeFields (datetimeSlot std) datetimeSlots record.fields schema.datetimeFields with
        | error e => rfl
        | ok datetime =>
          simp only [except_ok_bind]
          split <;> rfl

theorem writeRecordAt_eq {tensors : Grid Position} {row : List Position} {b : Nat}
    (hrow : tensors[b]? = some row) (position : Nat) (record : RelationalRecord) :
    writeRecordAt std vocabSize tensors b position record =
      (writeAt std vocabSize row position record).map fun row' => List.set tensors b row' := by
  simp only [writeRecordAt, hrow]
  cases writeAt std vocabSize row position record <;> rfl

/-! ## One example -/

theorem length_encodeBlock {related : List RelationalRecord} {relationName : String}
    {block : List Position} (h : encodeBlock std vocabSize k related relationName = .ok block) :
    block.length = k := by
  obtain ⟨written, hwritten, h⟩ := except_bind_ok.1 h
  cases h
  have hlength := (except_mapM_ok.1 hwritten).length_eq
  rw [List.length_append, List.length_replicate, ← hlength, List.length_take]
  omega

/-- A relation's block is filled from its start on. -/
theorem writeBlock_row {related : List RelationalRecord} {before after : List Position} {start : Nat}
    (hbefore : before.length = start) (relationName : String) :
    (recordsOf k related relationName).zipIdx.foldlM (fun row record =>
        writeAt std vocabSize row (start + record.2) record.1)
        (before ++ (List.replicate k .padding ++ after)) =
      (encodeBlock std vocabSize k related relationName).map fun block => before ++ (block ++ after) := by
  have hstep : ∀ (before after : List Position) (record : RelationalRecord) (n : Nat),
      before.length = start + n →
      writeAt std vocabSize (before ++ .padding :: after) (start + n) record =
        (writeRecord std vocabSize record).map fun p => before ++ p :: after :=
    fun before after record n hn => writeAt_padding hn record
  have hfit : (recordsOf k related relationName).length ≤ k := by
    rw [recordsOf, List.length_take]
    omega
  have hfold := @Cells.foldlM_write Position PyError RelationalRecord (writeRecord std vocabSize)
    (fun row record => writeAt std vocabSize row (start + record.2) record.1) .padding start hstep
    (recordsOf k related relationName) (k - (recordsOf k related relationName).length) 0 before after
    hbefore
  rw [Nat.add_sub_of_le hfit] at hfold
  rw [hfold, encodeBlock, recordsOf]
  cases ((related.filter (·.relationship = relationName)).take k).mapM (writeRecord std vocabSize) with
  | error e => rfl
  | ok written => simp [Except.map, bind, Except.bind, pure, Except.pure]

/-- The loop over the relations of an example, on its row. -/
def writeRelation (std : Stdlib) (vocabSize : Int) (k : Nat) (related : List RelationalRecord)
    (row : List Position) (relation : String × Nat) : Except PyError (List Position) :=
  (recordsOf k related relation.1).zipIdx.foldlM (fun row record =>
    writeAt std vocabSize row (1 + relation.2 * k + record.2) record.1) row

/-- The blocks follow one another. -/
theorem writeRelations_row {related : List RelationalRecord} (l : List String) {i : Nat}
    {before : List Position} (hbefore : before.length = 1 + i * k) :
    (l.zipIdx i).foldlM (writeRelation std vocabSize k related)
        (before ++ List.replicate (l.length * k) .padding) =
      (l.mapM (encodeBlock std vocabSize k related)).map fun blocks => before ++ blocks.flatten := by
  induction l generalizing i before with
  | nil => simp [Except.map, pure, Except.pure]
  | cons relationName l ih =>
    have hlength : (relationName :: l).length * k = k + l.length * k := by
      rw [List.length_cons, Nat.succ_mul, Nat.add_comm]
    rw [List.zipIdx_cons, List.foldlM_cons, hlength, List.replicate_add, List.mapM_cons]
    have hblock := @writeBlock_row std vocabSize k related before
      (List.replicate (l.length * k) .padding) _ hbefore relationName
    rw [writeRelation, hblock]
    cases hencode : encodeBlock std vocabSize k related relationName with
    | error e => rfl
    | ok block =>
      have hnext : (before ++ block).length = 1 + (i + 1) * k := by
        rw [List.length_append, hbefore, length_encodeBlock hencode, Nat.succ_mul]
        omega
      have hrest := ih hnext
      rw [List.append_assoc] at hrest
      show (l.zipIdx (i + 1)).foldlM (writeRelation std vocabSize k related)
        (before ++ (block ++ List.replicate (l.length * k) .padding)) = _
      rw [hrest]
      cases l.mapM (encodeBlock std vocabSize k related) with
      | error e => rfl
      | ok blocks => simp [Except.map, bind, Except.bind, pure, Except.pure]

theorem writeBlockAt_eq (related : List RelationalRecord) {tensors : Grid Position}
    {row : List Position} {b : Nat} (hrow : tensors[b]? = some row) (relation : String × Nat) :
    writeBlockAt std vocabSize k b related tensors relation =
      (writeRelation std vocabSize k related row relation).map fun row' => List.set tensors b row' :=
  Cells.foldlM_row (fun _ _ record h => writeRecordAt_eq h (1 + relation.2 * k + record.2) record.1)
    _ hrow

/-- On a row of zeros an example is written as it is encoded. -/
theorem writeExampleAt_eq {tensors : Grid Position} {b : Nat} (hrow : tensors[b]? = some (zeros k))
    (ex : RelationalExample) :
    writeExampleAt std vocabSize k tensors (ex, b) =
      (encodeExample std vocabSize k ex).map fun row => List.set tensors b row := by
  have hzeros : zeros k = [] ++ Position.padding :: List.replicate (relationOrder.length * k) .padding := by
    rw [zeros, seqLen, Nat.add_comm, List.replicate_succ]
    rfl
  have htarget := @writeAt_padding std vocabSize [] (List.replicate (relationOrder.length * k) .padding)
    0 rfl ex.target
  rw [← hzeros] at htarget
  unfold writeExampleAt encodeExample
  rw [writeRecordAt_eq hrow, htarget]
  cases writeRecord std vocabSize ex.target with
  | error e => rfl
  | ok target =>
    cases hcheck : checkRelationships ex.related with
    | error e => simp only [Except.map, except_ok_bind]; rfl
    | ok =>
      have hb := (List.getElem?_eq_some_iff.1 hrow).1
      have hnext : (List.set tensors b ([] ++ target ::
          List.replicate (relationOrder.length * k) .padding))[b]? =
            some ([] ++ target :: List.replicate (relationOrder.length * k) .padding) :=
        List.getElem?_set_self hb
      have hblocks := @writeRelations_row std vocabSize k ex.related relationOrder 0 [target] (by simp)
      simp only [Except.map, except_ok_bind]
      rw [Cells.foldlM_row (fun _ _ relation h => writeBlockAt_eq ex.related h relation) _ hnext]
      have hsame : ([] ++ target :: List.replicate (relationOrder.length * k) Position.padding) =
          [target] ++ List.replicate (relationOrder.length * k) .padding := rfl
      rw [hsame, hblocks]
      cases relationOrder.mapM (encodeBlock std vocabSize k ex.related) with
      | error e => rfl
      | ok blocks => simp [Except.map, bind, Except.bind, pure, Except.pure]

/-! ## The batch -/

/-- What is written is `encodeBatch`. -/
theorem encodeBatchInPlace_eq (std : Stdlib) (examples : List RelationalExample) (k : Nat)
    (vocabSize : Int) :
    encodeBatchInPlace std examples k vocabSize = encodeBatch std examples k vocabSize := by
  have hstep : ∀ (before after : List (List Position)) (ex : RelationalExample) (n : Nat),
      before.length = 0 + n →
      writeExampleAt std vocabSize k (before ++ zeros k :: after) (ex, n) =
        (encodeExample std vocabSize k ex).map fun row => before ++ row :: after := by
    intro before after ex n hn
    have hn' : n = before.length := by omega
    subst hn'
    rw [writeExampleAt_eq (by simp)]
    cases encodeExample std vocabSize k ex with
    | error e => rfl
    | ok row => simp [Except.map]
  have hfold := @Cells.foldlM_write (List Position) PyError RelationalExample _
    (writeExampleAt std vocabSize k) (zeros k) 0 hstep examples 0 0 [] [] rfl
  simp only [Nat.add_zero, List.nil_append, List.append_nil, List.replicate_zero] at hfold
  rw [encodeBatchInPlace, hfold, encodeBatch]
  cases examples.mapM (encodeExample std vocabSize k) <;> rfl

/-! ## Categories -/

/-- A present category has an id above 0 in the vocabulary, a missing one has the id 0. -/
def InVocabulary (vocabSize : Int) (cell : Masked Int) : Prop :=
  (cell.mask = true → 1 ≤ cell.value ∧ cell.value < vocabSize) ∧ (cell.mask = false → cell.value = 0)

theorem inVocabulary_unused : InVocabulary vocabSize .unused := by
  constructor
  · intro h
    cases h
  · intro _
    rfl

theorem inVocabulary_categoricalSlot (hvocab : 2 ≤ vocabSize) {v : Option Value} {cell : Masked Int}
    (h : categoricalSlot std vocabSize v = .ok cell) : InVocabulary vocabSize cell := by
  cases v with
  | none =>
    cases h
    exact inVocabulary_unused
  | some v =>
    obtain ⟨id, hid, h⟩ := except_bind_ok.1 h
    cases h
    have hne : vocabSize ≠ 1 := by omega
    rw [hashCategorical, if_neg hne, Except.ok.injEq] at hid
    have hpos : 0 < vocabSize - 1 := by omega
    have hlow := Int.fmod_nonneg_of_pos (std.sha256Prefix (v.toStr std)) hpos
    have hhigh := Int.fmod_lt_of_pos (std.sha256Prefix (v.toStr std)) hpos
    refine ⟨fun _ => ?_, fun h => by cases h⟩
    show 1 ≤ id ∧ id < vocabSize
    omega

theorem inVocabulary_writeRecord (hvocab : 2 ≤ vocabSize) {record : RelationalRecord} {p : Position}
    (h : writeRecord std vocabSize record = .ok p) : ∀ cell ∈ p.categorical, InVocabulary vocabSize cell := by
  obtain ⟨schema, -, h⟩ := except_bind_ok.1 h
  obtain ⟨numeric, -, h⟩ := except_bind_ok.1 h
  obtain ⟨categorical, hcategorical, h⟩ := except_bind_ok.1 h
  obtain ⟨datetime, -, h⟩ := except_bind_ok.1 h
  have hcells : ∀ cell ∈ categorical, InVocabulary vocabSize cell := by
    obtain ⟨written, hwritten, hcells⟩ := except_bind_ok.1 hcategorical
    cases hcells
    intro cell hcell
    rcases List.mem_append.1 hcell with hcell | hcell
    · obtain ⟨i, hi, rfl⟩ := List.getElem_of_mem hcell
      have hpasses := except_mapM_ok.1 hwritten
      exact inVocabulary_categoricalSlot hvocab (hpasses.get (hpasses.length_eq ▸ hi) hi)
    · cases (List.mem_replicate.1 hcell).2
      exact inVocabulary_unused
  split at h
  · cases h
    exact hcells
  · cases h

/-! ## Places -/

/-- Among blocks of one length, an element is found by its block and its place there. -/
theorem getElem?_flatten {blocks : List (List Position)} (hlength : ∀ block ∈ blocks, block.length = k)
    {slot : Nat} (hslot : slot < k) (i : Nat) :
    blocks.flatten[i * k + slot]? = blocks[i]?.bind fun block => block[slot]? := by
  induction blocks generalizing i with
  | nil => simp
  | cons block blocks ih =>
    have hblock := hlength block (by simp)
    rw [List.flatten_cons]
    cases i with
    | zero => rw [List.getElem?_append_left (by omega)]; simp
    | succ i =>
      have hle : block.length ≤ (i + 1) * k + slot := by
        rw [hblock, Nat.succ_mul]
        omega
      have hplace : (i + 1) * k + slot - block.length = i * k + slot := by
        rw [hblock, Nat.succ_mul]
        omega
      rw [List.getElem?_append_right hle, hplace, ih fun b hb => hlength b (by simp [hb])]
      simp

/-- Where the records of an example are in its row. -/
structure Placed (std : Stdlib) (vocabSize : Int) (k : Nat) (ex : RelationalExample)
    (row : List Position) : Prop where
  length : row.length = seqLen k
  target : ∃ p, row[0]? = some p ∧ writeRecord std vocabSize ex.target = .ok p
  records : ∀ i relationName slot record, relationOrder[i]? = some relationName →
    (recordsOf k ex.related relationName)[slot]? = some record →
    ∃ p, row[1 + i * k + slot]? = some p ∧ writeRecord std vocabSize record = .ok p
  others : ∀ s p, row[s]? = some p → s ≠ 0 →
    (∀ i relationName slot record, relationOrder[i]? = some relationName →
      (recordsOf k ex.related relationName)[slot]? = some record → s ≠ 1 + i * k + slot) →
    p = .padding

/-- A place in a block holds the record of the slot, or padding. -/
theorem encodeBlock_slot {related : List RelationalRecord} {relationName : String} {block : List Position}
    (h : encodeBlock std vocabSize k related relationName = .ok block) (slot : Nat) :
    (∀ record, (recordsOf k related relationName)[slot]? = some record →
        ∃ p, block[slot]? = some p ∧ writeRecord std vocabSize record = .ok p) ∧
      ((recordsOf k related relationName)[slot]? = none → ∀ p, block[slot]? = some p → p = .padding) := by
  obtain ⟨written, hwritten, h⟩ := except_bind_ok.1 h
  cases h
  have hpasses := except_mapM_ok.1 hwritten
  have hlength : (recordsOf k related relationName).length = written.length := hpasses.length_eq
  constructor
  · intro record hrecord
    obtain ⟨hlt, rfl⟩ := List.getElem?_eq_some_iff.1 hrecord
    have hlt' : slot < written.length := hlength ▸ hlt
    refine ⟨written[slot], ?_, hpasses.get hlt hlt'⟩
    rw [List.getElem?_append_left hlt', List.getElem?_eq_getElem hlt']
  · intro hnone p hp
    have hle := List.getElem?_eq_none_iff.1 hnone
    rw [hlength] at hle
    rw [List.getElem?_append_right hle] at hp
    exact (List.mem_replicate.1 (List.mem_of_getElem? hp)).2

/-- A row is the record of the target and one block for each relation. -/
theorem encodeExample_ok {ex : RelationalExample} {row : List Position}
    (h : encodeExample std vocabSize k ex = .ok row) :
    ∃ target blocks, row = target :: blocks.flatten ∧
      writeRecord std vocabSize ex.target = .ok target ∧
      List.Forall₂ (fun relationName block =>
        encodeBlock std vocabSize k ex.related relationName = .ok block) relationOrder blocks := by
  obtain ⟨target, htarget, h⟩ := except_bind_ok.1 h
  obtain ⟨_, -, h⟩ := except_bind_ok.1 h
  obtain ⟨blocks, hblocks, h⟩ := except_bind_ok.1 h
  exact ⟨target, blocks, (except_pure_ok.1 h).symm, htarget, except_mapM_ok.1 hblocks⟩

theorem getElem?_row {blocks : List (List Position)} (hlength : ∀ block ∈ blocks, block.length = k)
    (target : Position) (i : Nat) {slot : Nat} (hslot : slot < k) :
    (target :: blocks.flatten)[1 + i * k + slot]? = blocks[i]?.bind fun block => block[slot]? := by
  have hplace : 1 + i * k + slot = (i * k + slot) + 1 := by omega
  rw [hplace, List.getElem?_cons_succ, getElem?_flatten hlength hslot]

theorem length_flatten_blocks {blocks : List (List Position)}
    (hlength : ∀ block ∈ blocks, block.length = k) : blocks.flatten.length = blocks.length * k := by
  have hreplicate : blocks.map List.length = List.replicate blocks.length k := by
    rw [List.eq_replicate_iff]
    simpa using hlength
  rw [List.length_flatten, hreplicate, List.sum_replicate_nat]

/-- A place after the first is a slot of a block. -/
theorem place_eq {t n : Nat} (ht : t < n * k) :
    t / k < n ∧ t % k < k ∧ t + 1 = 1 + t / k * k + t % k := by
  have hk : 0 < k := Nat.pos_of_ne_zero (by rintro rfl; simp at ht)
  have hplace := Nat.div_add_mod' t k
  exact ⟨Nat.div_lt_of_lt_mul (by rwa [Nat.mul_comm]), Nat.mod_lt t hk, by omega⟩

theorem placed_of_encodeExample {ex : RelationalExample} {row : List Position}
    (h : encodeExample std vocabSize k ex = .ok row) : Placed std vocabSize k ex row := by
  obtain ⟨target, blocks, rfl, htarget, hpasses⟩ := encodeExample_ok h
  have hcount : relationOrder.length = blocks.length := hpasses.length_eq
  have hblock : ∀ (i : Nat) relationName, relationOrder[i]? = some relationName → ∃ block,
      blocks[i]? = some block ∧ encodeBlock std vocabSize k ex.related relationName = .ok block := by
    intro i relationName hi
    obtain ⟨hlt, rfl⟩ := List.getElem?_eq_some_iff.1 hi
    have hlt' : i < blocks.length := hcount ▸ hlt
    exact ⟨blocks[i], List.getElem?_eq_getElem hlt', hpasses.get hlt hlt'⟩
  have hlengths : ∀ block ∈ blocks, block.length = k := by
    intro block hmem
    obtain ⟨i, hi, rfl⟩ := List.getElem_of_mem hmem
    exact length_encodeBlock (hpasses.get (hcount ▸ hi) hi)
  constructor
  · rw [List.length_cons, length_flatten_blocks hlengths, seqLen, hcount, Nat.add_comm]
  · exact ⟨target, rfl, htarget⟩
  · intro i relationName slot record hi hrecord
    obtain ⟨block, hget, hencode⟩ := hblock i relationName hi
    have hslot : slot < k := by
      have hlt := (List.getElem?_eq_some_iff.1 hrecord).1
      rw [recordsOf, List.length_take] at hlt
      omega
    obtain ⟨p, hp, hwrite⟩ := (encodeBlock_slot hencode slot).1 record hrecord
    exact ⟨p, by rw [getElem?_row hlengths target i hslot, hget, Option.bind_some, hp], hwrite⟩
  · intro s p hp hs hfree
    obtain ⟨t, rfl⟩ : ∃ t, s = t + 1 := ⟨s - 1, by omega⟩
    have hlt := (List.getElem?_eq_some_iff.1 hp).1
    rw [List.length_cons, length_flatten_blocks hlengths] at hlt
    obtain ⟨hi, hslot, hplace⟩ := @place_eq k t blocks.length (by omega)
    rw [← hcount] at hi
    have hname : relationOrder[t / k]? = some relationOrder[t / k] := List.getElem?_eq_getElem hi
    obtain ⟨block, hget, hencode⟩ := hblock (t / k) _ hname
    rw [hplace, getElem?_row hlengths target _ hslot, hget, Option.bind_some] at hp
    cases hrecord : (recordsOf k ex.related relationOrder[t / k])[t % k]? with
    | none => exact (encodeBlock_slot hencode (t % k)).2 hrecord p hp
    | some record => exact absurd hplace (hfree _ _ _ _ hname hrecord)

theorem inVocabulary_of_encodeExample (hvocab : 2 ≤ vocabSize) {ex : RelationalExample}
    {row : List Position} (h : encodeExample std vocabSize k ex = .ok row) :
    ∀ p ∈ row, ∀ cell ∈ p.categorical, InVocabulary vocabSize cell := by
  have hpadding : ∀ cell ∈ Position.padding.categorical, InVocabulary vocabSize cell := by
    intro cell hcell
    cases (List.mem_replicate.1 hcell).2
    exact inVocabulary_unused
  obtain ⟨target, blocks, rfl, htarget, hpasses⟩ := encodeExample_ok h
  intro p hp
  rcases List.mem_cons.1 hp with rfl | hp
  · exact inVocabulary_writeRecord hvocab htarget
  · obtain ⟨block, hblock, hp⟩ := List.mem_flatten.1 hp
    obtain ⟨i, hi, rfl⟩ := List.getElem_of_mem hblock
    have hencode := hpasses.get (hpasses.length_eq ▸ hi) hi
    obtain ⟨written, hwritten, hencode⟩ := except_bind_ok.1 hencode
    have hblocked : _ = blocks[i] := except_pure_ok.1 hencode
    rw [← hblocked] at hp
    rcases List.mem_append.1 hp with hp | hp
    · obtain ⟨j, hj, rfl⟩ := List.getElem_of_mem hp
      have hrecords := except_mapM_ok.1 hwritten
      exact inVocabulary_writeRecord hvocab (hrecords.get (hrecords.length_eq ▸ hj) hj)
    · cases (List.mem_replicate.1 hp).2
      exact hpadding

/-- Every example has its row: its records are in their places and everything else is padding, its
categories are in the vocabulary, and the row is what a batch of this example alone has. -/
theorem layout (std : Stdlib) (examples : List RelationalExample) (maxRecordsPerRelation : Nat)
    (categoricalVocabSize : Int) (hvocab : 2 ≤ categoricalVocabSize) (batch : EncodedBatch)
    (h : encodeBatchInPlace std examples maxRecordsPerRelation categoricalVocabSize = .ok batch) :
    batch.positions.length = examples.length ∧
      ∀ (b : Nat) ex, examples[b]? = some ex → ∃ row, batch.positions[b]? = some row ∧
        Placed std categoricalVocabSize maxRecordsPerRelation ex row ∧
        (∀ p ∈ row, ∀ cell ∈ p.categorical, InVocabulary categoricalVocabSize cell) ∧
        (encodeBatchInPlace std [ex] maxRecordsPerRelation categoricalVocabSize).map (·.positions) =
          .ok [row] := by
  rw [encodeBatchInPlace_eq] at h
  obtain ⟨rows, hrows, h⟩ := except_bind_ok.1 h
  cases h
  have hpasses := except_mapM_ok.1 hrows
  refine ⟨hpasses.length_eq.symm, fun b ex hex => ?_⟩
  obtain ⟨hb, rfl⟩ := List.getElem?_eq_some_iff.1 hex
  have hb' : b < rows.length := hpasses.length_eq ▸ hb
  have hencode : encodeExample std categoricalVocabSize maxRecordsPerRelation examples[b] =
      .ok rows[b] := hpasses.get hb hb'
  refine ⟨rows[b], List.getElem?_eq_getElem hb', placed_of_encodeExample hencode,
    inVocabulary_of_encodeExample hvocab hencode, ?_⟩
  rw [encodeBatchInPlace_eq, encodeBatch, List.mapM_cons, hencode]
  rfl

end

namespace Sample

theorem statusOnly_keys : (["status"] : List String).Nodup := by decide

def statusOnly (status : String) : FieldRow := ⟨[("status", some (.str status))], statusOnly_keys⟩

/-- A trip with one delivery. -/
def delivered (status : String) : RelationalExample where
  businessReference := "t1"
  predictionTime := ⟨0, 0⟩
  label := none
  target := ⟨"Trip", "__target__", statusOnly status⟩
  related := [⟨"Delivery", "has_deliveries", statusOnly "delivered"⟩]

theorem delivered_isOk :
    (encodeBatchInPlace HermesRpt.Sample.std [delivered "planned", delivered "completed"] 2 16).isOk =
      true := by decide +kernel

theorem delivered_layout : ∃ batch row,
    encodeBatchInPlace HermesRpt.Sample.std [delivered "planned", delivered "completed"] 2 16 =
        .ok batch ∧ batch.positions[1]? = some row ∧
      Placed HermesRpt.Sample.std 16 2 (delivered "completed") row ∧
      (encodeBatchInPlace HermesRpt.Sample.std [delivered "completed"] 2 16).map (·.positions) =
        .ok [row] := by
  cases h : encodeBatchInPlace HermesRpt.Sample.std [delivered "planned", delivered "completed"] 2 16 with
  | error e =>
    have hok := delivered_isOk
    rw [h] at hok
    cases hok
  | ok batch =>
    obtain ⟨-, hrows⟩ := layout HermesRpt.Sample.std [delivered "planned", delivered "completed"] 2 16
      (by decide) batch h
    obtain ⟨row, hrow, hplaced, -, halone⟩ := hrows 1 (delivered "completed") rfl
    exact ⟨batch, row, rfl, hrow, hplaced, halone⟩

end Sample

end Transformer

end HermesRpt
