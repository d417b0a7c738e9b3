import HermesRpt.Common.Difflib
import HermesRpt.Lib.Greedy
import HermesRpt.Mappings.Validation
import HermesRpt.Schemas.Profiling
import Mathlib.Data.List.Infix

/-!
# HermesRpt.Mappings.Suggest

The deterministic suggestion engine: every pair of a field and a column is scored, and pairs are
claimed strongest first.

* `suggestMapping`      : the document with its confidence and explanation.
* `candidates`          : the pairs that score enough, strongest first.
* `assign_ok`           : the loop claims the greedy choice from them.
* `suggestMapping_ok`   : what is in the document.
-/

namespace HermesRpt

namespace Mappings

open Effect Ontology Schemas
open Keyed (Dict)

/-- Double-precision arithmetic, as far as scores need it. -/
structure Doubles where
  /-- The double that an operation gives for its exact result. -/
  round : ℚ → ℚ
  /-- `sum` of a list of floats. -/
  sum : List ℚ → ℚ
  /-- `f"{x:.2f}"` -/
  fixed2 : ℚ → String

/-- `_TYPE_COMPATIBILITY` -/
def typeCompatibility : LogicalType → List String
  | .string => ["character varying", "character", "text", "uuid", "name", "citext", "integer",
      "bigint", "smallint"]
  | .integer => ["integer", "bigint", "smallint", "numeric"]
  | .float => ["numeric", "real", "double precision", "integer", "bigint"]
  | .boolean => ["boolean"]
  | .date => ["date"]
  | .datetime => ["timestamp without time zone", "timestamp with time zone", "date"]
  | .enum => ["character varying", "character", "text"]
  | .money => ["numeric", "money", "real", "double precision"]

/-- `_normalize` -/
def normalizeName (std : Stdlib) (name : String) : List Char :=
  (std.lower name).toList.filter fun c => ('a' ≤ c && c ≤ 'z') || ('0' ≤ c && c ≤ '9')

/-- `set(name.lower().split("_"))`, which is never empty. -/
def tokens (std : Stdlib) (name : String) : List (List Char) :=
  ((std.lower name).toList.splitOn '_').dedup

/-- `_name_similarity` -/
def nameSimilarity (std : Stdlib) (doubles : Doubles) (fieldName columnName : String) : ℚ :=
  let sequenceScore :=
    Difflib.ratio doubles.round (normalizeName std fieldName) (normalizeName std columnName)
  let tokensA := tokens std fieldName
  let tokensB := tokens std columnName
  let tokenScore := doubles.round
    (((tokensA.filter (· ∈ tokensB)).length : ℚ) / (tokensA ∪ tokensB).length)
  doubles.round (doubles.round (sequenceScore + tokenScore) / 2)

structure ColumnScore where
  column : ColumnMetadata
  score : ℚ
  explanation : String

/-- `score += amount` with a reason, if the condition holds. -/
def adjust (doubles : Doubles) (condition : Bool) (amount : ℚ) (reason : String)
    (scored : ℚ × List String) : ℚ × List String :=
  if condition then (doubles.round (scored.1 + amount), scored.2 ++ [reason]) else scored

/-- The part of `_score_column` about the profile of the column, if it was profiled. -/
def adjustByProfile (doubles : Doubles) (field : OntologyFieldDefinition) (column : ColumnMetadata)
    (profile : TableProfileSummary) (scored : ℚ × List String) : ℚ × List String :=
  match profile.columns.find? fun c => c.columnName = column.name with
  | none => scored
  | some columnProfile =>
    let distinct := columnProfile.distinctCountEstimate.getD 0
    let uniqueness := doubles.round ((distinct : ℚ) / (max profile.sampledRowCount 1 : Nat))
    let scored := adjust doubles
      (field.isBusinessIdentifier && distinct ≠ 0 && doubles.round (95 / 100) < uniqueness)
      (doubles.round (5 / 100)) "profiled column looks highly unique (identifier-like)" scored
    adjust doubles (field.required && (1 / 2 : ℚ) < columnProfile.nullFraction.getD 0)
      (-doubles.round (1 / 10)) "profiled column is mostly null, but field is required" scored

/-- `_score_column` -/
def scoreColumn (std : Stdlib) (doubles : Doubles) (field : OntologyFieldDefinition)
    (column : ColumnMetadata) (table : TableMetadata) (profile : Option TableProfileSummary) :
    ColumnScore :=
  let nameScore := nameSimilarity std doubles field.name column.name
  let typeCompatible := column.sqlType ∈ typeCompatibility field.logicalType
  let score := doubles.round (nameScore * (1 / 2))
  let scored := (doubles.round (score + if typeCompatible then doubles.round (3 / 10) else 0),
    ["name similarity " ++ doubles.fixed2 nameScore,
      if typeCompatible then "type compatible" else "type NOT compatible"])
  let scored := adjust doubles
    (field.isBusinessIdentifier && column.name ∈ table.primaryKeyColumns)
    (doubles.round (1 / 10)) "column is the table's primary key" scored
  let comments := [table.comment, column.comment].filterMap fun comment =>
    comment.filter (· ≠ "")
  let commentText := std.lower (" ".intercalate comments)
  let mentioned := commentText ≠ "" &&
    decide (normalizeName std field.name <:+: normalizeName std commentText)
  let scored := adjust doubles mentioned (doubles.round (1 / 10))
    "table/column comment mentions the field name" scored
  let scored := match profile with
    | none => scored
    | some profile => adjustByProfile doubles field column profile scored
  { column, score := min scored.1 1, explanation := "; ".intercalate scored.2 }

structure SuggestionResult where
  document : MappingDocument
  confidence : ℚ
  explanation : String

/-- `_MIN_CONFIDENCE` -/
def minConfidence (doubles : Doubles) : ℚ := doubles.round (35 / 100)

abbrev Pair := OntologyFieldDefinition × ColumnScore

/-- `all_scores`, sorted: equal scores stay in the order of the fields and columns. -/
def allScores (std : Stdlib) (doubles : Doubles) (ontologyEntity : OntologyEntityDefinition)
    (table : TableMetadata) (profile : Option TableProfileSummary) : List Pair :=
  (ontologyEntity.fields.flatMap fun field => table.columns.map fun column =>
    (field, scoreColumn std doubles field column table profile)).insertionSort
      fun p q => q.2.score ≤ p.2.score

/-- What the loop of `suggest_mapping` has claimed. -/
structure Claims where
  usedColumns : List String := []
  usedFields : List String := []
  fieldExplanations : List String := []
  identity : Dict String FieldMapping := Keyed.Table.empty
  fields : Dict String FieldMapping := Keyed.Table.empty
  confidences : List ℚ := []

def notIdentifier (model what value : String) : PyError :=
  ⟨.ValidationError, "1 validation error for " ++ model ++ "\n  Value error, " ++ what ++
    " must be a plain identifier, got " ++ reprStr value⟩

theorem column_is_one_kind (column : String) : (some column).isSome.toNat +
    (none : ScalarValue).isSome.toNat + (none : Option Expression).isSome.toNat = 1 := rfl

theorem column_is_given (column : String) : (truthy none || truthy none ||
    (none : Option (Dict String String)).any (!·.rows.isEmpty)) = true →
      (some column).isSome = true := fun _ => rfl

/-- `ValueSource(column=column)` -/
def columnSource (column : String) (h : isIdentifier column = true) : ValueSource where
  column := some column
  one_kind := column_is_one_kind column
  column_identifier := h
  column_only := column_is_given column

/-- `FieldMapping(sources=(ValueSource(column=column),))` -/
def columnMapping (column : String) : Except PyError FieldMapping :=
  if h : isIdentifier column = true then .ok { sources := [columnSource column h] }
  else .error (notIdentifier "ValueSource" "column" column)

/-- A claimed pair: a business identifier goes to the identity. -/
def Claims.add (claims : Claims) (field : OntologyFieldDefinition) (candidate : ColumnScore)
    (mapping : FieldMapping) : Claims where
  usedColumns := claims.usedColumns ++ [candidate.column.name]
  usedFields := claims.usedFields ++ [field.name]
  fieldExplanations := claims.fieldExplanations ++
    [field.name ++ " <- " ++ candidate.column.name ++ " (" ++ candidate.explanation ++ ")"]
  identity := if field.isBusinessIdentifier then claims.identity.set field.name mapping
    else claims.identity
  fields := if field.isBusinessIdentifier then claims.fields
    else claims.fields.set field.name mapping
  confidences := claims.confidences ++ [candidate.score]

/-- The loop of `suggest_mapping`. -/
def assign (doubles : Doubles) : Claims → List Pair → Except PyError Claims
  | claims, [] => .ok claims
  | claims, (field, candidate) :: rest =>
    if candidate.score < minConfidence doubles then .ok claims
    else if field.name ∈ claims.usedFields ∨ candidate.column.name ∈ claims.usedColumns then
      assign doubles claims rest
    else do
      let mapping ← columnMapping candidate.column.name
      assign doubles (claims.add field candidate mapping) rest

/-- `SourceTable(schema=…, table=…)` -/
def sourceTable (schemaName table : String) : Except PyError SourceTable :=
  if hschema : isIdentifier schemaName = true then
    if htable : isIdentifier table = true then .ok ⟨schemaName, table, hschema, htable⟩
    else .error (notIdentifier "SourceTable" "source.table" table)
  else .error (notIdentifier "SourceTable" "source.schema" schemaName)

def suggestMapping (std : Stdlib) (doubles : Doubles) (ontologyEntity : OntologyEntityDefinition)
    (table : TableMetadata) (profile : Option TableProfileSummary) :
    Except PyError SuggestionResult := do
  let claims ← assign doubles {} (allScores std doubles ontologyEntity table profile)
  if h : claims.identity.rows = [] then
    .error ⟨.ValueError, "Could not confidently suggest any identifier field mapping for entity " ++
      reprStr ontologyEntity.name ++ " against table " ++ reprStr table.qualifiedName⟩
  else do
    let source ← sourceTable table.schemaName table.name
    let suggested := claims.identity.rows.length + claims.fields.rows.length
    return {
      document := {
        entity := ontologyEntity.name, source, identity := claims.identity,
        fields := claims.fields, identity_ne := h }
      confidence := if claims.confidences = [] then 0 else
        doubles.round (doubles.sum claims.confidences / claims.confidences.length)
      explanation := "Suggested " ++ toString suggested ++ " field(s) for " ++
        reprStr ontologyEntity.name ++ " from " ++ reprStr table.qualifiedName ++ ": " ++
        "; ".intercalate claims.fieldExplanations }

/-! ## What is suggested -/

/-- The pairs that score enough, strongest first. -/
def candidates (std : Stdlib) (doubles : Doubles) (ontologyEntity : OntologyEntityDefinition)
    (table : TableMetadata) (profile : Option TableProfileSummary) : List Pair :=
  (allScores std doubles ontologyEntity table profile).takeWhile fun p =>
    minConfidence doubles ≤ p.2.score

/-- The pairs are for one field or for one column. -/
def Competes (p q : Pair) : Prop := p.1.name = q.1.name ∨ p.2.column.name = q.2.column.name

instance : DecidableRel Competes := fun _ _ => inferInstanceAs (Decidable (_ ∨ _))

/-- The loop has claimed the pairs of `taken`. -/
structure Holds (claims : Claims) (taken : List Pair) : Prop where
  usedFields : claims.usedFields = taken.map (·.1.name)
  usedColumns : claims.usedColumns = taken.map (·.2.column.name)
  identity : ∀ name, name ∈ claims.identity.keys ↔
    ∃ p ∈ taken, p.1.isBusinessIdentifier = true ∧ p.1.name = name
  fields : ∀ name, name ∈ claims.fields.keys ↔
    ∃ p ∈ taken, p.1.isBusinessIdentifier = false ∧ p.1.name = name
  plain : ∀ name mapping, claims.identity.get? name = some mapping ∨
    claims.fields.get? name = some mapping → mapping.firstSource.column.isSome = true

section

variable {std : Stdlib} {doubles : Doubles} {claims claims' : Claims} {taken l : List Pair}

theorem columnMapping_plain {column : String} {mapping : FieldMapping}
    (h : columnMapping column = .ok mapping) : mapping.firstSource.column = some column := by
  unfold columnMapping at h
  split at h
  · cases h
    rfl
  · cases h

theorem holds_nil : Holds {} [] where
  usedFields := rfl
  usedColumns := rfl
  identity name := by simp [Dict.keys, Keyed.Table.empty]
  fields name := by simp [Dict.keys, Keyed.Table.empty]
  plain name mapping h := by simp at h

theorem Holds.competes (h : Holds claims taken) (field : OntologyFieldDefinition)
    (candidate : ColumnScore) :
    (field.name ∈ claims.usedFields ∨ candidate.column.name ∈ claims.usedColumns) ↔
      ∃ p ∈ taken, Competes p (field, candidate) := by
  rw [h.usedFields, h.usedColumns]
  simp only [List.mem_map, Competes]
  constructor
  · rintro (⟨p, hp, hname⟩ | ⟨p, hp, hname⟩)
    · exact ⟨p, hp, .inl hname⟩
    · exact ⟨p, hp, .inr hname⟩
  · rintro ⟨p, hp, hname | hname⟩
    · exact .inl ⟨p, hp, hname⟩
    · exact .inr ⟨p, hp, hname⟩

theorem exists_claim_append {field : OntologyFieldDefinition} {candidate : ColumnScore}
    {identifier : Bool} {name : String} :
    (∃ p ∈ taken ++ [(field, candidate)], p.1.isBusinessIdentifier = identifier ∧
        p.1.name = name) ↔
      (field.isBusinessIdentifier = identifier ∧ name = field.name) ∨
        ∃ p ∈ taken, p.1.isBusinessIdentifier = identifier ∧ p.1.name = name := by
  simp only [List.mem_append, List.mem_singleton]
  constructor
  · rintro ⟨p, hp | rfl, hkind, hname⟩
    · exact .inr ⟨p, hp, hkind, hname⟩
    · exact .inl ⟨hkind, hname.symm⟩
  · rintro (⟨hkind, hname⟩ | ⟨p, hp, hkind, hname⟩)
    · exact ⟨(field, candidate), .inr rfl, hkind, hname.symm⟩
    · exact ⟨p, .inl hp, hkind, hname⟩

theorem Holds.add (h : Holds claims taken) {field : OntologyFieldDefinition}
    {candidate : ColumnScore} {mapping : FieldMapping}
    (hmapping : columnMapping candidate.column.name = .ok mapping) :
    Holds (claims.add field candidate mapping) (taken ++ [(field, candidate)]) where
  usedFields := by simp [Claims.add, h.usedFields]
  usedColumns := by simp [Claims.add, h.usedColumns]
  identity name := by
    rw [exists_claim_append, ← h.identity]
    cases hidentifier : field.isBusinessIdentifier <;>
      simp [Claims.add, hidentifier, Dict.mem_keys_set]
  fields name := by
    rw [exists_claim_append, ← h.fields]
    cases hidentifier : field.isBusinessIdentifier <;>
      simp [Claims.add, hidentifier, Dict.mem_keys_set]
  plain name mapping' hget := by
    have hplain : mapping.firstSource.column.isSome = true := by
      rw [columnMapping_plain hmapping]
      rfl
    have hold := h.plain name mapping'
    simp only [Claims.add] at hget
    cases hidentifier : field.isBusinessIdentifier with
    | true =>
      simp only [hidentifier, if_true, Dict.get?_set] at hget
      grind
    | false =>
      simp only [hidentifier, Bool.false_eq_true, if_false, Dict.get?_set] at hget
      grind

/-- The loop claims the greedy choice from the pairs that score enough, and keeps what every claim
of a free pair keeps. -/
theorem assign_induction {I : Claims → List Pair → Prop} (h : Holds claims taken)
    (hI : I claims taken)
    (hadd : ∀ {claims taken field candidate mapping}, Holds claims taken → I claims taken →
      (¬∃ p ∈ taken, Competes p (field, candidate)) →
      columnMapping candidate.column.name = .ok mapping →
      I (claims.add field candidate mapping) (taken ++ [(field, candidate)]))
    (hrun : assign doubles claims l = .ok claims') :
    Holds claims' (Greedy.choose Competes taken
        (l.takeWhile fun p => minConfidence doubles ≤ p.2.score)) ∧
      I claims' (Greedy.choose Competes taken
        (l.takeWhile fun p => minConfidence doubles ≤ p.2.score)) := by
  induction l generalizing claims taken with
  | nil =>
    cases hrun
    exact ⟨h, hI⟩
  | cons p l ih =>
    obtain ⟨field, candidate⟩ := p
    unfold assign at hrun
    by_cases hlow : candidate.score < minConfidence doubles
    · rw [if_pos hlow] at hrun
      cases hrun
      rw [List.takeWhile_cons_of_neg (by simpa using hlow)]
      exact ⟨h, hI⟩
    · rw [if_neg hlow] at hrun
      have hconfident : minConfidence doubles ≤ candidate.score := not_lt.1 hlow
      rw [List.takeWhile_cons_of_pos (by simpa using hconfident), Greedy.choose]
      by_cases hused : ∃ p ∈ taken, Competes p (field, candidate)
      · rw [if_pos ((h.competes field candidate).2 hused)] at hrun
        rw [if_pos hused]
        exact ih h hI hrun
      · rw [if_neg fun hclaimed => hused ((h.competes field candidate).1 hclaimed)] at hrun
        rw [if_neg hused]
        obtain ⟨mapping, hmapping, hrest⟩ := except_bind_ok.1 hrun
        exact ih (h.add hmapping) (hadd h hI hused hmapping) hrest

/-- The loop claims the greedy choice from the pairs that score enough. -/
theorem assign_ok (h : Holds claims taken) (hrun : assign doubles claims l = .ok claims') :
    Holds claims' (Greedy.choose Competes taken
      (l.takeWhile fun p => minConfidence doubles ≤ p.2.score)) :=
  (assign_induction (I := fun _ _ => True) h trivial (fun _ _ _ _ => trivial) hrun).1

/-- A suggestion is made of what the loop has claimed, and that has an identity. -/
theorem suggestMapping_claims {ontologyEntity : OntologyEntityDefinition} {table : TableMetadata}
    {profile : Option TableProfileSummary} {result : SuggestionResult}
    (h : suggestMapping std doubles ontologyEntity table profile = .ok result) :
    ∃ claims, assign doubles {} (allScores std doubles ontologyEntity table profile) = .ok claims ∧
      claims.identity.rows ≠ [] ∧ result.document.identity = claims.identity ∧
      result.document.fields = claims.fields ∧
      result.confidence = if claims.confidences = [] then 0 else
        doubles.round (doubles.sum claims.confidences / claims.confidences.length) := by
  obtain ⟨claims, hclaims, h⟩ := except_bind_ok.1 h
  refine ⟨claims, hclaims, ?_⟩
  by_cases hidentity : claims.identity.rows = []
  · rw [dif_pos hidentity] at h
    cases h
  · rw [dif_neg hidentity] at h
    obtain ⟨source, -, h⟩ := except_bind_ok.1 h
    cases h
    exact ⟨hidentity, rfl, rfl, rfl⟩

/-- The document of a suggestion has the greedy choice, the business identifiers as its
identity. -/
theorem suggestMapping_ok {ontologyEntity : OntologyEntityDefinition} {table : TableMetadata}
    {profile : Option TableProfileSummary} {result : SuggestionResult}
    (h : suggestMapping std doubles ontologyEntity table profile = .ok result) :
    ∃ claims, Holds claims (Greedy.choose Competes []
        (candidates std doubles ontologyEntity table profile)) ∧
      result.document.identity = claims.identity ∧ result.document.fields = claims.fields := by
  obtain ⟨claims, hclaims, -, hidentity, hfields, -⟩ := suggestMapping_claims h
  exact ⟨claims, assign_ok holds_nil hclaims, hidentity, hfields⟩

/-- The pairs that are scored are those of a field of the entity and a column of the table. -/
theorem mem_allScores {ontologyEntity : OntologyEntityDefinition} {table : TableMetadata}
    {profile : Option TableProfileSummary} {p : Pair} :
    p ∈ allScores std doubles ontologyEntity table profile ↔
      ∃ field ∈ ontologyEntity.fields, ∃ column ∈ table.columns,
        (field, scoreColumn std doubles field column table profile) = p := by
  simp only [allScores, List.mem_insertionSort, List.mem_flatMap, List.mem_map]

/-- A claimed pair is of a field of the entity and scores enough. -/
theorem mem_candidates {ontologyEntity : OntologyEntityDefinition} {table : TableMetadata}
    {profile : Option TableProfileSummary} {p : Pair}
    (h : p ∈ candidates std doubles ontologyEntity table profile) :
    p.1 ∈ ontologyEntity.fields := by
  obtain ⟨field, hfield, column, -, rfl⟩ := mem_allScores.1 ((List.takeWhile_sublist _).subset h)
  exact hfield

end

end Mappings

end HermesRpt
