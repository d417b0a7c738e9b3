import HermesRpt.Extraction.Suggested
import Mathlib.Data.List.TakeWhile

/-!
# HermesRpt.Mappings.Matching

A suggestion is a stable matching of fields and columns: strong pairs are claimed first, so that a
pair that is left out has lost its field or its column to one that scores at least as high.

* `Uses`                     : what the document of a suggestion says of a pair.
* `Matching`                 : what is true of the chosen pairs.
* `Maps`                     : what the loop has written for the pairs it claimed.
* `suggestMapping_matching`  : every suggestion is a matching.
-/

namespace HermesRpt

namespace Mappings

open Effect Ontology Schemas
open Keyed (Dict)

/-- Where the document has a field of this kind. -/
def MappingDocument.mappingsOf (document : MappingDocument) (field : OntologyFieldDefinition) :
    Dict String FieldMapping :=
  if field.isBusinessIdentifier then document.identity else document.fields

/-- The document reads the field from the column. -/
def Uses (document : MappingDocument) (p : Pair) : Prop :=
  ∃ mapping, (document.mappingsOf p.1).get? p.1.name = some mapping ∧
    columnMapping p.2.column.name = .ok mapping

/-- A suggestion and the pairs that it is made of. -/
structure Matching (doubles : Doubles) (pairs : List Pair) (result : SuggestionResult)
    (chosen : List Pair) : Prop where
  mem_chosen : ∀ p, p ∈ chosen ↔ p ∈ pairs ∧ Uses result.document p
  /-- No field and no column is used twice. -/
  disjoint : chosen.Pairwise fun p q => ¬Competes p q
  confident : ∀ p ∈ chosen, minConfidence doubles ≤ p.2.score
  /-- There is no blocking pair. -/
  stable : ∀ p ∈ pairs, minConfidence doubles ≤ p.2.score → p ∉ chosen →
    ∃ q ∈ chosen, Competes q p ∧ p.2.score ≤ q.2.score
  identity : ∀ name, name ∈ result.document.identity.keys ↔
    ∃ p ∈ chosen, p.1.isBusinessIdentifier = true ∧ p.1.name = name
  fields : ∀ name, name ∈ result.document.fields.keys ↔
    ∃ p ∈ chosen, p.1.isBusinessIdentifier = false ∧ p.1.name = name
  confidence : result.confidence =
    doubles.round (doubles.sum (chosen.map (·.2.score)) / chosen.length)

/-- The loop has written the mappings and the scores of the pairs of `taken`. -/
structure Maps (claims : Claims) (taken : List Pair) : Prop where
  mapping : ∀ p ∈ taken, ∃ mapping,
    (if p.1.isBusinessIdentifier then claims.identity else claims.fields).get? p.1.name =
      some mapping ∧ columnMapping p.2.column.name = .ok mapping
  confidences : claims.confidences = taken.map (·.2.score)

section

variable {std : Stdlib} {doubles : Doubles} {claims : Claims} {taken : List Pair}
  {ontologyEntity : OntologyEntityDefinition} {table : TableMetadata}
  {profile : Option TableProfileSummary} {result : SuggestionResult} {p q : Pair}

/-- In a list in order, what holds of an element and of everything before one of which it holds
is taken from the front. -/
theorem mem_takeWhile_of_pairwise {α : Type} {r : α → α → Prop} {f : α → Bool} {l : List α} {b : α}
    (h : l.Pairwise r) (hf : ∀ a c, r a c → f c = true → f a = true) (hb : b ∈ l)
    (hfb : f b = true) : b ∈ l.takeWhile f := by
  induction l with
  | nil => cases hb
  | cons a l ih =>
    obtain ⟨hfirst, hrest⟩ := List.pairwise_cons.1 h
    rcases List.mem_cons.1 hb with rfl | hmem
    · simp [hfb]
    · rw [List.takeWhile_cons_of_pos (hf a b (hfirst b hmem) hfb)]
      exact List.mem_cons_of_mem a (ih hrest hmem)

theorem maps_nil : Maps {} [] where
  mapping p hp := by cases hp
  confidences := rfl

/-- A new claim is of a field of another name, so the earlier mappings stay. -/
theorem Maps.add (h : Maps claims taken) {field : OntologyFieldDefinition}
    {candidate : ColumnScore} {mapping : FieldMapping}
    (hfree : ¬∃ p ∈ taken, Competes p (field, candidate))
    (hmapping : columnMapping candidate.column.name = .ok mapping) :
    Maps (claims.add field candidate mapping) (taken ++ [(field, candidate)]) where
  mapping p hp := by
    rcases List.mem_append.1 hp with hold | hnew
    · have hname : p.1.name ≠ field.name := fun heq => hfree ⟨p, hold, .inl heq⟩
      obtain ⟨mapping', hget, hplain⟩ := h.mapping p hold
      refine ⟨mapping', ?_, hplain⟩
      cases hkind : p.1.isBusinessIdentifier <;> cases hidentifier : field.isBusinessIdentifier <;>
        simpa [Claims.add, hkind, hidentifier, Dict.get?_set, hname, hname.symm] using hget
    · obtain rfl := List.mem_singleton.1 hnew
      refine ⟨mapping, ?_, hmapping⟩
      cases hidentifier : field.isBusinessIdentifier <;>
        simp [Claims.add, hidentifier, Dict.get?_set]
  confidences := by simp [Claims.add, h.confidences]

/-- A pair that is scored is known by the names of its field and its column. -/
theorem pair_eq (hcolumns : (table.columns.map (·.name)).Nodup)
    (hp : p ∈ allScores std doubles ontologyEntity table profile)
    (hq : q ∈ allScores std doubles ontologyEntity table profile) (hname : p.1.name = q.1.name)
    (hcolumn : p.2.column.name = q.2.column.name) : p = q := by
  obtain ⟨field, hfield, column, hc, rfl⟩ := mem_allScores.1 hp
  obtain ⟨field', hfield', column', hc', rfl⟩ := mem_allScores.1 hq
  obtain rfl : field = field' := Extraction.field_eq_of_name hfield hfield' hname
  obtain rfl : column = column' := List.inj_on_of_nodup_map hcolumns hc hc' hcolumn
  rfl

theorem allScores_pairwise : (allScores std doubles ontologyEntity table profile).Pairwise
    fun p q => q.2.score ≤ p.2.score := by
  let r : Pair → Pair → Prop := fun p q => q.2.score ≤ p.2.score
  have : Std.Total r := ⟨fun p q => le_total q.2.score p.2.score⟩
  have : IsTrans Pair r := ⟨fun p q s hpq hqs => le_trans hqs hpq⟩
  exact List.pairwise_insertionSort r _

theorem mem_candidates_iff : p ∈ candidates std doubles ontologyEntity table profile ↔
    p ∈ allScores std doubles ontologyEntity table profile ∧
      minConfidence doubles ≤ p.2.score := by
  constructor
  · intro h
    rw [candidates] at h
    exact ⟨(List.takeWhile_sublist _).subset h, by simpa using List.mem_takeWhile_imp h⟩
  · rintro ⟨hmem, hscore⟩
    refine mem_takeWhile_of_pairwise allScores_pairwise ?_ hmem (decide_eq_true hscore)
    intro p q hle hq
    exact decide_eq_true (le_trans (of_decide_eq_true hq) hle)

/-- A pair that scores enough is chosen, or it is blocked by a chosen one. -/
theorem choose_stable (hp : p ∈ candidates std doubles ontologyEntity table profile)
    (hout : p ∉ Greedy.choose Competes [] (candidates std doubles ontologyEntity table profile)) :
    ∃ q ∈ Greedy.choose Competes [] (candidates std doubles ontologyEntity table profile),
      Competes q p ∧ p.2.score ≤ q.2.score := by
  obtain ⟨i, hi⟩ := List.mem_iff_getElem?.1 hp
  obtain ⟨j, q, hlt, hj, hq, hcompetes⟩ := Greedy.exists_blocking hi hout
  refine ⟨q, hq, hcompetes, ?_⟩
  have hsorted : (candidates std doubles ontologyEntity table profile).Pairwise
      fun p q => q.2.score ≤ p.2.score :=
    allScores_pairwise.sublist (List.takeWhile_sublist _)
  obtain ⟨hi', rfl⟩ := List.getElem?_eq_some_iff.1 hi
  obtain ⟨hj', rfl⟩ := List.getElem?_eq_some_iff.1 hj
  exact List.pairwise_iff_getElem.1 hsorted j i hj' hi' hlt

end

/-- The suggestion for a table whose columns have distinct names is a stable matching. -/
theorem suggestMapping_matching (std : Stdlib) (doubles : Doubles)
    (ontologyEntity : OntologyEntityDefinition) (table : TableMetadata)
    (profile : Option TableProfileSummary) (result : SuggestionResult)
    (hcolumns : (table.columns.map (·.name)).Nodup)
    (h : suggestMapping std doubles ontologyEntity table profile = .ok result) :
    ∃ chosen, Matching doubles (allScores std doubles ontologyEntity table profile) result
      chosen := by
  obtain ⟨claims, hrun, hidentity_ne, hidentity, hfields, hconfidence⟩ := suggestMapping_claims h
  obtain ⟨hholds, hmaps⟩ := assign_induction (I := Maps) holds_nil maps_nil
    (fun _ hI hfree hmapping => hI.add hfree hmapping) hrun
  let chosen := Greedy.choose Competes [] (candidates std doubles ontologyEntity table profile)
  have hchosen : ∀ p ∈ chosen, p ∈ candidates std doubles ontologyEntity table profile :=
    fun p hp => (Greedy.mem_of_mem_choose hp).resolve_left List.not_mem_nil
  have huses : ∀ p ∈ chosen, Uses result.document p := by
    intro p hp
    obtain ⟨mapping, hget, hplain⟩ := hmaps.mapping p hp
    refine ⟨mapping, ?_, hplain⟩
    rwa [MappingDocument.mappingsOf, hidentity, hfields]
  have hkeys : ∀ name, name ∈ result.document.identity.keys ↔
      ∃ p ∈ chosen, p.1.isBusinessIdentifier = true ∧ p.1.name = name :=
    fun name => hidentity ▸ hholds.identity name
  have hother : ∀ name, name ∈ result.document.fields.keys ↔
      ∃ p ∈ chosen, p.1.isBusinessIdentifier = false ∧ p.1.name = name :=
    fun name => hfields ▸ hholds.fields name
  refine ⟨chosen, ?_, Greedy.pairwise_choose List.Pairwise.nil,
    fun p hp => (mem_candidates_iff.1 (hchosen p hp)).2,
    fun p hp hscore hout => choose_stable (mem_candidates_iff.2 ⟨hp, hscore⟩) hout, hkeys, hother,
    ?_⟩
  · intro p
    constructor
    · intro hp
      exact ⟨(mem_candidates_iff.1 (hchosen p hp)).1, huses p hp⟩
    · rintro ⟨hp, mapping, hget, hplain⟩
      -- the document has the field, for which a pair was chosen; its column is the same
      have hfield : ∃ q ∈ chosen, q.1.isBusinessIdentifier = p.1.isBusinessIdentifier ∧
          q.1.name = p.1.name := by
        have hmem := Dict.mem_keys.2 ⟨mapping, hget⟩
        cases hkind : p.1.isBusinessIdentifier with
        | true => exact (hkeys p.1.name).1 (by simpa [MappingDocument.mappingsOf, hkind] using hmem)
        | false =>
          exact (hother p.1.name).1 (by simpa [MappingDocument.mappingsOf, hkind] using hmem)
      obtain ⟨q, hq, hkind, hname⟩ := hfield
      obtain ⟨mapping', hget', hplain'⟩ := huses q hq
      rw [MappingDocument.mappingsOf, hkind, hname] at hget'
      obtain rfl : mapping = mapping' := Option.some.inj (hget.symm.trans hget')
      have hcolumn : p.2.column.name = q.2.column.name :=
        Option.some.inj ((columnMapping_plain hplain).symm.trans (columnMapping_plain hplain'))
      rwa [pair_eq hcolumns hp (mem_candidates_iff.1 (hchosen q hq)).1 hname.symm hcolumn]
  · have hne : claims.confidences ≠ [] := by
      rw [hmaps.confidences]
      intro hnil
      obtain ⟨name, hname⟩ := List.exists_mem_of_ne_nil claims.identity.rows hidentity_ne
      have hkey : name.1 ∈ claims.identity.keys := List.mem_map_of_mem hname
      obtain ⟨p, hp, -⟩ := (hholds.identity name.1).1 hkey
      rw [List.map_eq_nil_iff.1 hnil] at hp
      cases hp
    rw [hconfidence, if_neg hne, hmaps.confidences, List.length_map]
    rfl

theorem suggestMapping_matching_sample : ∃ result,
    suggestMapping HermesRpt.Sample.std Extraction.Sample.doubles V1.order
      Extraction.Sample.orderColumns none = .ok result ∧
    ∃ chosen, Matching Extraction.Sample.doubles
      (allScores HermesRpt.Sample.std Extraction.Sample.doubles V1.order
        Extraction.Sample.orderColumns none) result chosen := by
  have hrun : (suggestMapping HermesRpt.Sample.std Extraction.Sample.doubles V1.order
      Extraction.Sample.orderColumns none).map (fun result => result.document.identity.keys) =
        .ok ["order_id"] := by
    decide +kernel
  cases hresult : suggestMapping HermesRpt.Sample.std Extraction.Sample.doubles V1.order
      Extraction.Sample.orderColumns none with
  | error e =>
    rw [hresult] at hrun
    cases hrun
  | ok result =>
    exact ⟨result, rfl, suggestMapping_matching HermesRpt.Sample.std Extraction.Sample.doubles
      V1.order Extraction.Sample.orderColumns none result (by decide) hresult⟩

end Mappings

end HermesRpt
