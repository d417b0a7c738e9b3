import HermesRpt.Lifecycle.Submission

/-!
# HermesRpt.Mappings.Identifiers

The identifiers of a mapping document, and what the validators of its models leave open: the
pattern accepts a final line break, and a column in a derived expression is checked by no one.

* `Checked`               : the places with a validator.
* `Derived`               : the columns of derived expressions, at any depth.
* `plainIdentifier_iff`   : what the pattern says of a name without a final line break.
* `identifiers_plain_iff` : when all of them are plain identifiers.
-/

namespace HermesRpt

namespace Mappings

open Keyed (Dict)
open Lifecycle (Mentions)

/-- A letter or an underscore, followed by letters, digits or underscores, and nothing else. -/
def PlainIdentifier (name : String) : Prop :=
  ∃ c rest, name.toList = c :: rest ∧ isIdentifierStart c = true ∧
    ∀ d ∈ rest, isIdentifierPart d = true

def EndsInLineBreak (name : String) : Prop := name.toList.getLast? = some '\n'

instance : DecidablePred EndsInLineBreak := fun name =>
  inferInstanceAs (Decidable (name.toList.getLast? = some '\n'))

/-- A value source of a field of the document. -/
def MappingDocument.HasSource (document : MappingDocument) (source : ValueSource) : Prop :=
  ∃ p, (p ∈ document.identity.rows ∨ p ∈ document.fields.rows) ∧ source ∈ p.2.sources

/-- The name stands where a model of the document calls `_validate_identifier`. -/
inductive Checked (document : MappingDocument) (name : String) : Prop where
  | schema (h : document.source.schemaName = name)
  | table (h : document.source.table = name)
  | column (source : ValueSource) (hs : document.HasSource source) (h : source.column = some name)
  | filter (filter : FilterCondition) (hf : filter ∈ document.filters) (h : filter.column = name)
  | join (join : JoinDefinition) (hj : join ∈ document.joins)
      (h : name ∈ [join.schemaName, join.table, join.localColumn, join.foreignColumn])

/-- The name is a column in a derived expression of the document. -/
def Derived (document : MappingDocument) (name : String) : Prop :=
  ∃ source, document.HasSource source ∧ ∃ e, source.derived = some e ∧ Mentions name e

section

variable {document : MappingDocument} {name : String}

theorem isIdentifierPart_ne {c : Char} (h : isIdentifierPart c = true) : c ≠ '\n' := by
  rintro rfl
  revert h
  decide

theorem isIdentifierStart_part {c : Char} (h : isIdentifierStart c = true) :
    isIdentifierPart c = true := by
  simp [isIdentifierPart, h]

/-- A plain identifier ends in one of its own characters. -/
theorem PlainIdentifier.no_line_break (h : PlainIdentifier name) : ¬EndsInLineBreak name := by
  obtain ⟨c, rest, hname, hc, hrest⟩ := h
  intro hlast
  rw [EndsInLineBreak, hname] at hlast
  have hmem : '\n' ∈ c :: rest := List.mem_of_getLast? hlast
  rcases List.mem_cons.1 hmem with rfl | hd
  · exact isIdentifierPart_ne (isIdentifierStart_part hc) rfl
  · exact isIdentifierPart_ne (hrest _ hd) rfl

theorem isIdentifier_of_no_line_break (h : ¬EndsInLineBreak name) :
    isIdentifier name = true ↔ PlainIdentifier name := by
  rw [isIdentifier, PlainIdentifier]
  simp only [if_neg (show ¬name.toList.getLast? = some '\n' from h)]
  cases name.toList with
  | nil => simp
  | cons c rest => simp

/-- The pattern accepts the plain identifiers, and among the other names only some with a final
line break. -/
theorem plainIdentifier_iff :
    PlainIdentifier name ↔ isIdentifier name = true ∧ ¬EndsInLineBreak name := by
  constructor
  · intro h
    exact ⟨(isIdentifier_of_no_line_break h.no_line_break).2 h, h.no_line_break⟩
  · rintro ⟨h, hlast⟩
    exact (isIdentifier_of_no_line_break hlast).1 h

/-- A document that was built has passed every validator. -/
theorem Checked.isIdentifier (h : Checked document name) : isIdentifier name = true := by
  cases h with
  | schema h => exact h ▸ document.source.schema_identifier
  | table h => exact h ▸ document.source.table_identifier
  | column source hs h =>
    have hcolumn := source.column_identifier
    simpa only [h, Option.all_some] using hcolumn
  | filter filter hf h => exact h ▸ filter.column_identifier
  | join join hj h => exact List.all_eq_true.1 join.identifiers name h

end

/-- Every identifier of a document is plain exactly when none ends in a line break and the columns
of its derived expressions would pass the check that they do not get. -/
theorem identifiers_plain_iff (document : MappingDocument) :
    (∀ name, Checked document name ∨ Derived document name → PlainIdentifier name) ↔
      (∀ name, Checked document name ∨ Derived document name → ¬EndsInLineBreak name) ∧
        ∀ name, Derived document name → isIdentifier name = true := by
  constructor
  · intro h
    exact ⟨fun name hname => (h name hname).no_line_break,
      fun name hname => (plainIdentifier_iff.1 (h name (.inr hname))).1⟩
  · rintro ⟨hlast, hderived⟩ name hname
    refine plainIdentifier_iff.2 ⟨?_, hlast name hname⟩
    rcases hname with hchecked | hname
    · exact hchecked.isIdentifier
    · exact hderived name hname

namespace Sample

open HermesRpt.Sample (document)

theorem isIdentifier_line_break : isIdentifier "vehicles\n" = true := by decide

/-- The table's name ends in a line break. -/
def lineBreakDocument : MappingDocument :=
  { document with
    source := { document.source with
                table := "vehicles\n", table_identifier := isIdentifier_line_break } }

theorem column_ref_one_kind (e : Expression) : (none : Option String).isSome.toNat +
    (none : ScalarValue).isSome.toNat + (some e).isSome.toNat = 1 := rfl

theorem no_column : (none : Option String).all isIdentifier = true := rfl

theorem no_options : (truthy none || truthy none ||
    (none : Option (Dict String String)).any (!·.rows.isEmpty)) = true →
      (none : Option String).isSome = true := by simp [truthy]

/-- A source that derives its value from one column. -/
def trimmed (column : String) : ValueSource where
  derived := some (.trim (.columnRef column))
  one_kind := column_ref_one_kind _
  column_identifier := no_column
  column_only := no_options

/-- The name is made from the column of that name, which has a blank in it. -/
def blankDocument : MappingDocument :=
  { document with fields := ⟨[("registration_number", ⟨[trimmed "number plate"], none,
      List.cons_ne_nil _ _⟩)], List.nodup_singleton _⟩ }

end Sample

/-- A table with a final line break, and a derived column with a blank. -/
theorem identifiers_not_plain :
    (¬∀ name, Checked Sample.lineBreakDocument name ∨ Derived Sample.lineBreakDocument name →
        PlainIdentifier name) ∧
      ¬∀ name, Checked Sample.blankDocument name ∨ Derived Sample.blankDocument name →
        PlainIdentifier name := by
  constructor
  · intro h
    have hplain := h "vehicles\n" (.inl (.table rfl))
    exact hplain.no_line_break (by decide)
  · intro h
    have hplain := h "number plate" (.inr ⟨Sample.trimmed "number plate",
      ⟨_, .inr (List.mem_singleton_self _), List.mem_singleton_self _⟩, _, rfl,
      .trim .columnRef⟩)
    have hcheck := (plainIdentifier_iff.1 hplain).1
    revert hcheck
    decide

end Mappings

end HermesRpt
