import HermesRpt.Lib.Process
import HermesRpt.Mappings.Expressions
import HermesRpt.System

/-!
# HermesRpt.Mappings.Footprint

`referenced_columns` bounds what an expression reads of a row. The proofs follow the tree; the list
of parts and the list of options are evaluated by loops of their own, so each has its own lemma.

* `evaluate_congr`     : rows that agree on the columns of an expression give it one result.
* `evaluate_total`     : on a row that has those columns nothing is raised.
* `evaluate_footprint` : both.
-/

namespace HermesRpt

namespace Mappings

open Effect

section

variable {std : Stdlib} {row row' : String → Option ScalarValue}

theorem mem_referencedColumnsAll_cons {column : String} {e : Expression} {es : List Expression} :
    column ∈ referencedColumnsAll (e :: es) ↔
      column ∈ referencedColumns e ∨ column ∈ referencedColumnsAll es := by
  rw [referencedColumnsAll, List.mem_append]

mutual

theorem evaluate_congr : (e : Expression) → (∀ c ∈ referencedColumns e, row c = row' c) →
    evaluate std row e = evaluate std row' e
  | .columnRef column, h => by
    have hcolumn : row column = row' column := h column (by simp [referencedColumns])
    simp only [evaluate, hcolumn]
  | .literal value, _ => by simp only [evaluate]
  | .concat parts separator, h => by
    have hparts := evaluateAll_congr parts (by simpa only [referencedColumns] using h)
    simp only [evaluate, hparts]
  | .coalesce options, h => by
    simp only [evaluate]
    exact evaluateFirst_congr options (by simpa only [referencedColumns] using h)
  | .upperCase value, h => by
    have hvalue := evaluate_congr value (by simpa only [referencedColumns] using h)
    simp only [evaluate, hvalue]
  | .lowerCase value, h => by
    have hvalue := evaluate_congr value (by simpa only [referencedColumns] using h)
    simp only [evaluate, hvalue]
  | .trim value, h => by
    have hvalue := evaluate_congr value (by simpa only [referencedColumns] using h)
    simp only [evaluate, hvalue]
  | .ifNullThenElse value ifNull, h => by
    simp only [referencedColumns, List.mem_append] at h
    have hvalue := evaluate_congr value fun c hc => h c (.inl hc)
    have hifNull := evaluate_congr ifNull fun c hc => h c (.inr hc)
    simp only [evaluate, hvalue, hifNull]

theorem evaluateAll_congr : (es : List Expression) →
    (∀ c ∈ referencedColumnsAll es, row c = row' c) →
    evaluateAll std row es = evaluateAll std row' es
  | [], _ => by simp only [evaluateAll]
  | e :: es, h => by
    have he := evaluate_congr e fun c hc => h c (mem_referencedColumnsAll_cons.2 (.inl hc))
    have hes := evaluateAll_congr es fun c hc => h c (mem_referencedColumnsAll_cons.2 (.inr hc))
    simp only [evaluateAll, he, hes]

/-- An option after the first value is not evaluated, but its columns count. -/
theorem evaluateFirst_congr : (es : List Expression) →
    (∀ c ∈ referencedColumnsAll es, row c = row' c) →
    evaluateFirst std row es = evaluateFirst std row' es
  | [], _ => by simp only [evaluateFirst]
  | e :: es, h => by
    have he := evaluate_congr e fun c hc => h c (mem_referencedColumnsAll_cons.2 (.inl hc))
    have hes := evaluateFirst_congr es fun c hc => h c (mem_referencedColumnsAll_cons.2 (.inr hc))
    simp only [evaluateFirst, he, hes]

end

mutual

theorem evaluate_total : (e : Expression) → (∀ c ∈ referencedColumns e, (row c).isSome = true) →
    ∃ value, evaluate std row e = .ok value
  | .columnRef column, h => by
    obtain ⟨value, hvalue⟩ := Option.isSome_iff_exists.1 (h column (by simp [referencedColumns]))
    exact ⟨value, by simp only [evaluate, hvalue]⟩
  | .literal value, _ => ⟨value, by simp only [evaluate]⟩
  | .concat parts separator, h => by
    obtain ⟨pieces, hpieces⟩ := evaluateAll_total parts (by simpa only [referencedColumns] using h)
    exact ⟨_, by simp only [evaluate, hpieces, except_ok_bind]; rfl⟩
  | .coalesce options, h => by
    simp only [evaluate]
    exact evaluateFirst_total options (by simpa only [referencedColumns] using h)
  | .upperCase value, h => by
    obtain ⟨v, hv⟩ := evaluate_total value (by simpa only [referencedColumns] using h)
    exact ⟨_, by simp only [evaluate, hv, except_ok_bind]; rfl⟩
  | .lowerCase value, h => by
    obtain ⟨v, hv⟩ := evaluate_total value (by simpa only [referencedColumns] using h)
    exact ⟨_, by simp only [evaluate, hv, except_ok_bind]; rfl⟩
  | .trim value, h => by
    obtain ⟨v, hv⟩ := evaluate_total value (by simpa only [referencedColumns] using h)
    exact ⟨_, by simp only [evaluate, hv, except_ok_bind]; rfl⟩
  | .ifNullThenElse value ifNull, h => by
    simp only [referencedColumns, List.mem_append] at h
    obtain ⟨v, hv⟩ := evaluate_total value fun c hc => h c (.inl hc)
    obtain ⟨w, hw⟩ := evaluate_total ifNull fun c hc => h c (.inr hc)
    simp only [evaluate, hv, except_ok_bind]
    cases v with
    | none => exact ⟨w, hw⟩
    | some v => exact ⟨some v, rfl⟩

theorem evaluateAll_total : (es : List Expression) →
    (∀ c ∈ referencedColumnsAll es, (row c).isSome = true) →
    ∃ values, evaluateAll std row es = .ok values
  | [], _ => ⟨[], by simp only [evaluateAll]⟩
  | e :: es, h => by
    obtain ⟨v, hv⟩ := evaluate_total e fun c hc => h c (mem_referencedColumnsAll_cons.2 (.inl hc))
    obtain ⟨vs, hvs⟩ := evaluateAll_total es fun c hc => h c (mem_referencedColumnsAll_cons.2 (.inr hc))
    exact ⟨v :: vs, by simp only [evaluateAll, hv, hvs, except_ok_bind]; rfl⟩

theorem evaluateFirst_total : (es : List Expression) →
    (∀ c ∈ referencedColumnsAll es, (row c).isSome = true) →
    ∃ value, evaluateFirst std row es = .ok value
  | [], _ => ⟨none, by simp only [evaluateFirst]⟩
  | e :: es, h => by
    obtain ⟨v, hv⟩ := evaluate_total e fun c hc => h c (mem_referencedColumnsAll_cons.2 (.inl hc))
    obtain ⟨w, hw⟩ := evaluateFirst_total es fun c hc => h c (mem_referencedColumnsAll_cons.2 (.inr hc))
    simp only [evaluateFirst, hv, except_ok_bind]
    cases v with
    | none => exact ⟨w, hw⟩
    | some v => exact ⟨some v, rfl⟩

end

end

/-- Two rows that agree on the referenced columns give an expression the same result, and when they
have all of these columns that result is a value. -/
theorem evaluate_footprint (std : Stdlib) (e : Expression) (row row' : String → Option ScalarValue)
    (h : ∀ c ∈ referencedColumns e, row c = row' c) :
    evaluate std row e = evaluate std row' e ∧
      ((∀ c ∈ referencedColumns e, (row c).isSome = true) →
        ∃ value, evaluate std row e = .ok value) :=
  ⟨evaluate_congr e h, evaluate_total e⟩

namespace Sample

/-- A registration, and the name of the vehicle where there is none. -/
def vehicleLabel : Expression :=
  .concat [.ifNullThenElse (.trim (.columnRef "registration")) (.columnRef "name")] ""

def vehicleRow : String → Option ScalarValue
  | "registration" => some none
  | "name" => some (some (.str "Truck"))
  | _ => none

/-- A row with one more column. -/
def widerRow (column : String) : Option ScalarValue :=
  if column = "colour" then some (some (.str "red")) else vehicleRow column

end Sample

theorem evaluate_footprint_sample :
    evaluate HermesRpt.Sample.std Sample.vehicleRow Sample.vehicleLabel =
        evaluate HermesRpt.Sample.std Sample.widerRow Sample.vehicleLabel ∧
      ∃ value, evaluate HermesRpt.Sample.std Sample.vehicleRow Sample.vehicleLabel = .ok value := by
  have hcolumns : referencedColumns Sample.vehicleLabel = ["registration", "name"] := rfl
  obtain ⟨hsame, htotal⟩ := evaluate_footprint HermesRpt.Sample.std Sample.vehicleLabel
    Sample.vehicleRow Sample.widerRow (by rw [hcolumns]; decide)
  exact ⟨hsame, htotal (by rw [hcolumns]; decide)⟩

end Mappings

end HermesRpt
