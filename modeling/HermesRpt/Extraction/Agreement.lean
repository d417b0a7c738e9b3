import HermesRpt.Extraction.Queries

/-!
# HermesRpt.Extraction.Agreement

What the result of a builder depends on: the values of the columns its statement reads, of the rows
it selects.

* `Plan.Reads`   : the answer looks at nothing else.
* `result_congr` : two databases that give the statement such rows give the same result.
* `*_reads`      : the plans of the builders.
-/

namespace HermesRpt

namespace Extraction

open Effect Connectors Mappings Features
open Keyed (Dict)

/-- Two rows with the same values in some columns. -/
def Agree (columns : List String) (row₁ row₂ : Sql.Row Value) : Prop :=
  ∀ c ∈ columns, row₁ c = row₂ c

theorem Agree.refl (columns : List String) (row : Sql.Row Value) : Agree columns row row :=
  fun _ _ => rfl

def Plan.Reads {α : Type} : Plan α → Prop
  | .done _ => True
  | .ask select answer => ∀ compare rows₁ rows₂,
    List.Forall₂ (Agree select.output.columnsRead) rows₁ rows₂ →
      answer compare rows₁ = answer compare rows₂

/-- The same statement gives rows that agree in what it returns. -/
def SameAnswer (select : Sql.Select Value) (database₁ database₂ : CustomerDatabase) : Prop :=
  Option.Rel (fun r₁ r₂ => r₁.refuses select = r₂.refuses select ∧
      List.Forall₂ (Agree select.output.columnsRead) (select.rows database₁.compare r₁.rows)
        (select.rows database₂.compare r₂.rows))
    (database₁.relation select.schemaName select.table)
    (database₂.relation select.schemaName select.table)

theorem result_congr {α : Type} {plan : Plan α} (hreads : plan.Reads)
    {database₁ database₂ : CustomerDatabase} (hcompare : database₁.compare = database₂.compare)
    (h : ∀ select, plan.select? = some select → SameAnswer select database₁ database₂) :
    plan.result database₁ = plan.result database₂ := by
  cases plan with
  | done a => rfl
  | ask select answer =>
    have hsame := h select rfl
    show (do answer database₁.compare (← database₁.run select)) =
      (do answer database₂.compare (← database₂.run select))
    unfold SameAnswer at hsame
    unfold CustomerDatabase.run
    generalize database₁.relation select.schemaName select.table = relation₁ at hsame
    generalize database₂.relation select.schemaName select.table = relation₂ at hsame
    cases hsame with
    | none => rfl
    | some hrel =>
      obtain ⟨hrefuses, hrows⟩ := hrel
      simp only [hrefuses, hcompare] at hrows ⊢
      split
      · rfl
      · exact hreads _ _ _ hrows

theorem sameAnswer_of_eq {select : Sql.Select Value} {database₁ database₂ : CustomerDatabase}
    (hcompare : database₁.compare = database₂.compare)
    (h : database₁.relation select.schemaName select.table =
      database₂.relation select.schemaName select.table) :
    SameAnswer select database₁ database₂ := by
  unfold SameAnswer
  rw [h, hcompare]
  cases database₂.relation select.schemaName select.table with
  | none => exact .none
  | some relation => exact .some ⟨rfl, List.forall₂_same.2 fun row _ => Agree.refl _ row⟩

/-! ## The plans of the builders -/

section

variable {std : Stdlib} {document : MappingDocument} {connection : CustomerDatabaseConnection}

theorem readRow_congr {columns : Dict String String} {row₁ row₂ : Sql.Row Value}
    (h : Agree columns.values row₁ row₂) : readRow columns row₁ = readRow columns row₂ := by
  unfold readRow
  exact Keyed.Dict.mapValues_congr h

theorem targetRow_reads {businessReference : String} {neededFields : List String}
    {plan : Plan (Option FieldRow)}
    (h : targetRowPlan std document businessReference neededFields connection = .ok plan) :
    plan.Reads := by
  obtain ⟨-, identity, columns, -, -, rfl⟩ := targetRowPlan_ok h
  intro compare rows₁ rows₂ hrows
  cases hrows with
  | nil => rfl
  | cons hrow _ =>
    simp only [List.head?_cons, Option.map_some]
    rw [readRow_congr hrow]

theorem recipe_reads {feature : FeatureSpec} {conditions : List (Sql.Condition Value)}
    {time : Option String} {predictionTime : DateTime} {plan : Plan (Option Value)}
    (h : recipePlan std feature document conditions time predictionTime = .ok plan) :
    plan.Reads := by
  cases recipePlan_iff.1 h with
  | count filter hkind hfilter =>
    intro compare rows₁ rows₂ hrows
    simp only [hrows.length_eq]
  | ratio column v hkind hcolumn hvalue =>
    intro compare rows₁ rows₂ hrows
    have hcount := Sql.countWhere_congr compare ⟨column, .eq, .str v⟩
      (hrows.imp fun a b hab => hab column (by simp [selectFrom, Sql.Output.columnsRead]))
    simp only [hrows.length_eq, hcount]
  | recency column hkind htime =>
    intro compare rows₁ rows₂ hrows
    have hmaximum := Sql.maximum_congr compare column
      (hrows.imp fun a b hab => hab column (by simp [selectFrom, Sql.Output.columnsRead]))
    simp only [hmaximum]
  | latest column hkind hcolumn =>
    intro compare rows₁ rows₂ hrows
    cases hrows with
    | nil => rfl
    | cons hrow _ =>
      have hvalue := hrow column (by simp [selectFrom, Sql.Output.columnsRead])
      simp only [List.head?_cons, Option.bind_some, hvalue]
  | unfiltered => trivial
  | valueless => trivial

theorem relatedFeature_reads {feature : FeatureSpec} {joinValue : Value}
    {predictionTime : DateTime} {plan : Plan (Option Value)}
    (h : relatedFeaturePlan std feature document joinValue predictionTime connection = .ok plan) :
    plan.Reads := by
  obtain ⟨-, ⟨-, rfl⟩ | ⟨join, time, times, -, -, -, hrecipe⟩⟩ := relatedFeaturePlan_ok h
  · trivial
  · exact recipe_reads hrecipe

end

end Extraction

end HermesRpt
