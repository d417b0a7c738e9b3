import HermesRpt.Extraction.Queries
import HermesRpt.Extraction.Sample

/-!
# HermesRpt.Extraction.Filters

The filters of a mapping document. No builder reads them.

* `passes`           : what the filters of a document ask of a row.
* `FiltersRespected` : no statement of a query selects a row that fails a filter.
-/

namespace HermesRpt

namespace Extraction

open Effect Connectors Mappings Features
open Keyed (Dict)

/-- A comparison with `NULL` is not true. -/
def filterHolds (compare : Sql.Comparison Value) (row : Sql.Row Value)
    (filter : FilterCondition) : Bool :=
  (filter.equals.all fun w => (row filter.column).any (compare.eq · w)) &&
    (filter.notEquals.all fun w => (row filter.column).any fun v => !compare.eq v w) &&
    filter.isNull.all fun isNull => (row filter.column).isNone = isNull

def passes (compare : Sql.Comparison Value) (document : MappingDocument) (row : Sql.Row Value) :
    Bool := document.filters.all (filterHolds compare row)

/-- A row is among those from which the result of a statement is made. -/
def Contributes (database : CustomerDatabase) (select : Sql.Select Value) (row : Sql.Row Value) :
    Prop := ∃ rows, database.run select = .ok rows ∧ row ∈ rows

/-- In every database state, what the query sends selects no row that fails a filter. -/
def FiltersRespected (std : Stdlib) (compare : Sql.Comparison Value) (document : MappingDocument)
    (connection : CustomerDatabaseConnection) (query : Query) : Prop :=
  ∀ (env : Environment) (engine : Engine) (pool : PoolRegistry), env.std = std →
    (env.world engine).compare = compare →
    ∀ p ∈ (query.run env engine document connection { pool }).2.statements,
      ∀ row, Contributes (env.world p.1) p.2 row → passes compare document row = true

/-- A server with one row in every table. -/
def oneRow (std : Stdlib) (compare : Sql.Comparison Value) (row : Sql.Row Value) : Environment where
  std
  secrets _ := none
  world _ := { compare, relation := fun _ _ => some { rows := [row] } }
  now := ⟨0, 0⟩
  newId := 0

/-- The filters are respected exactly when the query's own comparisons imply them, or no statement
is sent. -/
theorem filters_respected_iff (std : Stdlib) (compare : Sql.Comparison Value)
    (document : MappingDocument) (connection : CustomerDatabaseConnection) (query : Query) :
    FiltersRespected std compare document connection query ↔
      (Allowlisted document connection → query.Sends document → query.limit ≠ some 0 →
        ∀ row, (∀ c ∈ query.comparisons document, c.holds compare row = true) →
          passes compare document row = true) := by
  constructor
  · intro h hallowed hsends hlimit row hrow
    obtain ⟨select, answer, hplan⟩ :
        ∃ select answer, query.plan std document connection = .ok (.ask select answer) :=
      Query.asks_of_sends hallowed hsends
    obtain ⟨-, -, hasks⟩ := Query.asks hplan rfl
    refine h (oneRow std compare row) Sample.engine Keyed.Table.empty rfl rfl
      (Sample.engine, select) (Query.mem_statements.2 (.inr ⟨_, select, hplan, rfl, rfl⟩)) row
      ⟨[row], ?_, by simp⟩
    refine CustomerDatabase.run_ok.2 ⟨{ rows := [row] }, rfl, rfl, ?_⟩
    exact (Sql.rows_singleton (hasks.conditions ▸ hrow) (hasks.limit ▸ hlimit)).symm
  · intro h env engine pool hstd hcompare p hp row hcontributes
    rcases Query.mem_statements.1 hp with hp | ⟨plan, select, hplan, hselect, rfl⟩
    · cases hp
    obtain ⟨hallowed, hsends, hasks⟩ := Query.asks hplan hselect
    obtain ⟨rows, hrun, hrow⟩ := hcontributes
    obtain ⟨relation, -, -, rfl⟩ := CustomerDatabase.run_ok.1 hrun
    have hlimit := Sql.limit_ne_zero hrow
    have hconditions := (Sql.mem_rows hrow).2
    rw [hasks.limit] at hlimit
    rw [hasks.conditions, hcompare] at hconditions
    exact h hallowed hsends hlimit row hconditions

namespace Sample

open HermesRpt.Sample (std document connection isIdentifier_in_use)

/-- Only vehicles in use. -/
def inUse : MappingDocument :=
  { document with
    filters := [{
      column := "in_use", equals := some (.bool true), column_identifier := isIdentifier_in_use }] }

def retiredRow : Sql.Row Value := fun column =>
  if column = "vehicle_no" then some (.str "v1")
  else if column = "plate" then some (.str "AB-1")
  else if column = "in_use" then some (.bool false)
  else none

end Sample

/-- A row that fails the document's filter is the target row. -/
theorem filtered_row_fetched :
    passes Sample.compare Sample.inUse Sample.retiredRow = false ∧
      ((fetchTargetRow (Sample.serving (Sample.oneTable "vehicles" [Sample.retiredRow]))
          Sample.engine Sample.inUse "v1" ["registration_number"] HermesRpt.Sample.connection
          Sample.start).1.map fun record => record.map (·.value "registration_number")) =
        .ok (some (some (.str "AB-1"))) ∧
      ¬FiltersRespected HermesRpt.Sample.std Sample.compare Sample.inUse HermesRpt.Sample.connection
        (.targetRow "v1" ["registration_number"]) := by
  refine ⟨by decide, by decide +kernel, fun h => ?_⟩
  have hpasses := (filters_respected_iff _ _ _ _ _).1 h ⟨by decide, by decide⟩
    ⟨⟨"vehicle_id", rfl, rfl⟩, fun f hf => by
      rw [List.mem_singleton.1 hf]; exact .inr rfl⟩ (by decide) Sample.retiredRow
    (by decide +kernel)
  revert hpasses
  decide

end Extraction

end HermesRpt
