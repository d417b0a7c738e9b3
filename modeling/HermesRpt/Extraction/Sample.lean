import HermesRpt.Extraction.Routes
import HermesRpt.System

/-!
# HermesRpt.Extraction.Sample

A customer database with one table, for the sample runs.
-/

namespace HermesRpt

namespace Extraction

open Connectors Features

namespace Sample

/-- Numbers are compared by value, texts and times by their own order. -/
def compare : Sql.Comparison Value where
  eq := Value.pyEq
  lt v w := match v, w with
    | .datetime t, .datetime u => t < u
    | .str s, .str t => s < t
    | v, w => match v.number?, w.number? with
      | some x, some y => x < y
      | _, _ => false

/-- One table of the schema `fleet`. -/
def oneTable (table : String) (rows : List (Sql.Row Value)) : CustomerDatabase where
  compare
  relation schemaName name := if schemaName = "fleet" ∧ name = table then some { rows } else none

/-- The sample's library, and one customer database behind every engine. -/
def serving (database : CustomerDatabase) : Environment where
  std := HermesRpt.Sample.std
  secrets _ := some "secret"
  world _ := database
  now := ⟨0, 0⟩
  newId := 99

/-- The engine of the sample's connection. -/
def engine : Engine :=
  { host := "db", port := 5432, database := "fleet", username := "reader", password := "secret",
    tlsMode := "require" }

def start : ExtractionState where
  pool := Keyed.Table.empty

end Sample

end Extraction

end HermesRpt
