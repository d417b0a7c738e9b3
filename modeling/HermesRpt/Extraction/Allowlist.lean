import HermesRpt.Extraction.Queries
import HermesRpt.Extraction.Sample
import HermesRpt.Schemas.Profiling

/-!
# HermesRpt.Extraction.Allowlist

Which tables the platform reads rows of. The query builders check the connection's allowlists;
profiling samples what introspection found, which is restricted by schema only.

* `RowReader` : the operations that read rows of a customer database.
* `Confined`  : every statement names an approved schema and an approved table.
* `Approved`  : the condition on the operation under which it is confined.
-/

namespace HermesRpt

namespace Extraction

open Effect Connectors Mappings Features Schemas

inductive RowReader where
  | query (document : MappingDocument) (query : Query)
  | discovery (catalog : Catalog) (profiling : Option ProfilingConfig)

def RowReader.run (env : Environment) (reSearch : ReSearch) (engine : Engine)
    (connection : CustomerDatabaseConnection) : RowReader → Extraction Unit
  | .query document q => do
    let _ ← q.run env engine document connection
  | .discovery catalog profiling => do
    let _ ← discoverRows env reSearch engine catalog connection profiling

/-- Every statement the operation sends is on a table of both allowlists. -/
def Confined (std : Stdlib) (connection : CustomerDatabaseConnection) (reader : RowReader) : Prop :=
  ∀ (env : Environment) (reSearch : ReSearch) (engine : Engine) (pool : PoolRegistry),
    env.std = std →
    ∀ p ∈ (reader.run env reSearch engine connection { pool }).2.statements,
      p.2.schemaName ∈ connection.schemaAllowlist ∧ p.2.table ∈ connection.tableAllowlist

/-- Profiling is off, or the tables it comes to are approved: the first ones that introspection
finds, up to one with an unsafe identifier. -/
def Approved (std : Stdlib) (connection : CustomerDatabaseConnection) : RowReader → Prop
  | .query _ _ => True
  | .discovery catalog profiling => ∀ config, profiling = some config → config.enabled = true →
      ∀ table ∈ ((introspect std catalog connection.schemaAllowlist).tables.take
        config.maxTables).takeWhile (·.safe), table.name ∈ connection.tableAllowlist

section

variable {std : Stdlib} {connection : CustomerDatabaseConnection}

theorem state_of_discard {α : Type} (x : Extraction α) (s : ExtractionState) :
    ((do let _ ← x : Extraction Unit) s).2 = (x s).2 := by
  rcases h : x s with ⟨r, s'⟩
  cases r with
  | error e =>
    have hx : (do let _ ← x : Extraction Unit) s = (.error e, s') := Process.bind_error h
    rw [hx]
  | ok a =>
    have hx : (do let _ ← x : Extraction Unit) s = (.ok (), s') := Process.bind_ok h
    rw [hx]

/-- A query builder is confined. -/
theorem confined_query (document : MappingDocument) (query : Query) :
    Confined std connection (.query document query) := by
  intro env reSearch engine pool _ p hp
  have hstate := state_of_discard (query.run env engine document connection) { pool }
  simp only [RowReader.run] at hp
  rw [hstate] at hp
  rcases Query.mem_statements.1 hp with hp | ⟨plan, select, hplan, hselect, rfl⟩
  · cases hp
  obtain ⟨hallowed, -, hasks⟩ := Query.asks hplan hselect
  simp only [hasks.schemaName, hasks.table]
  exact hallowed

theorem discoverRows_statements (env : Environment) (reSearch : ReSearch) (engine : Engine)
    (catalog : Catalog) (profiling : Option ProfilingConfig) (s : ExtractionState) :
    (discoverRows env reSearch engine catalog connection profiling s).2 =
      match profiling with
      | none => s
      | some config =>
        if config.enabled then (runProfiling env reSearch engine config
          (introspect env.std catalog connection.schemaAllowlist).tables s).2
        else s := by
  unfold discoverRows
  cases profiling with
  | none => rfl
  | some config =>
    cases hon : config.enabled with
    | false => simp [hon, pure, Process.pure]
    | true =>
      simp only [hon, if_true]
      rcases h : runProfiling env reSearch engine config
        (introspect env.std catalog connection.schemaAllowlist).tables s with ⟨r, s'⟩
      cases r with
      | error e => exact congrArg Prod.snd (Process.bind_error h)
      | ok profiles => exact congrArg Prod.snd (Process.bind_ok h)

/-- A server on which every statement succeeds, without a row. -/
def emptyServer (std : Stdlib) : Environment where
  std
  secrets _ := none
  world _ := {
    compare := { eq := fun _ _ => false, lt := fun _ _ => false }
    relation := fun _ _ => some { rows := [] } }
  now := ⟨0, 0⟩
  newId := 0

theorem confined_discovery (catalog : Catalog) (profiling : Option ProfilingConfig) :
    Confined std connection (.discovery catalog profiling) ↔
      Approved std connection (.discovery catalog profiling) := by
  constructor
  · rintro h config rfl hon table htable
    have hsent := h (emptyServer std) (fun _ _ => false) Sample.engine Keyed.Table.empty rfl
      (Sample.engine, sampleStatement table config)
    simp only [RowReader.run] at hsent
    rw [state_of_discard, discoverRows_statements] at hsent
    simp only [hon, if_true] at hsent
    refine (hsent ?_).2
    refine mem_of_sampled (fun select => ?_) (.inr ⟨table, htable, rfl⟩)
    exact ⟨_, CustomerDatabase.run_ok.2 ⟨_, rfl, rfl, rfl⟩⟩
  · rintro h env reSearch engine pool rfl p hp
    simp only [RowReader.run] at hp
    rw [state_of_discard, discoverRows_statements] at hp
    cases profiling with
    | none => cases hp
    | some config =>
      cases hon : config.enabled with
      | false => simp [hon] at hp
      | true =>
        simp only [hon, if_true] at hp
        rcases sampled_of_mem hp with hp | ⟨table, htable, rfl⟩
        · cases hp
        have hfound := List.mem_of_mem_take (List.takeWhile_subset _ htable)
        exact ⟨schemaName_of_introspect hfound, h config rfl hon table htable⟩

end

/-- Every operation is confined exactly when profiling comes to approved tables only. -/
theorem confined_iff (std : Stdlib) (connection : CustomerDatabaseConnection)
    (reader : RowReader) : Confined std connection reader ↔ Approved std connection reader := by
  cases reader with
  | query document query => exact iff_of_true (confined_query document query) trivial
  | discovery catalog profiling => exact confined_discovery catalog profiling

namespace Sample

/-- The catalog of a server with a table that is not approved. -/
def catalog : Catalog where
  tables := [⟨"fleet", "payroll", "BASE TABLE"⟩]

def payroll : TableMetadata := { schemaName := "fleet", name := "payroll", kind := "table" }

end Sample

/-- Profiling samples the rows of a table that is not on the table allowlist. -/
theorem payroll_sampled :
    ((discoverRows (Sample.serving (Sample.oneTable "payroll" [])) (fun _ _ => false) Sample.engine
        Sample.catalog HermesRpt.Sample.connection (some { enabled := true })
        Sample.start).2.statements.map fun p => (p.2.schemaName, p.2.table)) =
      [("fleet", "payroll")] ∧
      "payroll" ∉ HermesRpt.Sample.connection.tableAllowlist ∧
      ¬Confined HermesRpt.Sample.std HermesRpt.Sample.connection
        (.discovery Sample.catalog (some { enabled := true })) := by
  refine ⟨by decide +kernel, by decide, fun h => ?_⟩
  have happroved := (confined_iff _ _ _).1 h { enabled := true } rfl rfl Sample.payroll
    (by decide +kernel)
  revert happroved
  decide

end Extraction

end HermesRpt
