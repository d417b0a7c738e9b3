import HermesRpt.Features.Runtime
import HermesRpt.Schemas.Introspector
import HermesRpt.Schemas.Service

/-!
# HermesRpt.Schemas.Profiling

Limited data profiling: a sample of each table's rows, summarised by column.

* `profileTable`  : one table.
* `discoverRows`  : the part of `run_discovery` that asks the customer database.
-/

namespace HermesRpt

namespace Schemas

open Effect Connectors Features

/-- `re.search(pattern, s, re.IGNORECASE) is not None` -/
abbrev ReSearch := String → String → Bool

/-- `_CREDENTIAL_COLUMN_PATTERN` -/
def credentialColumnPattern : String :=
  "(password|secret|token|credential|api[_-]?key|private[_-]?key|access[_-]?key)"

/-- `_DEFAULT_PERSONAL_FIELD_PATTERNS` -/
def defaultPersonalFieldPatterns : List String := [
  "(email|e[-_]?mail)",
  "(phone|mobile|telephone)",
  "(ssn|social[_-]?security|national[_-]?id|passport)",
  "(address|street|zip|postal)",
  "(first[_-]?name|last[_-]?name|full[_-]?name|surname)",
  "(date[_-]?of[_-]?birth|dob|birthdate)"]

structure ColumnProfileSummary where
  columnName : String
  isCredentialExcluded : Bool := false
  isMaskedPersonalField : Bool := false
  nullFraction : Option ℚ := none
  distinctCountEstimate : Option Nat := none
  sampleValues : Option (List String) := none

structure TableProfileSummary where
  table : String
  sampledRowCount : Nat
  columns : List ColumnProfileSummary := []

def isCredentialColumn (reSearch : ReSearch) (name : String) (extraDenylist : List String) : Bool :=
  reSearch credentialColumnPattern name || extraDenylist.any (reSearch · name)

def isLikelyPersonalField (reSearch : ReSearch) (name : String) : Bool :=
  defaultPersonalFieldPatterns.any (reSearch · name)

def safeIdentifier (identifier : String) : Bool :=
  '"' ∉ identifier.toList ∧ '\x00' ∉ identifier.toList

/-- `_assert_safe_identifier` -/
def assertSafeIdentifier (identifier : String) : Except PyError Unit :=
  if safeIdentifier identifier then .ok ()
  else .error ⟨.ValueError, "Unsafe identifier rejected: " ++ reprStr identifier⟩

def profileColumn (std : Stdlib) (reSearch : ReSearch) (config : ProfilingConfig)
    (rows : List (Sql.Row Value)) (column : ColumnMetadata) : ColumnProfileSummary :=
  if isCredentialColumn reSearch column.name config.denylistedColumnPatterns then
    { columnName := column.name, isCredentialExcluded := true }
  else
    let nonNull := rows.filterMap (· column.name)
    let masked := isLikelyPersonalField reSearch column.name
    { columnName := column.name, isMaskedPersonalField := masked
      nullFraction := if rows = [] then none else some (1 - (nonNull.length : ℚ) / rows.length)
      distinctCountEstimate := some (nonNull.map (·.toStr std)).dedup.length
      sampleValues := if masked then none else some ((nonNull.take 5).map (·.toStr std)) }

/-- `SELECT * FROM "schema"."name" LIMIT :limit` -/
def sampleStatement (table : TableMetadata) (config : ProfilingConfig) : Sql.Select Value :=
  { schemaName := table.schemaName, table := table.name,
    output := .columns (table.columns.map (·.name)), limit := some config.sampleRows }

def profileTable (env : Environment) (reSearch : ReSearch) (engine : Engine)
    (table : TableMetadata) (config : ProfilingConfig) : Extraction TableProfileSummary := do
  Process.lift (assertSafeIdentifier table.schemaName)
  Process.lift (assertSafeIdentifier table.name)
  let rows ← execute env engine (sampleStatement table config)
  return { table := table.qualifiedName, sampledRowCount := rows.length,
           columns := table.columns.map (profileColumn env.std reSearch config rows) }

/-- `profiles.append(…)` -/
def profileStep (env : Environment) (reSearch : ReSearch) (engine : Engine)
    (config : ProfilingConfig) (profiles : List TableProfileSummary) (table : TableMetadata) :
    Extraction (List TableProfileSummary) := do
  return profiles ++ [← profileTable env reSearch engine table config]

/-- The loop over the first tables. -/
def runProfiling (env : Environment) (reSearch : ReSearch) (engine : Engine)
    (config : ProfilingConfig) (tables : List TableMetadata) :
    Extraction (List TableProfileSummary) :=
  (tables.take config.maxTables).foldlM (profileStep env reSearch engine config) []

/-- What `run_discovery` reads of the customer database: its catalog, and rows when profiling is
on. -/
def discoverRows (env : Environment) (reSearch : ReSearch) (engine : Engine) (catalog : Catalog)
    (connection : CustomerDatabaseConnection) (profiling : Option ProfilingConfig) :
    Extraction (SchemaIntrospectionResult × Option (List TableProfileSummary)) := do
  let result := introspect env.std catalog connection.schemaAllowlist
  match profiling with
  | none => return (result, none)
  | some config =>
    if config.enabled then
      return (result, some (← runProfiling env reSearch engine config result.tables))
    else return (result, none)

/-! ## What profiling sends -/

/-- A table whose identifiers are safe. -/
def TableMetadata.safe (table : TableMetadata) : Bool :=
  safeIdentifier table.schemaName && safeIdentifier table.name

section

variable {env : Environment} {reSearch : ReSearch} {engine : Engine} {config : ProfilingConfig}
  {s : ExtractionState}

theorem profileTable_unsafe {table : TableMetadata} (h : table.safe = false) :
    ∃ e, profileTable env reSearch engine table config s = (.error e, s) := by
  unfold TableMetadata.safe at h
  simp only [profileTable, assertSafeIdentifier, Process.lift, bind, Process.bind]
  cases hs : safeIdentifier table.schemaName with
  | false => exact ⟨_, rfl⟩
  | true =>
    have hn : safeIdentifier table.name = false := by simpa [hs] using h
    simp [hn]

theorem profileTable_safe {table : TableMetadata} (h : table.safe = true) :
    ∃ r, profileTable env reSearch engine table config s =
        (r, { s with statements := s.statements ++ [(engine, sampleStatement table config)] }) ∧
      ((∀ select, ∃ rows, (env.world engine).run select = .ok rows) → ∃ summary, r = .ok summary) := by
  obtain ⟨hs, hn⟩ := Bool.and_eq_true_iff.1 h
  simp only [profileTable, assertSafeIdentifier, Process.lift, bind, Process.bind, hs, hn, if_true,
    execute, Process.modify]
  cases hrun : (env.world engine).run (sampleStatement table config) with
  | error e =>
    refine ⟨_, rfl, fun hok => ?_⟩
    obtain ⟨rows, hrows⟩ := hok (sampleStatement table config)
    rw [hrun] at hrows; cases hrows
  | ok rows => exact ⟨_, rfl, fun _ => ⟨_, rfl⟩⟩

/-- A pass over a table with an unsafe identifier raises without a statement. -/
theorem profileStep_unsafe {table : TableMetadata} (h : table.safe = false)
    (acc : List TableProfileSummary) :
    ∃ e, profileStep env reSearch engine config acc table s = (.error e, s) := by
  obtain ⟨e, he⟩ := profileTable_unsafe (s := s) h
  exact ⟨e, Process.bind_error he⟩

/-- Any other pass samples its table. -/
theorem profileStep_safe {table : TableMetadata} (h : table.safe = true)
    (acc : List TableProfileSummary) :
    ∃ r, profileStep env reSearch engine config acc table s =
        (r, { s with statements := s.statements ++ [(engine, sampleStatement table config)] }) ∧
      ((∀ select, ∃ rows, (env.world engine).run select = .ok rows) →
        ∃ profiles, r = .ok profiles) := by
  obtain ⟨r, hr, hok⟩ := profileTable_safe (s := s) h
  cases r with
  | error e =>
    refine ⟨.error e, Process.bind_error hr, fun h => ?_⟩
    obtain ⟨_, h⟩ := hok h
    cases h
  | ok summary => exact ⟨_, Process.bind_ok hr, fun _ => ⟨_, rfl⟩⟩

/-- The loop samples only tables before the first one with an unsafe identifier. -/
theorem sampled_of_mem {tables : List TableMetadata} {acc : List TableProfileSummary}
    {p : Engine × Sql.Select Value}
    (hp : p ∈ (tables.foldlM (profileStep env reSearch engine config) acc s).2.statements) :
    p ∈ s.statements ∨
      ∃ table ∈ tables.takeWhile (·.safe), p = (engine, sampleStatement table config) := by
  induction tables generalizing acc s with
  | nil => exact .inl hp
  | cons table tables ih =>
    cases hsafe : table.safe with
    | false =>
      obtain ⟨e, he⟩ := profileStep_unsafe hsafe acc
      have hloop : (table :: tables).foldlM (profileStep env reSearch engine config) acc s =
          (.error e, s) := Process.bind_error he
      rw [hloop] at hp
      exact .inl hp
    | true =>
      rw [List.takeWhile_cons_of_pos hsafe]
      obtain ⟨r, hr, -⟩ := profileStep_safe hsafe acc
      have hmem : p ∈ s.statements ++ [(engine, sampleStatement table config)] → p ∈ s.statements ∨
          ∃ t ∈ table :: tables.takeWhile (·.safe), p = (engine, sampleStatement t config) := by
        intro h
        exact (List.mem_append.1 h).imp id fun h => ⟨table, by simp, List.mem_singleton.1 h⟩
      cases r with
      | error e =>
        have hloop : (table :: tables).foldlM (profileStep env reSearch engine config) acc s =
            (.error e, _) := Process.bind_error hr
        rw [hloop] at hp
        exact hmem hp
      | ok profiles =>
        have hloop : (table :: tables).foldlM (profileStep env reSearch engine config) acc s =
            tables.foldlM (profileStep env reSearch engine config) profiles _ := Process.bind_ok hr
        rw [hloop] at hp
        rcases ih hp with h | ⟨t, ht, rfl⟩
        · exact hmem h
        · exact .inr ⟨t, by simp [ht], rfl⟩

/-- And it samples all of these, when no statement fails. -/
theorem mem_of_sampled {tables : List TableMetadata} {acc : List TableProfileSummary}
    {p : Engine × Sql.Select Value}
    (hok : ∀ select, ∃ rows, (env.world engine).run select = .ok rows)
    (hp : p ∈ s.statements ∨
      ∃ table ∈ tables.takeWhile (·.safe), p = (engine, sampleStatement table config)) :
    p ∈ (tables.foldlM (profileStep env reSearch engine config) acc s).2.statements := by
  induction tables generalizing acc s with
  | nil =>
    rcases hp with hp | ⟨t, ht, -⟩
    · exact hp
    · cases ht
  | cons table tables ih =>
    cases hsafe : table.safe with
    | false =>
      obtain ⟨e, he⟩ := profileStep_unsafe hsafe acc
      have hloop : (table :: tables).foldlM (profileStep env reSearch engine config) acc s =
          (.error e, s) := Process.bind_error he
      rw [hloop]
      rw [List.takeWhile_cons_of_neg (by simp [hsafe])] at hp
      rcases hp with hp | ⟨t, ht, -⟩
      · exact hp
      · cases ht
    | true =>
      obtain ⟨r, hr, hsome⟩ := profileStep_safe hsafe acc
      obtain ⟨profiles, rfl⟩ := hsome hok
      have hloop : (table :: tables).foldlM (profileStep env reSearch engine config) acc s =
          tables.foldlM (profileStep env reSearch engine config) profiles _ := Process.bind_ok hr
      rw [hloop]
      rw [List.takeWhile_cons_of_pos hsafe] at hp
      refine ih ?_
      rcases hp with hp | ⟨t, ht, rfl⟩
      · exact .inl (List.mem_append_left _ hp)
      · rcases List.mem_cons.1 ht with rfl | ht
        · exact .inl (List.mem_append_right _ (by simp))
        · exact .inr ⟨t, ht, rfl⟩

/-! ## The profiles a discovery run stores -/

/-- What profiling a table gives does not depend on what was sent before. -/
theorem profileTable_result (table : TableMetadata) (s s' : ExtractionState) :
    (profileTable env reSearch engine table config s).1 =
      (profileTable env reSearch engine table config s').1 := by
  simp only [profileTable, assertSafeIdentifier, Process.lift, bind, Process.bind, execute,
    Process.modify]
  cases safeIdentifier table.schemaName <;> cases safeIdentifier table.name <;> try rfl
  cases (env.world engine).run (sampleStatement table config) <;> rfl

theorem profiles_of_loop (toJson : TableProfileSummary → Canonical.Json)
    (tables : List TableMetadata) (acc : List TableProfileSummary) (s s' : ExtractionState) :
    ((tables.foldlM (profileStep env reSearch engine config) acc s).1).map (List.map toJson) =
      (tables.mapM fun table =>
        ((profileTable env reSearch engine table config s').1).map toJson).map
          (acc.map toJson ++ ·) := by
  induction tables generalizing acc s with
  | nil => simp [pure, Process.pure, Except.pure, Except.map]
  | cons table tables ih =>
    rw [List.mapM_cons, profileTable_result table s' s]
    rcases hr : profileTable env reSearch engine table config s with ⟨r, s₁⟩
    cases r with
    | error e =>
      have hloop : (table :: tables).foldlM (profileStep env reSearch engine config) acc s =
          (.error e, s₁) := Process.bind_error (Process.bind_error hr)
      rw [hloop]
      rfl
    | ok summary =>
      have hloop : (table :: tables).foldlM (profileStep env reSearch engine config) acc s =
          tables.foldlM (profileStep env reSearch engine config) (acc ++ [summary]) s₁ :=
        Process.bind_ok (Process.bind_ok hr)
      rw [hloop, ih]
      generalize (tables.mapM fun table =>
        ((profileTable env reSearch engine table config s').1).map toJson) = rest
      cases rest with
      | error e => rfl
      | ok profiles => simp [Except.map, bind, Except.bind, pure, Except.pure]

/-- A discovery run whose profiler is `profileTable` stores what the loop gives. -/
theorem profileTables_eq (toJson : TableProfileSummary → Canonical.Json) {discovery : DiscoveryEnv}
    {result : SchemaIntrospectionResult}
    (h : ∀ table, discovery.profileTable engine table config =
      ((profileTable env reSearch engine table config s).1).map toJson)
    (hon : config.enabled = true) :
    profileTables discovery engine result (some config) =
      ((runProfiling env reSearch engine config result.tables s).1).map fun profiles =>
        some (profiles.map toJson) := by
  have hloop : ((runProfiling env reSearch engine config result.tables s).1).map
      (List.map toJson) = _ :=
    profiles_of_loop toJson (result.tables.take config.maxTables) [] s s
  simp only [profileTables, hon, if_true, h]
  generalize ((result.tables.take config.maxTables).mapM fun table =>
    ((profileTable env reSearch engine table config s).1).map toJson) = profiles at hloop
  generalize (runProfiling env reSearch engine config result.tables s).1 = r at hloop
  cases r <;> cases profiles <;> simp_all [Except.map, bind, Except.bind, pure, Except.pure]

end

end Schemas

end HermesRpt
