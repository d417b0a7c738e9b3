import HermesRpt.Schemas.Profiling
import HermesRpt.System

/-!
# HermesRpt.Schemas.Confidentiality

What a table's profile says about the sampled values. Two samples that differ only in credential or
denylisted columns have the same profile, and so have two that differ only in a personal column with
as many distinct values and with its nulls in the same rows.

* `profileSample`     : `profile_table` from its sample on, with what raises: a pattern of the
  denylist that does not compile, and a row without the column.
* `profileTable_eq`   : it is `profileTable` when neither happens.
* `profileColumnOf_congr` : the columns of two samples that have one summary.
* `profile_confidential`  : the property of two samples.
-/

namespace HermesRpt

namespace Schemas

open Effect Connectors Features

/-- The `re` module. -/
structure Patterns where
  /-- `pattern.search(name) is not None`, of the patterns compiled with the module. -/
  reSearch : ReSearch
  /-- `re.search(pattern, name, re.IGNORECASE) is not None`; a pattern may not compile. -/
  search : String → String → Except PyError Bool

/-- `row[name]`, or what it raises. A null is `none`. -/
abbrev SampledRow := String → Except PyError (Option Value)

/-- `is_credential_column` -/
def Patterns.credential (patterns : Patterns) (name : String) (extraDenylist : List String) :
    Except PyError Bool :=
  if patterns.reSearch credentialColumnPattern name then .ok true
  else extraDenylist.anyM fun pattern => patterns.search pattern name

/-- `[row[name] for row in rows]` -/
def readColumn (rows : List SampledRow) (name : String) : Except PyError (List (Option Value)) :=
  rows.mapM fun row => row name

/-- `[v for v in values if v is not None]` -/
def nonNull (values : List (Option Value)) : List Value := values.filterMap id

/-- `len({str(v) for v in non_null})` -/
def distinctCount (std : Stdlib) (values : List Value) : Nat :=
  (values.map (·.toStr std)).dedup.length

/-- The summary of the values of a column. -/
def summarize (std : Stdlib) (reSearch : ReSearch) (name : String) (values : List (Option Value)) :
    ColumnProfileSummary :=
  let masked := isLikelyPersonalField reSearch name
  { columnName := name, isMaskedPersonalField := masked
    nullFraction :=
      if values = [] then none else some (1 - ((nonNull values).length : ℚ) / values.length)
    distinctCountEstimate := some (distinctCount std (nonNull values))
    sampleValues :=
      if masked then none else some (((nonNull values).take 5).map (·.toStr std)) }

/-- A pass of the loop over the columns. -/
def profileColumnOf (std : Stdlib) (patterns : Patterns) (config : ProfilingConfig)
    (rows : List SampledRow) (column : ColumnMetadata) : Except PyError ColumnProfileSummary := do
  if ← patterns.credential column.name config.denylistedColumnPatterns then
    return { columnName := column.name, isCredentialExcluded := true }
  let values ← readColumn rows column.name
  return summarize std patterns.reSearch column.name values

def profileSample (std : Stdlib) (patterns : Patterns) (table : TableMetadata)
    (config : ProfilingConfig) (sample : Except PyError (List SampledRow)) :
    Except PyError TableProfileSummary := do
  assertSafeIdentifier table.schemaName
  assertSafeIdentifier table.name
  let rows ← sample
  let columns ← table.columns.mapM (profileColumnOf std patterns config rows)
  return { table := table.qualifiedName, sampledRowCount := rows.length, columns }

variable {std : Stdlib} {patterns : Patterns} {config : ProfilingConfig} {table : TableMetadata}

/-! ## Without raises -/

/-- Patterns that all compile. -/
def compiled (reSearch : ReSearch) : Patterns :=
  ⟨reSearch, fun pattern name => .ok (reSearch pattern name)⟩

/-- A row with every column. -/
def complete (row : Sql.Row Value) : SampledRow := fun name => .ok (row name)

theorem credential_compiled (reSearch : ReSearch) (name : String) (extraDenylist : List String) :
    (compiled reSearch).credential name extraDenylist =
      .ok (isCredentialColumn reSearch name extraDenylist) := by
  have hany : ∀ l : List String, l.anyM (fun pattern => (compiled reSearch).search pattern name) =
      (.ok (l.any (reSearch · name)) : Except PyError Bool) := by
    intro l
    induction l with
    | nil => rfl
    | cons pattern l ih =>
      rw [List.anyM, List.any_cons, ih]
      cases hsearch : reSearch pattern name <;>
        simp [compiled, hsearch, bind, Except.bind, pure, Except.pure]
  rw [Patterns.credential, hany, isCredentialColumn]
  cases hsearch : reSearch credentialColumnPattern name <;> simp [compiled, hsearch]

theorem readColumn_complete (rows : List (Sql.Row Value)) (name : String) :
    readColumn (rows.map complete) name = .ok (rows.map (· name)) := by
  induction rows with
  | nil => rfl
  | cons row rows ih =>
    rw [readColumn] at ih ⊢
    rw [List.map_cons, List.mapM_cons, ih]
    rfl

theorem profileColumnOf_complete (reSearch : ReSearch) (rows : List (Sql.Row Value))
    (column : ColumnMetadata) :
    profileColumnOf std (compiled reSearch) config (rows.map complete) column =
      .ok (profileColumn std reSearch config rows column) := by
  rw [profileColumnOf, credential_compiled, readColumn_complete, profileColumn]
  cases isCredentialColumn reSearch column.name config.denylistedColumnPatterns with
  | true => rfl
  | false =>
    have hnonNull : nonNull (rows.map (· column.name)) = rows.filterMap (· column.name) := by
      rw [nonNull, List.filterMap_map]
      rfl
    simp only [bind, Except.bind, pure, Except.pure, summarize, hnonNull, distinctCount,
      List.length_map, List.map_eq_nil_iff, compiled, Bool.false_eq_true, if_false]

/-- `profileTable`, when every pattern compiles and every row has every column. -/
theorem profileTable_eq (env : Environment) (reSearch : ReSearch) (engine : Engine)
    (table : TableMetadata) (config : ProfilingConfig) (s : ExtractionState) :
    (profileTable env reSearch engine table config s).1 =
      profileSample env.std (compiled reSearch) table config
        (((env.world engine).run (sampleStatement table config)).map (List.map complete)) := by
  have hcolumns : ∀ rows (columns : List ColumnMetadata),
      columns.mapM (profileColumnOf env.std (compiled reSearch) config (rows.map complete)) =
        .ok (columns.map (profileColumn env.std reSearch config rows)) := by
    intro rows columns
    induction columns with
    | nil => rfl
    | cons column columns ih =>
      rw [List.mapM_cons, profileColumnOf_complete, ih]
      rfl
  simp only [profileTable, profileSample, assertSafeIdentifier, Process.lift, bind, Process.bind,
    execute, Process.modify]
  cases safeIdentifier table.schemaName <;> cases safeIdentifier table.name <;> try rfl
  cases (env.world engine).run (sampleStatement table config) with
  | error e => rfl
  | ok rows =>
    simp only [if_true, Except.bind, Except.map, hcolumns, List.length_map]
    rfl

/-! ## Two samples -/

/-- The rows of the samples agree at the column. -/
def AgreeAt (name : String) (rows rows' : List SampledRow) : Prop :=
  List.Forall₂ (fun row row' => row name = row' name) rows rows'

/-- The values that the rows have in the column. -/
def valuesAt (rows : List SampledRow) (name : String) : List (Option Value) :=
  rows.filterMap fun row => (row name).toOption

/-- The rows of the samples have their nulls of the column in the same places, and there are as many
distinct values, as text. -/
structure SameAggregates (std : Stdlib) (name : String) (rows rows' : List SampledRow) : Prop where
  nulls : List.Forall₂ (fun row row' => (row name).map Option.isSome = (row' name).map Option.isSome)
    rows rows'
  distinct : distinctCount std (nonNull (valuesAt rows name)) =
    distinctCount std (nonNull (valuesAt rows' name))

variable {rows rows' : List SampledRow} {name : String}

theorem valuesAt_of_readColumn {values : List (Option Value)}
    (h : readColumn rows name = .ok values) : valuesAt rows name = values := by
  have hrows := except_mapM_ok.1 h
  clear h
  induction hrows with
  | nil => rfl
  | cons hrow _ ih =>
    rw [valuesAt] at ih ⊢
    rw [List.filterMap_cons_some (by rw [hrow]; rfl), ih]

theorem nonNull_length (values : List (Option Value)) :
    (nonNull values).length = (values.map Option.isSome).countP id := by
  induction values with
  | nil => rfl
  | cons value values ih =>
    cases value with
    | none =>
      rw [List.map_cons, List.countP_cons_of_neg (by simp), ← ih]
      rfl
    | some v =>
      rw [List.map_cons, List.countP_cons_of_pos (by simp), ← ih]
      rfl

theorem readColumn_of_agreeAt (h : AgreeAt name rows rows') :
    readColumn rows name = readColumn rows' name := by
  unfold readColumn
  induction h with
  | nil => rfl
  | cons hrow _ ih => rw [List.mapM_cons, List.mapM_cons, hrow, ih]

/-- Reading such a column raises the same in both samples, or finds the same nulls. -/
theorem readColumn_nulls (h : SameAggregates std name rows rows') :
    (readColumn rows name).map (List.map Option.isSome) =
      (readColumn rows' name).map (List.map Option.isSome) := by
  have hnulls := h.nulls
  clear h
  unfold readColumn
  induction hnulls with
  | nil => rfl
  | @cons row row' rows rows' hrow _ ih =>
    rw [List.mapM_cons, List.mapM_cons]
    cases hvalue : row name <;> cases hvalue' : row' name <;> rw [hvalue, hvalue'] at hrow
    · cases hrow
      rfl
    · cases hrow
    · cases hrow
    · rename_i value value'
      have hsome : value.isSome = value'.isSome := Except.ok.inj hrow
      cases hrest : rows.mapM (fun row => row name) <;>
        cases hrest' : rows'.mapM (fun row => row name) <;> rw [hrest, hrest'] at ih
      · cases ih
        rfl
      · cases ih
      · cases ih
      · have hmap := Except.ok.inj ih
        simp [bind, Except.bind, pure, Except.pure, Except.map, hsome, hmap]

/-! ### One column -/

theorem profileColumnOf_of_credential {column : ColumnMetadata}
    (h : patterns.credential column.name config.denylistedColumnPatterns = .ok true) :
    profileColumnOf std patterns config rows column =
      .ok { columnName := column.name, isCredentialExcluded := true } := by
  rw [profileColumnOf, h]
  rfl

/-- The summary of a personal column shows the nulls and the number of distinct values. -/
theorem summarize_of_personal {values values' : List (Option Value)}
    (hpersonal : isLikelyPersonalField patterns.reSearch name = true)
    (hnulls : values.map Option.isSome = values'.map Option.isSome)
    (hdistinct : distinctCount std (nonNull values) = distinctCount std (nonNull values')) :
    summarize std patterns.reSearch name values = summarize std patterns.reSearch name values' := by
  have hlength : values.length = values'.length := by
    rw [← List.length_map (f := Option.isSome), hnulls, List.length_map]
  have hnil : values = [] ↔ values' = [] := by
    rw [← List.length_eq_zero_iff, hlength, List.length_eq_zero_iff]
  simp only [summarize, hpersonal, nonNull_length, hnulls, hlength, hdistinct, hnil, if_true]

theorem profileColumnOf_of_personal {column : ColumnMetadata}
    (hpersonal : isLikelyPersonalField patterns.reSearch column.name = true)
    (h : SameAggregates std column.name rows rows') :
    profileColumnOf std patterns config rows column =
      profileColumnOf std patterns config rows' column := by
  have hnulls := readColumn_nulls h
  rw [profileColumnOf, profileColumnOf]
  refine except_bind_congr fun excluded _ => ?_
  cases excluded with
  | true => rfl
  | false =>
    cases hvalues : readColumn rows column.name <;>
      cases hvalues' : readColumn rows' column.name <;> rw [hvalues, hvalues'] at hnulls
    · cases hnulls
      rfl
    · cases hnulls
    · cases hnulls
    · rename_i values values'
      have hdistinct := h.distinct
      rw [valuesAt_of_readColumn hvalues, valuesAt_of_readColumn hvalues'] at hdistinct
      have hsummary : summarize std patterns.reSearch column.name values =
          summarize std patterns.reSearch column.name values' :=
        summarize_of_personal hpersonal (Except.ok.inj hnulls) hdistinct
      simp only [bind, Except.bind, pure, Except.pure, hsummary]

/-- The columns whose summaries two samples share. -/
theorem profileColumnOf_congr {column : ColumnMetadata}
    (h : patterns.credential column.name config.denylistedColumnPatterns = .ok true ∨
      AgreeAt column.name rows rows' ∨
      isLikelyPersonalField patterns.reSearch column.name = true ∧
        SameAggregates std column.name rows rows') :
    profileColumnOf std patterns config rows column =
      profileColumnOf std patterns config rows' column := by
  rcases h with hcredential | hagree | ⟨hpersonal, hsame⟩
  · rw [profileColumnOf_of_credential hcredential, profileColumnOf_of_credential hcredential]
  · rw [profileColumnOf, profileColumnOf, readColumn_of_agreeAt hagree]
  · exact profileColumnOf_of_personal hpersonal hsame

/-! ### The table -/

theorem profileSample_congr (hlength : rows.length = rows'.length)
    (h : ∀ column ∈ table.columns, profileColumnOf std patterns config rows column =
      profileColumnOf std patterns config rows' column) :
    profileSample std patterns table config (.ok rows) =
      profileSample std patterns table config (.ok rows') := by
  have hcolumns : table.columns.mapM (profileColumnOf std patterns config rows) =
      table.columns.mapM (profileColumnOf std patterns config rows') := except_mapM_congr h
  simp only [profileSample, bind, Except.bind, hcolumns, hlength]

/-- Samples that differ only in credential or denylisted columns, and samples that differ only in a
personal column with the same aggregates, have equal profiles. -/
theorem profile_confidential (std : Stdlib) (patterns : Patterns) (table : TableMetadata)
    (config : ProfilingConfig) (rows rows' : List SampledRow) :
    (List.Forall₂ (fun row row' : SampledRow => ∀ name,
        patterns.credential name config.denylistedColumnPatterns ≠ .ok true → row name = row' name)
        rows rows' →
      profileSample std patterns table config (.ok rows) =
        profileSample std patterns table config (.ok rows')) ∧
    ∀ personal, isLikelyPersonalField patterns.reSearch personal = true →
      List.Forall₂ (fun row row' : SampledRow => ∀ name, name ≠ personal → row name = row' name)
        rows rows' → SameAggregates std personal rows rows' →
      profileSample std patterns table config (.ok rows) =
        profileSample std patterns table config (.ok rows') := by
  constructor
  · intro hagree
    refine profileSample_congr hagree.length_eq fun column _ => profileColumnOf_congr ?_
    by_cases hcredential :
        patterns.credential column.name config.denylistedColumnPatterns = .ok true
    · exact .inl hcredential
    · exact .inr (.inl (hagree.imp fun _ _ hrow => hrow column.name hcredential))
  · intro personal hpersonal hagree hsame
    refine profileSample_congr hagree.length_eq fun column _ => profileColumnOf_congr ?_
    by_cases hname : column.name = personal
    · subst hname
      exact .inr (.inr ⟨hpersonal, hsame⟩)
    · exact .inr (.inl (hagree.imp fun _ _ hrow => hrow column.name hname))

/-- The patterns, on the column names of `users`. -/
def userPatterns : Patterns := compiled fun pattern name =>
  pattern = credentialColumnPattern ∧ name = "password" ∨
    pattern = "(email|e[-_]?mail)" ∧ name = "email"

def users : TableMetadata where
  schemaName := "app"
  name := "users"
  kind := "table"
  columns := [⟨"password", "text", false, 1, none⟩, ⟨"email", "text", true, 2, none⟩]

def userRow (password email : Option Value) : SampledRow := fun name =>
  if name = "password" then .ok password
  else if name = "email" then .ok email
  else .error ⟨.KeyError, reprStr name⟩

theorem profile_confidential_users :
    profileSample Sample.std userPatterns users {}
        (.ok [userRow (some (.str "a")) (some (.str "x@y"))]) =
      profileSample Sample.std userPatterns users {}
        (.ok [userRow (some (.str "b")) (some (.str "x@y"))]) ∧
    profileSample Sample.std userPatterns users {}
        (.ok [userRow (some (.str "a")) (some (.str "x@y")), userRow none none]) =
      profileSample Sample.std userPatterns users {}
        (.ok [userRow (some (.str "a")) (some (.str "z@y")), userRow none none]) := by
  constructor
  · refine (profile_confidential _ _ _ _ _ _).1 (.cons (fun name hname => ?_) .nil)
    have hne : name ≠ "password" := by
      rintro rfl
      exact hname rfl
    simp [userRow, hne]
  · refine (profile_confidential _ _ _ _ _ _).2 "email" rfl ?_ ⟨?_, rfl⟩
    · refine .cons (fun name hname => ?_) (.cons (fun _ _ => rfl) .nil)
      simp [userRow, hname]
    · exact .cons rfl (.cons rfl .nil)

end Schemas

end HermesRpt
