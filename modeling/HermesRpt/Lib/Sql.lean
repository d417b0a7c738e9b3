import Mathlib.Data.List.Forall2
import Mathlib.Data.List.Sort
import Mathlib.Tactic.Common

/-!
# HermesRpt.Lib.Sql

Select statements over one relation: a conjunction of comparisons with parameters, an order, and a
limit. How a server compares two values is a parameter.

* `Condition.holds` : a comparison with `NULL` is not true.
* `Select.rows`     : the rows a statement selects, in the order in which it returns them.
* `countWhere`, `maximum` : the aggregates.

Two groups of results. Where the server's order is that of a rank, the maximum and the first row of
an order are of the highest rank. And one statement on two relations: when the rows of the two
correspond and the statement looks only at what corresponding rows share, the selected rows
correspond.
-/

namespace Sql

/-- How a server compares values. -/
structure Comparison (V : Type) where
  eq : V → V → Bool
  lt : V → V → Bool

/-- A row gives a value to every column; `none` is `NULL`. -/
abbrev Row (V : Type) := String → Option V

inductive Operator where
  | eq | lt | ge
  deriving DecidableEq, Repr

/-- `column operator :parameter` -/
structure Condition (V : Type) where
  column : String
  operator : Operator
  parameter : V
  deriving DecidableEq

structure Order where
  column : String
  descending : Bool := false
  deriving DecidableEq

/-- What a statement returns of the rows it selects. -/
inductive Output (V : Type) where
  | columns (columns : List String)
  | count
  | countWhere (condition : Condition V)
  | maximum (column : String)
  deriving DecidableEq

structure Select (V : Type) where
  schemaName : String
  table : String
  output : Output V
  conditions : List (Condition V) := []
  orderBy : Option Order := none
  limit : Option Nat := none
  deriving DecidableEq

variable {V : Type}

/-- The columns a statement returns or aggregates. -/
def Output.columnsRead : Output V → List String
  | .columns names => names
  | .count => []
  | .countWhere condition => [condition.column]
  | .maximum column => [column]

/-- The columns a statement looks at. -/
def Select.columnsRead (select : Select V) : List String :=
  select.output.columnsRead ++ select.conditions.map (·.column) ++
    select.orderBy.toList.map (·.column)

def Condition.holds (compare : Comparison V) (c : Condition V) (row : Row V) : Bool :=
  match row c.column with
  | none => false
  | some v => match c.operator with
    | .eq => compare.eq v c.parameter
    | .lt => compare.lt v c.parameter
    | .ge => !compare.lt v c.parameter

/-- `NULL` is the largest value. -/
def keyLe (compare : Comparison V) : Option V → Option V → Bool
  | _, none => true
  | none, some _ => false
  | some a, some b => !compare.lt b a

def Order.le (compare : Comparison V) (o : Order) (a b : Row V) : Bool :=
  if o.descending then keyLe compare (b o.column) (a o.column)
  else keyLe compare (a o.column) (b o.column)

/-- Rows that tie stay in the order of the relation. -/
def sortRows (compare : Comparison V) (o : Option Order) (rows : List (Row V)) : List (Row V) :=
  match o with
  | none => rows
  | some o => rows.insertionSort fun a b => o.le compare a b = true

def takeLimit {α : Type} (limit : Option Nat) (l : List α) : List α :=
  match limit with
  | none => l
  | some n => l.take n

def Select.rows (compare : Comparison V) (select : Select V) (relation : List (Row V)) :
    List (Row V) :=
  takeLimit select.limit <| sortRows compare select.orderBy <|
    relation.filter fun row => select.conditions.all (·.holds compare row)

/-- `SUM(CASE WHEN condition THEN 1 ELSE 0 END)` over some rows. -/
def countWhere (compare : Comparison V) (c : Condition V) (rows : List (Row V)) : Nat :=
  rows.countP (c.holds compare)

/-- `MAX(column)`, without the rows where it is `NULL`. -/
def maximum (compare : Comparison V) (column : String) (rows : List (Row V)) : Option V :=
  (rows.filterMap (· column)).foldl (fun best v =>
    match best with
    | none => some v
    | some b => if compare.lt b v then some v else some b) none

section Limit

theorem length_takeLimit_le {α : Type} {n : Nat} {l : List α} :
    (takeLimit (some n) l).length ≤ n := by simp [takeLimit]

@[simp] theorem mem_sortRows {compare : Comparison V} {o : Option Order} {rows : List (Row V)}
    {row : Row V} : row ∈ sortRows compare o rows ↔ row ∈ rows := by
  cases o <;> simp [sortRows]

theorem mem_rows {compare : Comparison V} {select : Select V} {relation : List (Row V)}
    {row : Row V} (h : row ∈ select.rows compare relation) :
    row ∈ relation ∧ ∀ c ∈ select.conditions, c.holds compare row = true := by
  have hlimit : ∀ n (l : List (Row V)), row ∈ takeLimit n l → row ∈ l := by
    intro n l hl
    cases n with
    | none => exact hl
    | some n => exact List.mem_of_mem_take hl
  simpa using mem_sortRows.1 (hlimit _ _ h)

theorem limit_ne_zero {compare : Comparison V} {select : Select V} {relation : List (Row V)}
    {row : Row V} (h : row ∈ select.rows compare relation) : select.limit ≠ some 0 := by
  intro h0
  rw [Select.rows, h0] at h
  simp [takeLimit] at h

/-- A statement selects the only row, if the row meets its conditions. -/
theorem rows_singleton {compare : Comparison V} {select : Select V} {row : Row V}
    (h : ∀ c ∈ select.conditions, c.holds compare row = true) (hl : select.limit ≠ some 0) :
    select.rows compare [row] = [row] := by
  have hfilter : ([row].filter fun row => select.conditions.all (·.holds compare row)) = [row] := by
    simpa using h
  have hsort : sortRows compare select.orderBy [row] = [row] := by
    cases select.orderBy <;> simp [sortRows]
  rw [Select.rows, hfilter, hsort]
  cases hs : select.limit with
  | none => rfl
  | some n =>
    cases n with
    | zero => exact absurd hs hl
    | succ n => simp [takeLimit]

@[simp] theorem rows_nil {compare : Comparison V} {select : Select V} :
    select.rows compare [] = [] := by
  unfold Select.rows sortRows takeLimit
  cases select.orderBy <;> cases select.limit <;> simp

/-- A statement whose conditions imply `keep` does not see the other rows. -/
theorem rows_congr {compare : Comparison V} {select : Select V} {keep : Row V → Bool}
    (himp : ∀ row, (∀ c ∈ select.conditions, c.holds compare row = true) → keep row = true)
    {l₁ l₂ : List (Row V)} (h : l₁.filter keep = l₂.filter keep) :
    select.rows compare l₁ = select.rows compare l₂ := by
  have hsplit : ∀ l : List (Row V),
      (l.filter fun row => select.conditions.all (·.holds compare row)) =
        (l.filter keep).filter fun row => select.conditions.all (·.holds compare row) := by
    intro l
    rw [List.filter_filter]
    refine List.filter_congr fun row _ => ?_
    cases hk : select.conditions.all (·.holds compare row) with
    | false => simp
    | true => simpa using himp row (by simpa using hk)
  rw [Select.rows, Select.rows, hsplit l₁, hsplit l₂, h]

end Limit

/-! ## Where the order is that of a rank -/

section Rank

variable {ι : Type} [LinearOrder ι]

/-- The best value so far is of the highest rank. -/
theorem foldl_best {compare : Comparison V} {rank : V → ι} (values : List V) (best : V)
    (h : ∀ v ∈ best :: values, ∀ w ∈ best :: values, compare.lt v w = true ↔ rank v < rank w) :
    ∃ top ∈ best :: values, (∀ v ∈ best :: values, rank v ≤ rank top) ∧
      values.foldl (fun best v =>
        match best with
        | none => some v
        | some b => if compare.lt b v then some v else some b) (some best) = some top := by
  induction values generalizing best with
  | nil => exact ⟨best, by simp, by simp, rfl⟩
  | cons v values ih =>
    rw [List.foldl_cons]
    by_cases hlt : compare.lt best v = true
    · have hrank : rank best < rank v := (h best (by simp) v (by simp)).1 hlt
      obtain ⟨top, hmem, htop, hfold⟩ := ih v fun a ha b hb =>
        h a (List.mem_cons_of_mem _ ha) b (List.mem_cons_of_mem _ hb)
      refine ⟨top, List.mem_cons_of_mem _ hmem, fun a ha => ?_, by simp only [hlt, if_true, hfold]⟩
      rcases List.mem_cons.1 ha with rfl | ha
      · exact hrank.le.trans (htop v (by simp))
      · exact htop a ha
    · have hrank : rank v ≤ rank best :=
        not_lt.1 fun hr => hlt ((h best (by simp) v (by simp)).2 hr)
      have hsub : ∀ a ∈ best :: values, a ∈ best :: v :: values := by
        intro a ha
        rcases List.mem_cons.1 ha with rfl | ha
        · simp
        · simp [ha]
      obtain ⟨top, hmem, htop, hfold⟩ := ih best fun a ha b hb => h a (hsub a ha) b (hsub b hb)
      refine ⟨top, hsub top hmem, fun a ha => ?_, by
        simp only [hlt, Bool.false_eq_true, if_false, hfold]⟩
      rcases List.mem_cons.1 ha with rfl | ha
      · exact htop a (by simp)
      · rcases List.mem_cons.1 ha with rfl | ha
        · exact hrank.trans (htop best (by simp))
        · exact htop a (List.mem_cons_of_mem _ ha)

/-- `MAX` is `NULL` without values, and else a value of the highest rank. -/
theorem maximum_spec {compare : Comparison V} {rank : V → ι} {column : String}
    {rows : List (Row V)}
    (h : ∀ v ∈ rows.filterMap (· column), ∀ w ∈ rows.filterMap (· column),
      compare.lt v w = true ↔ rank v < rank w) :
    (rows.filterMap (· column) = [] ∧ maximum compare column rows = none) ∨
      ∃ top ∈ rows.filterMap (· column), (∀ v ∈ rows.filterMap (· column), rank v ≤ rank top) ∧
        maximum compare column rows = some top := by
  unfold maximum
  cases hv : rows.filterMap (· column) with
  | nil => exact .inl ⟨rfl, rfl⟩
  | cons v values =>
    rw [hv] at h
    exact .inr (foldl_best values v h)

theorem orderedInsert_congr {α : Type} {r s : α → α → Prop} [DecidableRel r] [DecidableRel s]
    {a : α} {l : List α} (h : ∀ b ∈ l, r a b ↔ s a b) :
    l.orderedInsert r a = l.orderedInsert s a := by
  induction l with
  | nil => rfl
  | cons b l ih =>
    rw [List.orderedInsert_cons, List.orderedInsert_cons, ih fun c hc => h c (by simp [hc])]
    exact if_congr (h b (by simp)) rfl rfl

/-- Only the order of the sorted values matters. -/
theorem insertionSort_congr {α : Type} {r s : α → α → Prop} [DecidableRel r] [DecidableRel s]
    {l : List α} (h : ∀ a ∈ l, ∀ b ∈ l, r a b ↔ s a b) : l.insertionSort r = l.insertionSort s := by
  induction l with
  | nil => rfl
  | cons a l ih =>
    rw [List.insertionSort_cons, List.insertionSort_cons,
      ih fun b hb c hc => h b (by simp [hb]) c (by simp [hc])]
    refine orderedInsert_congr fun b hb => h a (by simp) b ?_
    exact List.mem_cons_of_mem _ ((List.mem_insertionSort s).1 hb)

/-- Values are inserted in the order of their ranks. -/
theorem insertionSort_pairwise {α : Type} {r : α → α → Prop} [DecidableRel r] {rank : α → ι}
    {l : List α} (h : ∀ a ∈ l, ∀ b ∈ l, r a b ↔ rank a ≤ rank b) :
    (l.insertionSort r).Pairwise fun a b => rank a ≤ rank b := by
  let s : α → α → Prop := fun a b => rank a ≤ rank b
  have : Std.Total s := ⟨fun a b => le_total (rank a) (rank b)⟩
  have : IsTrans α s := ⟨fun a b c hab hbc => le_trans hab hbc⟩
  have hsort : l.insertionSort r = l.insertionSort s := insertionSort_congr h
  rw [hsort]
  exact List.pairwise_insertionSort s l

/-- Rows in descending order of a column are in descending order of their ranks. -/
theorem sortRows_pairwise {compare : Comparison V} {rank : Row V → ι} {column : String}
    {rows : List (Row V)}
    (h : ∀ a ∈ rows, ∀ b ∈ rows, ∃ v w, a column = some v ∧ b column = some w ∧
      (compare.lt v w = true ↔ rank a < rank b)) :
    (sortRows compare (some { column, descending := true }) rows).Pairwise
      fun a b => rank b ≤ rank a := by
  refine @insertionSort_pairwise ιᵒᵈ _ _ _ _ (fun a => OrderDual.toDual (rank a)) _ ?_
  intro a ha b hb
  obtain ⟨v, w, hv, hw, hlt⟩ := h a ha b hb
  rw [OrderDual.toDual_le_toDual, ← not_lt, ← hlt]
  simp [Order.le, keyLe, hv, hw]

/-- The first of them is of the highest rank. -/
theorem sortRows_head {compare : Comparison V} {rank : Row V → ι} {column : String}
    {rows : List (Row V)}
    (h : ∀ a ∈ rows, ∀ b ∈ rows, ∃ v w, a column = some v ∧ b column = some w ∧
      (compare.lt v w = true ↔ rank a < rank b)) {first : Row V}
    (hf : (sortRows compare (some { column, descending := true }) rows).head? = some first) :
    ∀ a ∈ rows, rank a ≤ rank first := by
  intro a ha
  have hsorted := sortRows_pairwise h
  have hmem : a ∈ sortRows compare (some { column, descending := true }) rows :=
    mem_sortRows.2 ha
  cases hs : sortRows compare (some { column, descending := true }) rows with
  | nil => simp [hs] at hmem
  | cons b rest =>
    rw [hs, List.head?_cons, Option.some.injEq] at hf
    rw [hs] at hsorted hmem
    subst hf
    rcases List.mem_cons.1 hmem with rfl | hmem
    · exact le_refl _
    · exact (List.pairwise_cons.1 hsorted).1 a hmem

theorem sortRows_perm {V : Type} (compare : Comparison V) (o : Option Order) (rows : List (Row V)) :
    (sortRows compare o rows).Perm rows := by
  cases o with
  | none => exact List.Perm.refl rows
  | some o => exact List.perm_insertionSort _ rows

/-- The `k` first rows in descending order of their ranks. -/
structure Top (rank : Row V → ι) (k : Nat) (rows top : List (Row V)) : Prop where
  length : top.length = min k rows.length
  sorted : top.Pairwise fun a b => rank b ≤ rank a
  others : ∃ rest, (top ++ rest).Perm rows ∧ ∀ a ∈ top, ∀ b ∈ rest, rank b ≤ rank a

/-- `ORDER BY column DESC LIMIT k` -/
theorem top_of_sorted {compare : Comparison V} {rank : Row V → ι} {column : String}
    {rows : List (Row V)} (k : Nat)
    (h : ∀ a ∈ rows, ∀ b ∈ rows, ∃ v w, a column = some v ∧ b column = some w ∧
      (compare.lt v w = true ↔ rank a < rank b)) :
    Top rank k rows
      (takeLimit (some k) (sortRows compare (some { column, descending := true }) rows)) := by
  let sorted := sortRows compare (some { column, descending := true }) rows
  have hperm : sorted.Perm rows := sortRows_perm compare _ rows
  have hsorted : sorted.Pairwise fun a b => rank b ≤ rank a := sortRows_pairwise h
  have hsplit : sorted.take k ++ sorted.drop k = sorted := List.take_append_drop k sorted
  refine ⟨?_, hsorted.sublist (List.take_sublist k sorted), sorted.drop k, ?_, ?_⟩
  · show (sorted.take k).length = min k rows.length
    rw [List.length_take, hperm.length_eq]
  · show (sorted.take k ++ sorted.drop k).Perm rows
    rw [hsplit]
    exact hperm
  · rw [← hsplit] at hsorted
    exact (List.pairwise_append.1 hsorted).2.2

end Rank

/-! ## One statement on two relations -/

section Agree

variable {R : Row V → Row V → Prop}

theorem holds_congr {compare : Comparison V} {c : Condition V} {a b : Row V}
    (h : a c.column = b c.column) : c.holds compare a = c.holds compare b := by
  unfold Condition.holds
  rw [h]

theorem countWhere_congr (compare : Comparison V) (c : Condition V) {l₁ l₂ : List (Row V)}
    (h : List.Forall₂ (fun a b => a c.column = b c.column) l₁ l₂) :
    countWhere compare c l₁ = countWhere compare c l₂ := by
  unfold countWhere
  induction h with
  | nil => rfl
  | cons hrow _ ih => rw [List.countP_cons, List.countP_cons, ih, holds_congr hrow]

theorem maximum_congr (compare : Comparison V) (column : String) {l₁ l₂ : List (Row V)}
    (h : List.Forall₂ (fun a b => a column = b column) l₁ l₂) :
    maximum compare column l₁ = maximum compare column l₂ := by
  have hvalues : l₁.filterMap (· column) = l₂.filterMap (· column) := by
    induction h with
    | nil => rfl
    | cons hrow _ ih => rw [List.filterMap_cons, List.filterMap_cons, hrow, ih]
  unfold maximum
  rw [hvalues]

/-- Rows that differ and are kept on neither side do not matter. -/
theorem filter_congr_of_forall₂ {keep : Row V → Bool} {l₁ l₂ : List (Row V)}
    (h : List.Forall₂ (fun a b => a = b ∨ keep a = false ∧ keep b = false) l₁ l₂) :
    l₁.filter keep = l₂.filter keep := by
  induction h with
  | nil => rfl
  | cons hrow _ ih =>
    rcases hrow with rfl | ⟨ha, hb⟩
    · rw [List.filter_cons, List.filter_cons, ih]
    · simp [ha, hb, ih]

theorem optionRel_mono {α β : Type} {r r' : α → β → Prop} (h : ∀ a b, r a b → r' a b)
    {x : Option α} {y : Option β} (hxy : Option.Rel r x y) : Option.Rel r' x y := by
  cases hxy with
  | none => exact .none
  | some hab => exact .some (h _ _ hab)

theorem forall₂_orderedInsert {α : Type} {R : α → α → Prop} {r : α → α → Prop} [DecidableRel r]
    (hr : ∀ a b a' b', R a b → R a' b' → (r a a' ↔ r b b')) {a b : α} (hab : R a b)
    {l₁ l₂ : List α} (h : List.Forall₂ R l₁ l₂) :
    List.Forall₂ R (l₁.orderedInsert r a) (l₂.orderedInsert r b) := by
  induction h with
  | nil => simp [hab]
  | @cons c d l₁ l₂ hcd h ih =>
    simp only [List.orderedInsert_cons]
    by_cases hac : r a c
    · rw [if_pos hac, if_pos ((hr _ _ _ _ hab hcd).1 hac)]
      exact .cons hab (.cons hcd h)
    · rw [if_neg hac, if_neg (mt (hr _ _ _ _ hab hcd).2 hac)]
      exact .cons hcd ih

theorem forall₂_insertionSort {α : Type} {R : α → α → Prop} {r : α → α → Prop} [DecidableRel r]
    (hr : ∀ a b a' b', R a b → R a' b' → (r a a' ↔ r b b')) {l₁ l₂ : List α}
    (h : List.Forall₂ R l₁ l₂) : List.Forall₂ R (l₁.insertionSort r) (l₂.insertionSort r) := by
  induction h with
  | nil => simp
  | cons hab h ih => exact forall₂_orderedInsert hr hab ih

theorem forall₂_sortRows {compare : Comparison V} {o : Option Order}
    (ho : ∀ k ∈ o, ∀ a b, R a b → a k.column = b k.column) {l₁ l₂ : List (Row V)}
    (h : List.Forall₂ R l₁ l₂) :
    List.Forall₂ R (sortRows compare o l₁) (sortRows compare o l₂) := by
  cases o with
  | none => exact h
  | some k =>
    refine forall₂_insertionSort (fun a b a' b' hab hab' => ?_) h
    simp only [Order.le, ho k rfl _ _ hab, ho k rfl _ _ hab']

theorem forall₂_takeLimit {n : Option Nat} {l₁ l₂ : List (Row V)} (h : List.Forall₂ R l₁ l₂) :
    List.Forall₂ R (takeLimit n l₁) (takeLimit n l₂) := by
  cases n with
  | none => exact h
  | some n => exact List.forall₂_take n h

/-- The rows that a statement selects correspond, when the rows that meet some of its conditions
do, and corresponding rows share the columns of the other conditions and of the order. -/
theorem forall₂_rows {compare : Comparison V} {select : Select V} {first rest : List (Condition V)}
    (hcond : select.conditions = first ++ rest)
    (hfirst : ∀ c ∈ first, ∀ a b, R a b → a c.column = b c.column)
    (ho : ∀ k ∈ select.orderBy, ∀ a b, R a b → a k.column = b k.column) {l₁ l₂ : List (Row V)}
    (h : List.Forall₂ R (l₁.filter fun row => rest.all (·.holds compare row))
      (l₂.filter fun row => rest.all (·.holds compare row))) :
    List.Forall₂ R (select.rows compare l₁) (select.rows compare l₂) := by
  have hsplit : ∀ l : List (Row V),
      (l.filter fun row => select.conditions.all (·.holds compare row)) =
        (l.filter fun row => rest.all (·.holds compare row)).filter
          fun row => first.all (·.holds compare row) := by
    intro l
    simp [hcond, List.filter_filter, List.all_append]
  have hshare : ∀ a b, R a b →
      (first.all (·.holds compare a) = true ↔ first.all (·.holds compare b) = true) := by
    intro a b hab
    rw [List.all_eq_true, List.all_eq_true]
    refine forall₂_congr fun c hc => ?_
    simp only [Condition.holds, hfirst c hc a b hab]
  unfold Select.rows
  rw [hsplit, hsplit]
  exact forall₂_takeLimit (forall₂_sortRows ho (List.rel_filter hshare h))

/-- The same, when the conditions imply what is kept of the two relations. -/
theorem forall₂_rows_of_kept {compare : Comparison V} {select : Select V} {keep : Row V → Bool}
    (himp : ∀ row, (∀ c ∈ select.conditions, c.holds compare row = true) → keep row = true)
    (hcond : ∀ c ∈ select.conditions, ∀ a b, R a b → a c.column = b c.column)
    (ho : ∀ k ∈ select.orderBy, ∀ a b, R a b → a k.column = b k.column) {l₁ l₂ : List (Row V)}
    (h : List.Forall₂ R (l₁.filter keep) (l₂.filter keep)) :
    List.Forall₂ R (select.rows compare l₁) (select.rows compare l₂) := by
  have hkept : ∀ l : List (Row V), select.rows compare l = select.rows compare (l.filter keep) := by
    intro l
    exact rows_congr himp (by simp [List.filter_filter])
  rw [hkept l₁, hkept l₂]
  exact forall₂_rows (List.append_nil _).symm hcond ho (by simpa using h)

end Agree

end Sql
