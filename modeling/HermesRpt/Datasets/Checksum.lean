import HermesRpt.Datasets.Definition
import HermesRpt.Lib.JsonText
import HermesRpt.System
import Mathlib

/-!
# HermesRpt.Datasets.Checksum

The checksum of a dataset pins its rows: their number, their order, the labels and the text of
every feature. The places where a row ends and the next begins are read back from the joined text.

* `recordText`    : the text of one row with its label, as characters.
* `rowText_inj`   : the members of a row are read back from any text that the row's text begins.
* `recordsText_inj` : so are the rows of a dataset.
-/

namespace HermesRpt

namespace Datasets

open Canonical
open Features
open Keyed (Dict)

/-- A text up to its first delimiter is read back. -/
theorem append_inj_of_delimiter {p : Char → Prop} {s t u v : List Char} {d e : Char}
    (hs : ∀ c ∈ s, ¬ p c) (ht : ∀ c ∈ t, ¬ p c) (hd : p d) (he : p e)
    (h : s ++ d :: u = t ++ e :: v) : s = t ∧ d :: u = e :: v := by
  induction s generalizing t with
  | nil =>
    cases t with
    | nil => exact ⟨rfl, h⟩
    | cons c t =>
      obtain ⟨rfl, -⟩ := List.cons.inj h
      exact absurd hd (ht d (by simp))
  | cons c s ih =>
    cases t with
    | nil =>
      obtain ⟨rfl, -⟩ := List.cons.inj h
      exact absurd he (hs c (by simp))
    | cons c' t =>
      obtain ⟨rfl, hrest⟩ := List.cons.inj h
      obtain ⟨rfl, huv⟩ := ih (fun x hx => hs x (by simp [hx])) (fun x hx => ht x (by simp [hx])) hrest
      exact ⟨rfl, huv⟩

/-! ## Scalars -/

/-- What the JSON text of a number is made of. -/
def NumberChar (c : Char) : Prop := c.isDigit = true ∨ c = '.' ∨ c = 'e' ∨ c = '+' ∨ c = '-'

theorem NumberChar.ne {c d : Char} (h : NumberChar c)
    (hd : d.isDigit = false ∧ d ≠ '.' ∧ d ≠ 'e' ∧ d ≠ '+' ∧ d ≠ '-') : c ≠ d := by
  rintro rfl
  rcases h with h | h | h | h | h
  · rw [hd.1] at h
    cases h
  · exact hd.2.1 h
  · exact hd.2.2.1 h
  · exact hd.2.2.2.1 h
  · exact hd.2.2.2.2 h

theorem numberChar_nat {n : Nat} {c : Char} (h : c ∈ n.repr.toList) : NumberChar c := by
  rw [Nat.toList_repr] at h
  exact .inl (Nat.isDigit_of_mem_toDigits (by decide) (by decide) h)

theorem numberChar_int {n : Int} {c : Char} (h : c ∈ (toString n).toList) : NumberChar c := by
  cases n with
  | ofNat n => exact numberChar_nat h
  | negSucc n =>
    have hmem : c ∈ ("-" ++ (n + 1).repr).toList := h
    rw [String.toList_append, List.mem_append] at hmem
    rcases hmem with hmem | hmem
    · simp at hmem
      exact .inr (.inr (.inr (.inr hmem)))
    · exact numberChar_nat hmem

/-- An integer, a float, a boolean or nothing. -/
def Scalar : Option Value → Prop
  | none => True
  | some (.int _) => True
  | some (.float _) => True
  | some (.bool _) => True
  | some _ => False

/-- The end of a member of a row. -/
def MemberEnd (c : Char) : Prop := c = ',' ∨ c = '\x7d'

theorem NumberChar.not_memberEnd {c : Char} (h : NumberChar c) : ¬ MemberEnd c := by
  rintro (hc | hc)
  · exact h.ne (by decide) hc
  · exact h.ne (by decide) hc

theorem dumpScalar_not_memberEnd {std : Stdlib}
    (hfloat : ∀ x, ∀ c ∈ (std.floatStr x).toList, NumberChar c) {v : Option Value} (hv : Scalar v) :
    ∀ c ∈ (dumpScalar std v).toList, ¬ MemberEnd c := by
  intro c hc
  cases v with
  | none =>
    have hnull : ∀ c ∈ "null".toList, ¬ MemberEnd c := by simp [MemberEnd]
    exact hnull c hc
  | some v =>
    cases v with
    | int n => exact (numberChar_int hc).not_memberEnd
    | float x => exact (hfloat x c hc).not_memberEnd
    | bool b =>
      have htrue : ∀ c ∈ "true".toList, ¬ MemberEnd c := by simp [MemberEnd]
      have hfalse : ∀ c ∈ "false".toList, ¬ MemberEnd c := by simp [MemberEnd]
      cases b with
      | true => exact htrue c hc
      | false => exact hfalse c hc
    | _ => cases hv

/-! ## One row -/

/-- What stands before a member of a row. -/
def separator (first : Bool) : List Char := if first then [] else [',', ' ']

/-- The rest of a row's text, from a member on. -/
def rowText (first : Bool) : List (String × String) → List Char
  | [] => ['\x7d']
  | p :: ps => separator first ++ ((quote p.1).toList ++ ':' :: ' ' :: (p.2.toList ++ rowText false ps))

theorem rowText_false_cons (ps : List (String × String)) :
    ∃ d s, rowText false ps = d :: s ∧ MemberEnd d := by
  cases ps with
  | nil => exact ⟨_, _, rfl, .inr rfl⟩
  | cons p ps => exact ⟨_, _, rfl, .inl rfl⟩

theorem rowText_nil_ne {first : Bool} {p : String × String} {ps : List (String × String)}
    {s t : List Char} : '\x7d' :: s ≠ rowText first (p :: ps) ++ t := by
  rw [rowText, toList_quote]
  cases first <;> simp [separator]

theorem rowText_inj {ps qs : List (String × String)} {first : Bool} {s t : List Char}
    (hps : ∀ p ∈ ps, ∀ c ∈ p.2.toList, ¬ MemberEnd c) (hqs : ∀ q ∈ qs, ∀ c ∈ q.2.toList, ¬ MemberEnd c)
    (h : rowText first ps ++ s = rowText first qs ++ t) : ps = qs ∧ s = t := by
  induction ps generalizing qs first with
  | nil =>
    cases qs with
    | nil => exact ⟨rfl, List.append_cancel_left h⟩
    | cons q qs => exact absurd h rowText_nil_ne
  | cons p ps ih =>
    cases qs with
    | nil => exact absurd h.symm rowText_nil_ne
    | cons q qs =>
      simp only [rowText, List.append_assoc, List.cons_append, List.append_cancel_left_eq] at h
      obtain ⟨hkey, hvalue⟩ := quote_inj h
      simp only [List.cons.injEq, true_and] at hvalue
      obtain ⟨d, u, hd, hdend⟩ := rowText_false_cons ps
      obtain ⟨e, v, he, heend⟩ := rowText_false_cons qs
      rw [hd, he, List.cons_append, List.cons_append] at hvalue
      obtain ⟨htext, hrest⟩ := append_inj_of_delimiter (hps p (by simp)) (hqs q (by simp)) hdend heend
        hvalue
      rw [← List.cons_append, ← hd, ← List.cons_append, ← he] at hrest
      obtain ⟨rfl, hst⟩ := ih (fun x hx => hps x (by simp [hx])) (fun x hx => hqs x (by simp [hx])) hrest
      exact ⟨by rw [Prod.ext hkey (String.ext htext)], hst⟩

/-- The keys of a row in order, each with the text of its value. -/
def members (std : Stdlib) (row : FeatureRow) : List (String × String) :=
  (row.rows.insertionSort fun a b => a.1 ≤ b.1).map fun p => (p.1, dumpScalar std p.2)

theorem toList_members (ps : List (String × String)) :
    (", ".intercalate (ps.map fun p => quote p.1 ++ ": " ++ p.2)).toList ++ ['\x7d'] =
      rowText true ps := by
  induction ps with
  | nil => rfl
  | cons p ps ih =>
    cases ps with
    | nil => simp [rowText, separator]
    | cons q qs =>
      rw [List.map_cons] at ih
      rw [List.map_cons, List.map_cons, String.intercalate_cons_cons, String.toList_append,
        List.append_assoc, ih]
      simp [rowText, separator]

theorem toList_dumpRow (std : Stdlib) (row : FeatureRow) :
    (dumpRow std row).toList = '\x7b' :: rowText true (members std row) := by
  have hmap : ((row.rows.insertionSort fun a b => a.1 ≤ b.1).map fun p =>
      quote p.1 ++ ": " ++ dumpScalar std p.2) =
        (members std row).map fun p => quote p.1 ++ ": " ++ p.2 := by
    rw [members, List.map_map]
    rfl
  rw [dumpRow, hmap, ← toList_members]
  simp

theorem members_eq_iff {std : Stdlib} {row row' : FeatureRow} :
    members std row = members std row' ↔
      ∀ name, (row.get? name).map (dumpScalar std) = (row'.get? name).map (dumpScalar std) := by
  have hsort : ∀ row : FeatureRow, members std row =
      (row.mapValues (dumpScalar std)).rows.insertionSort fun a b => a.1 ≤ b.1 := by
    intro row
    exact List.map_insertionSort _ _ _ _ fun a _ b _ => Iff.rfl
  rw [hsort, hsort, sorted_rows_eq_iff]
  simp only [Keyed.Dict.get?_mapValues]

theorem members_not_memberEnd {std : Stdlib}
    (hfloat : ∀ x, ∀ c ∈ (std.floatStr x).toList, NumberChar c) {row : FeatureRow}
    (hrow : ∀ v ∈ row.values, Scalar v) :
    ∀ p ∈ members std row, ∀ c ∈ p.2.toList, ¬ MemberEnd c := by
  intro p hp
  obtain ⟨q, hq, rfl⟩ := List.mem_map.1 hp
  have hmem : q ∈ row.rows := (List.perm_insertionSort _ _).mem_iff.1 hq
  exact dumpScalar_not_memberEnd hfloat (hrow q.2 (List.mem_map_of_mem hmem))

/-! ## The rows -/

/-- The text that is hashed of one row with its label. -/
def record (std : Stdlib) (p : FeatureRow × Int) : List (String × String) × Int :=
  (members std p.1, p.2)

def recordText (r : List (String × String) × Int) : List Char :=
  '\x7b' :: (rowText true r.1 ++ ("|label=".toList ++ ((toString r.2).toList ++ ['\n'])))

theorem label_inj {m n : Int} {s t : List Char}
    (h : (toString m).toList ++ '\n' :: s = (toString n).toList ++ '\n' :: t) : m = n ∧ s = t := by
  have hline : ∀ n : Int, ∀ c ∈ (toString n).toList, ¬ c = '\n' :=
    fun n c hc => (numberChar_int hc).ne (by decide)
  obtain ⟨htext, hrest⟩ := append_inj_of_delimiter (hline m) (hline n) rfl rfl h
  exact ⟨Int.repr_injective (String.ext htext), (List.cons.inj hrest).2⟩

theorem recordText_inj {r r' : List (String × String) × Int} {s t : List Char}
    (hr : ∀ p ∈ r.1, ∀ c ∈ p.2.toList, ¬ MemberEnd c)
    (hr' : ∀ p ∈ r'.1, ∀ c ∈ p.2.toList, ¬ MemberEnd c)
    (h : recordText r ++ s = recordText r' ++ t) : r = r' ∧ s = t := by
  simp only [recordText, List.cons_append, List.append_assoc, List.cons.injEq, true_and] at h
  obtain ⟨hmembers, hlabel⟩ := rowText_inj hr hr' h
  obtain ⟨hlabel, hst⟩ := label_inj (List.append_cancel_left hlabel)
  exact ⟨Prod.ext hmembers hlabel, hst⟩

theorem recordsText_inj {rs rs' : List (List (String × String) × Int)}
    (hrs : ∀ r ∈ rs, ∀ p ∈ r.1, ∀ c ∈ p.2.toList, ¬ MemberEnd c)
    (hrs' : ∀ r ∈ rs', ∀ p ∈ r.1, ∀ c ∈ p.2.toList, ¬ MemberEnd c)
    (h : rs.flatMap recordText = rs'.flatMap recordText) : rs = rs' := by
  induction rs generalizing rs' with
  | nil =>
    cases rs' with
    | nil => rfl
    | cons r' rs' => simp [recordText] at h
  | cons r rs ih =>
    cases rs' with
    | nil => simp [recordText] at h
    | cons r' rs' =>
      rw [List.flatMap_cons, List.flatMap_cons] at h
      obtain ⟨rfl, hrest⟩ := recordText_inj (hrs r (by simp)) (hrs' r' (by simp)) h
      rw [ih (fun x hx => hrs x (by simp [hx])) (fun x hx => hrs' x (by simp [hx])) hrest]

/-- What is hashed is the text of the rows, one after the other. -/
theorem computeDatasetChecksum_eq (std : Stdlib) (rows : List (FeatureRow × Int)) :
    computeDatasetChecksum std (rows.map Prod.fst) (rows.map Prod.snd) =
      std.sha256 (String.ofList ((rows.map (record std)).flatMap recordText)) := by
  have hzip : (rows.map Prod.fst).zip (rows.map Prod.snd) = rows := (List.zip_of_prod rfl rfl).symm
  rw [computeDatasetChecksum, hzip]
  refine congrArg std.sha256 (String.ext ?_)
  rw [String.toList_join, List.flatMap_map, List.flatMap_map, String.toList_ofList]
  refine List.flatMap_congr fun p _ => ?_
  simp [recordText, record, toList_dumpRow]

/-- With a hash that tells texts apart, two datasets have one checksum exactly when they agree row by
row on the label and on the text of every feature. -/
theorem computeDatasetChecksum_eq_iff (std : Stdlib) (hsha : Function.Injective std.sha256)
    (hfloat : ∀ x, ∀ c ∈ (std.floatStr x).toList, NumberChar c) (rows rows' : List (FeatureRow × Int))
    (hrows : ∀ p ∈ rows, ∀ v ∈ p.1.values, Scalar v)
    (hrows' : ∀ p ∈ rows', ∀ v ∈ p.1.values, Scalar v) :
    computeDatasetChecksum std (rows.map Prod.fst) (rows.map Prod.snd) =
        computeDatasetChecksum std (rows'.map Prod.fst) (rows'.map Prod.snd) ↔
      List.Forall₂ (fun p q => p.2 = q.2 ∧ ∀ name,
        (p.1.get? name).map (dumpScalar std) = (q.1.get? name).map (dumpScalar std)) rows rows' := by
  have hplain : ∀ rows : List (FeatureRow × Int), (∀ p ∈ rows, ∀ v ∈ p.1.values, Scalar v) →
      ∀ r ∈ rows.map (record std), ∀ p ∈ r.1, ∀ c ∈ p.2.toList, ¬ MemberEnd c := by
    intro rows hrows r hr
    obtain ⟨p, hp, rfl⟩ := List.mem_map.1 hr
    exact members_not_memberEnd hfloat (hrows p hp)
  have hrecord : ∀ p q : FeatureRow × Int, record std p = record std q ↔ p.2 = q.2 ∧ ∀ name,
      (p.1.get? name).map (dumpScalar std) = (q.1.get? name).map (dumpScalar std) := by
    intro p q
    rw [record, record, Prod.mk.injEq, members_eq_iff, and_comm]
  rw [computeDatasetChecksum_eq, computeDatasetChecksum_eq, hsha.eq_iff]
  simp only [← hrecord]
  have hforall : List.Forall₂ (fun p q => record std p = record std q) rows rows' ↔
      rows.map (record std) = rows'.map (record std) := by
    rw [← List.forall₂_eq_eq_eq, List.forall₂_map_left_iff, List.forall₂_map_right_iff]
  rw [hforall]
  constructor
  · intro h
    exact recordsText_inj (hplain rows hrows) (hplain rows' hrows') (String.ofList_injective h)
  · intro h
    rw [h]

namespace Sample

/-- Floats without a fraction, as they are printed. -/
def printing : Stdlib := { HermesRpt.Sample.std with floatStr := fun x => toString x.num ++ ".0" }

theorem numberChar_printing (x : ℚ) : ∀ c ∈ (printing.floatStr x).toList, NumberChar c := by
  intro c hc
  have hmem : c ∈ (toString x.num ++ ".0").toList := hc
  rw [String.toList_append, List.mem_append] at hmem
  rcases hmem with hmem | hmem
  · exact numberChar_int hmem
  · simp at hmem
    rcases hmem with rfl | rfl
    · exact .inr (.inl rfl)
    · exact .inl rfl

theorem sha256_printing : Function.Injective printing.sha256 := fun _ _ h => h

theorem loadedFirst_keys : (["loaded", "km"] : List String).Nodup := by decide

def loadedFirst : FeatureRow :=
  ⟨[("loaded", some (.bool true)), ("km", some (.float 2))], loadedFirst_keys⟩

theorem kmFirst_keys : (["km", "loaded"] : List String).Nodup := by decide

def kmFirst : FeatureRow :=
  ⟨[("km", some (.float 2)), ("loaded", some (.bool true))], kmFirst_keys⟩

theorem scalar_loadedFirst (label : Int) : ∀ p ∈ [(loadedFirst, label)], ∀ v ∈ p.1.values, Scalar v := by
  intro p hp v hv
  obtain rfl := List.mem_singleton.1 hp
  simp [loadedFirst, Keyed.Dict.values] at hv
  rcases hv with rfl | rfl <;> trivial

theorem scalar_kmFirst (label : Int) : ∀ p ∈ [(kmFirst, label)], ∀ v ∈ p.1.values, Scalar v := by
  intro p hp v hv
  obtain rfl := List.mem_singleton.1 hp
  simp [kmFirst, Keyed.Dict.values] at hv
  rcases hv with rfl | rfl <;> trivial

theorem get?_loadedFirst (name : String) : loadedFirst.get? name = kmFirst.get? name := by
  by_cases hkm : name = "km"
  · subst hkm; rfl
  by_cases hloaded : name = "loaded"
  · subst hloaded; rfl
  · simp [Keyed.Dict.get?, Keyed.Table.find?, Keyed.HasKey.key, loadedFirst, kmFirst, Ne.symm hkm,
      Ne.symm hloaded]

/-- The order of the keys in a row does not matter, the label does. -/
theorem checksum_reordered_relabelled :
    computeDatasetChecksum printing [loadedFirst] [1] = computeDatasetChecksum printing [kmFirst] [1] ∧
      computeDatasetChecksum printing [loadedFirst] [1] ≠ computeDatasetChecksum printing [kmFirst] [0] := by
  have hsame := computeDatasetChecksum_eq_iff printing sha256_printing numberChar_printing
    [(loadedFirst, 1)] [(kmFirst, 1)] (scalar_loadedFirst 1) (scalar_kmFirst 1)
  have hother := computeDatasetChecksum_eq_iff printing sha256_printing numberChar_printing
    [(loadedFirst, 1)] [(kmFirst, 0)] (scalar_loadedFirst 1) (scalar_kmFirst 0)
  refine ⟨hsame.2 (.cons ⟨rfl, fun name => by rw [get?_loadedFirst]⟩ .nil), fun h => ?_⟩
  cases hother.1 h with
  | cons hrow _ => exact absurd hrow.1 (by decide)

end Sample

end Datasets

end HermesRpt
