import HermesRpt.Lib.Dict
import HermesRpt.Lib.Json

/-!
# HermesRpt.Lib.JsonText

The canonical text of a JSON value determines the value, up to the order of the members of objects,
when no number occurs in it.

* `readChar`    : reads an escaped character back, so quoted strings are told apart (`quote_inj`).
* `Json.normal` : the members of all objects in order.
* `text`        : the text of a value in normal form, as characters. No text of a value is a proper
  beginning of another (`text_inj`).
* `dumps_inj`   : equal canonical texts are of values with one normal form.
* `sorted_rows_eq_iff` : dictionaries have one list of members in order when they map the same keys to
  the same values.
-/

namespace Canonical

/-! ## Strings -/

def hexValue (c : Char) : Nat := if c.toNat ≤ 57 then c.toNat - 48 else c.toNat - 87

def read4 (a b c d : Char) : Nat :=
  hexValue a * 4096 + hexValue b * 256 + hexValue c * 16 + hexValue d

/-- The character that a two-character escape stands for. -/
def readShort (e : Char) : Char :=
  if e = 'n' then '\n' else if e = 'r' then '\r' else if e = 't' then '\t'
  else if e = 'f' then Char.ofNat 12 else if e = 'b' then Char.ofNat 8 else e

/-- The first character of an escaped text, and the rest of the text. -/
def readChar : List Char → Option (Char × List Char)
  | [] => none
  | c :: s =>
    if c ≠ '\\' then some (c, s)
    else match s with
      | [] => none
      | e :: s =>
        if e ≠ 'u' then some (readShort e, s)
        else match s with
          | a :: b :: c :: d :: s =>
            if read4 a b c d < 55296 ∨ 57343 < read4 a b c d then some (Char.ofNat (read4 a b c d), s)
            else match s with
              | _ :: _ :: a' :: b' :: c' :: d' :: s =>
                some (Char.ofNat (65536 + (read4 a b c d - 55296) * 1024 +
                  (read4 a' b' c' d' - 56320)), s)
              | _ => none
          | _ => none

theorem hexValue_digitChar : ∀ n < 16, hexValue (Nat.digitChar n) = n := by decide

theorem read4_hex4 {n : Nat} (h : n < 65536) :
    read4 (Nat.digitChar (n / 4096 % 16)) (Nat.digitChar (n / 256 % 16))
      (Nat.digitChar (n / 16 % 16)) (Nat.digitChar (n % 16)) = n := by
  simp only [read4, hexValue_digitChar _ (Nat.mod_lt _ (by decide : 0 < 16))]
  omega

/-- An escaped character is read back from any text that it begins. -/
theorem readChar_escapeChar (c : Char) (s : List Char) : readChar (escapeChar c ++ s) = some (c, s) := by
  have hvalid : c.toNat < 55296 ∨ 57343 < c.toNat ∧ c.toNat < 1114112 := c.valid
  have hof : Char.ofNat c.toNat = c := Char.ofNat_toNat c
  show readChar ((if c = '"' then _ else _) ++ s) = _
  by_cases h₁ : c = '"'
  · subst h₁; rfl
  rw [if_neg h₁]
  by_cases h₂ : c = '\\'
  · subst h₂; rfl
  rw [if_neg h₂]
  by_cases h₃ : c = '\n'
  · subst h₃; rfl
  rw [if_neg h₃]
  by_cases h₄ : c = '\r'
  · subst h₄; rfl
  rw [if_neg h₄]
  by_cases h₅ : c = '\t'
  · subst h₅; rfl
  rw [if_neg h₅]
  by_cases h₆ : c.toNat = 12
  · rw [← hof, h₆]; rfl
  rw [if_neg h₆]
  by_cases h₇ : c.toNat = 8
  · rw [← hof, h₇]; rfl
  rw [if_neg h₇]
  by_cases h₈ : 32 ≤ c.toNat ∧ c.toNat ≤ 126
  · rw [if_pos h₈]
    exact if_pos h₂
  rw [if_neg h₈]
  by_cases h₉ : c.toNat < 65536
  · have hread := read4_hex4 h₉
    rw [if_pos h₉]
    simp only [hex4, List.cons_append, List.nil_append, readChar, hread, hof, ne_eq, not_true_eq_false,
      if_false]
    rw [if_pos (by omega)]
  · have hhigh : 55296 + (c.toNat - 65536) / 1024 < 65536 := by omega
    have hlow : 56320 + (c.toNat - 65536) % 1024 < 65536 := by omega
    rw [if_neg h₉]
    simp only [hex4, List.cons_append, List.nil_append, readChar, read4_hex4 hhigh, read4_hex4 hlow,
      ne_eq, not_true_eq_false, if_false]
    rw [if_neg (by omega)]
    have hback : 65536 + (55296 + (c.toNat - 65536) / 1024 - 55296) * 1024 +
        (56320 + (c.toNat - 65536) % 1024 - 56320) = c.toNat := by omega
    rw [hback, hof]

/-- No escape begins with a quote: it would be read as one, and a quote has an escape. -/
theorem escapeChar_head (c : Char) : ∃ d s, escapeChar c = d :: s ∧ d ≠ '"' := by
  have hread := readChar_escapeChar c []
  rw [List.append_nil] at hread
  cases he : escapeChar c with
  | nil =>
    rw [he] at hread
    cases hread
  | cons d s =>
    refine ⟨d, s, rfl, ?_⟩
    rintro rfl
    rw [he] at hread
    have hquote : some ('"', s) = some (c, []) := hread
    cases hquote
    exact absurd he (by decide)

theorem escaped_inj {cs ds s t : List Char}
    (h : cs.flatMap escapeChar ++ '"' :: s = ds.flatMap escapeChar ++ '"' :: t) :
    cs = ds ∧ s = t := by
  induction cs generalizing ds with
  | nil =>
    cases ds with
    | nil => simpa using h
    | cons d ds =>
      obtain ⟨e, es, he, hne⟩ := escapeChar_head d
      simp [he, hne.symm] at h
  | cons c cs ih =>
    cases ds with
    | nil =>
      obtain ⟨e, es, he, hne⟩ := escapeChar_head c
      simp [he, hne] at h
    | cons d ds =>
      rw [List.flatMap_cons, List.flatMap_cons, List.append_assoc, List.append_assoc] at h
      have hread := (readChar_escapeChar c _).symm.trans ((congrArg readChar h).trans
        (readChar_escapeChar d _))
      obtain ⟨rfl, hrest⟩ := Prod.mk.inj (Option.some.inj hread)
      obtain ⟨rfl, hst⟩ := ih hrest
      exact ⟨rfl, hst⟩

theorem quote_inj {k l : String} {s t : List Char}
    (h : (quote k).toList ++ s = (quote l).toList ++ t) : k = l ∧ s = t := by
  simp only [quote, String.toList_ofList, List.append_assoc, List.cons_append, List.nil_append,
    List.cons.injEq, true_and] at h
  obtain ⟨hkl, hst⟩ := escaped_inj h
  exact ⟨String.ext hkl, hst⟩

/-! ## Values without numbers -/

mutual

/-- No number occurs in the value. -/
def Json.numberFree : Json → Bool
  | .num _ => false
  | .arr elems => allNumberFree elems
  | .obj members => membersNumberFree members
  | _ => true

def allNumberFree : List Json → Bool
  | [] => true
  | j :: js => j.numberFree && allNumberFree js

def membersNumberFree : List (String × Json) → Bool
  | [] => true
  | (_, j) :: ms => j.numberFree && membersNumberFree ms

end

mutual

/-- The value with the members of its objects in the order of their keys. -/
def Json.normal : Json → Json
  | .arr elems => .arr (normalAll elems)
  | .obj members => .obj ((normalMembers members).insertionSort fun a b => a.1 ≤ b.1)
  | j => j

def normalAll : List Json → List Json
  | [] => []
  | j :: js => j.normal :: normalAll js

def normalMembers : List (String × Json) → List (String × Json)
  | [] => []
  | (k, j) :: ms => (k, j.normal) :: normalMembers ms

end

@[simp] theorem normal_bool (b : Bool) : (Json.bool b).normal = .bool b := rfl

@[simp] theorem normal_str (s : String) : (Json.str s).normal = .str s := rfl

@[simp] theorem normal_obj (ms : List (String × Json)) :
    (Json.obj ms).normal = .obj ((normalMembers ms).insertionSort fun a b => a.1 ≤ b.1) := rfl

@[simp] theorem normalMembers_nil : normalMembers [] = [] := rfl

@[simp] theorem normalMembers_cons (k : String) (j : Json) (ms : List (String × Json)) :
    normalMembers ((k, j) :: ms) = (k, j.normal) :: normalMembers ms := rfl

/-! Lists of strings. -/

@[simp] theorem normal_strs (ss : List String) : (Json.strs ss).normal = Json.strs ss := by
  have hall : normalAll (ss.map .str) = ss.map .str := by
    induction ss with
    | nil => rfl
    | cons s ss ih => rw [List.map_cons, normalAll, ih, normal_str]
  rw [Json.strs, Json.normal, hall]

/-- An object of strings. -/
theorem normalMembers_strs (l : List (String × String)) :
    normalMembers (l.map fun p => (p.1, Json.str p.2)) = l.map fun p => (p.1, Json.str p.2) := by
  induction l with
  | nil => rfl
  | cons p l ih => rw [List.map_cons, normalMembers_cons, ih, normal_str]

@[simp] theorem numberFree_strs (ss : List String) : (Json.strs ss).numberFree = true := by
  rw [Json.strs, Json.numberFree]
  induction ss with
  | nil => rfl
  | cons s ss ih => rw [List.map_cons, allNumberFree, ih]; rfl

@[simp] theorem strs_inj {ss ts : List String} : Json.strs ss = Json.strs ts ↔ ss = ts := by
  constructor
  · intro h
    exact List.map_injective_iff.2 (fun a b hab => Json.str.inj hab) (Json.arr.inj h)
  · intro h
    rw [h]

/-! ## Texts -/

/-- What stands before an element of a sequence. -/
def comma (first : Bool) : List Char := if first then [] else [',']

mutual

/-- The text of a value whose members are in order. -/
def text : Json → List Char
  | .null => ['n', 'u', 'l', 'l']
  | .bool b => if b then ['t', 'r', 'u', 'e'] else ['f', 'a', 'l', 's', 'e']
  | .num text => text.toList
  | .str s => (quote s).toList
  | .arr elems => '[' :: textElems true elems
  | .obj members => '\x7b' :: textMembers true members

def textElems (first : Bool) : List Json → List Char
  | [] => [']']
  | j :: js => comma first ++ (text j ++ textElems false js)

def textMembers (first : Bool) : List (String × Json) → List Char
  | [] => ['\x7d']
  | (k, j) :: ms => comma first ++ ((quote k).toList ++ ':' :: (text j ++ textMembers false ms))

end

theorem toList_quote (s : String) : (quote s).toList = '"' :: (s.toList.flatMap escapeChar ++ ['"']) := by
  simp [quote]

/-- The first character of a value's text; it tells the kind of the value. -/
def Json.head : Json → Char
  | .null => 'n'
  | .bool b => if b then 't' else 'f'
  | .num _ => '0'
  | .str _ => '"'
  | .arr _ => '['
  | .obj _ => '\x7b'

theorem text_eq_cons {j : Json} (h : j.numberFree = true) : ∃ s, text j = j.head :: s := by
  cases j with
  | bool b => cases b <;> exact ⟨_, rfl⟩
  | num t => cases h
  | str s => exact ⟨_, toList_quote s⟩
  | arr elems => exact ⟨_, by rw [text]; rfl⟩
  | obj members => exact ⟨_, by rw [text]; rfl⟩
  | null => exact ⟨_, rfl⟩

theorem head_ne (j : Json) : j.head ≠ ']' ∧ j.head ≠ ',' := by
  cases j with
  | bool b => cases b <;> decide
  | _ => exact ⟨by simp [Json.head], by simp [Json.head]⟩

theorem head_eq {i j : Json} {s t : List Char} (hi : i.numberFree = true) (hj : j.numberFree = true)
    (h : text i ++ s = text j ++ t) : i.head = j.head := by
  obtain ⟨is, his⟩ := text_eq_cons hi
  obtain ⟨js, hjs⟩ := text_eq_cons hj
  rw [his, hjs] at h
  exact (List.cons.inj h).1

/-- The end of a sequence is not the beginning of an element. -/
theorem textElems_nil_ne {j : Json} {js : List Json} {first : Bool} {s t : List Char}
    (hj : j.numberFree = true) : ']' :: s ≠ textElems first (j :: js) ++ t := by
  obtain ⟨text', htext⟩ := text_eq_cons hj
  rw [textElems, htext]
  cases first with
  | true => simp [comma, (head_ne j).1.symm]
  | false => simp [comma]

theorem textMembers_nil_ne {m : String × Json} {ms : List (String × Json)} {first : Bool}
    {s t : List Char} : '\x7d' :: s ≠ textMembers first (m :: ms) ++ t := by
  rw [textMembers, toList_quote]
  cases first <;> simp [comma]

mutual

/-- A value is read back from any text that it begins. -/
theorem text_inj : (i : Json) → i.numberFree = true → ∀ {j : Json} {s t : List Char},
    j.numberFree = true → text i ++ s = text j ++ t → i = j ∧ s = t
  | i, hi, j, s, t, hj, h => by
    have hhead := head_eq hi hj h
    cases i with
    | null =>
      cases j with
      | null => exact ⟨rfl, List.append_cancel_left h⟩
      | bool b => cases b <;> simp [Json.head] at hhead
      | _ => simp [Json.head] at hhead
    | bool b =>
      cases j with
      | bool c =>
        obtain rfl : b = c := by revert hhead; cases b <;> cases c <;> simp [Json.head]
        exact ⟨rfl, List.append_cancel_left h⟩
      | _ => cases b <;> simp [Json.head] at hhead
    | num k => cases hi
    | str k =>
      cases j with
      | str l =>
        obtain ⟨rfl, hst⟩ := quote_inj h
        exact ⟨rfl, hst⟩
      | bool b => cases b <;> simp [Json.head] at hhead
      | _ => simp [Json.head] at hhead
    | arr is =>
      cases j with
      | arr js =>
        simp only [text, List.cons_append, List.cons.injEq, true_and] at h
        obtain ⟨rfl, hst⟩ := textElems_inj is hi hj h
        exact ⟨rfl, hst⟩
      | bool b => cases b <;> simp [Json.head] at hhead
      | _ => simp [Json.head] at hhead
    | obj is =>
      cases j with
      | obj js =>
        simp only [text, List.cons_append, List.cons.injEq, true_and] at h
        obtain ⟨rfl, hst⟩ := textMembers_inj is hi hj h
        exact ⟨rfl, hst⟩
      | bool b => cases b <;> simp [Json.head] at hhead
      | _ => simp [Json.head] at hhead

theorem textElems_inj : (is : List Json) → allNumberFree is = true → ∀ {js : List Json} {first : Bool}
    {s t : List Char}, allNumberFree js = true →
    textElems first is ++ s = textElems first js ++ t → is = js ∧ s = t
  | [], _, js, first, s, t, hj, h => by
    cases js with
    | nil => exact ⟨rfl, List.append_cancel_left h⟩
    | cons j js =>
      simp only [allNumberFree, Bool.and_eq_true] at hj
      exact absurd h (textElems_nil_ne hj.1)
  | i :: is, hi, js, first, s, t, hj, h => by
    simp only [allNumberFree, Bool.and_eq_true] at hi
    cases js with
    | nil => exact absurd h.symm (textElems_nil_ne hi.1)
    | cons j js =>
      simp only [allNumberFree, Bool.and_eq_true] at hj
      simp only [textElems, List.append_assoc, List.append_cancel_left_eq] at h
      obtain ⟨hij, hrest⟩ := text_inj i hi.1 hj.1 h
      obtain ⟨hjs, hst⟩ := textElems_inj is hi.2 hj.2 hrest
      exact ⟨by rw [hij, hjs], hst⟩

theorem textMembers_inj : (is : List (String × Json)) → membersNumberFree is = true →
    ∀ {js : List (String × Json)} {first : Bool} {s t : List Char}, membersNumberFree js = true →
    textMembers first is ++ s = textMembers first js ++ t → is = js ∧ s = t
  | [], _, js, first, s, t, hj, h => by
    cases js with
    | nil => exact ⟨rfl, List.append_cancel_left h⟩
    | cons m js => exact absurd h textMembers_nil_ne
  | (k, i) :: is, hi, js, first, s, t, hj, h => by
    simp only [membersNumberFree, Bool.and_eq_true] at hi
    cases js with
    | nil => exact absurd h.symm textMembers_nil_ne
    | cons m js =>
      obtain ⟨l, j⟩ := m
      simp only [membersNumberFree, Bool.and_eq_true] at hj
      simp only [textMembers, List.append_assoc, List.cons_append, List.append_cancel_left_eq] at h
      obtain ⟨hkl, hvalue⟩ := quote_inj h
      obtain ⟨hij, hrest⟩ := text_inj i hi.1 hj.1 (List.cons.inj hvalue).2
      obtain ⟨hjs, hst⟩ := textMembers_inj is hi.2 hj.2 hrest
      exact ⟨by rw [hkl, hij, hjs], hst⟩

end

/-! ## The canonical text -/

theorem toList_intercalate_elems (js : List Json) :
    (",".intercalate (js.map fun j => String.ofList (text j))).toList ++ [']'] =
      textElems true js := by
  induction js with
  | nil => rfl
  | cons j js ih =>
    cases js with
    | nil => simp [textElems, comma]
    | cons k js =>
      rw [List.map_cons, List.map_cons, String.intercalate_cons_cons]
      rw [List.map_cons] at ih
      simp only [String.toList_append, List.append_assoc, ih]
      simp [textElems, comma]

theorem toList_intercalate_members (ms : List (String × Json)) :
    (",".intercalate (ms.map fun p => quote p.1 ++ ":" ++ String.ofList (text p.2))).toList ++
      ['\x7d'] = textMembers true ms := by
  induction ms with
  | nil => rfl
  | cons m ms ih =>
    cases ms with
    | nil => simp [textMembers, comma]
    | cons n ms =>
      rw [List.map_cons, List.map_cons, String.intercalate_cons_cons]
      rw [List.map_cons] at ih
      simp only [String.toList_append, List.append_assoc, ih]
      simp [textMembers, comma]

mutual

theorem toList_dumps : (j : Json) → (dumps j).toList = text j.normal
  | .null => rfl
  | .bool b => by cases b <;> rfl
  | .num _ => rfl
  | .str _ => rfl
  | .arr elems => by
    rw [dumps, dumpsAll_eq, Json.normal, text, ← toList_intercalate_elems]
    simp [String.toList_append]
  | .obj members => by
    have hsorted : (dumpsMembers members).insertionSort (fun a b => a.1 ≤ b.1) =
        ((normalMembers members).insertionSort fun a b => a.1 ≤ b.1).map
          fun p => (p.1, String.ofList (text p.2)) := by
      rw [dumpsMembers_eq]
      exact (List.map_insertionSort (fun a b : String × Json => a.1 ≤ b.1)
        (fun a b : String × String => a.1 ≤ b.1) _ _ fun _ _ _ _ => Iff.rfl).symm
    rw [dumps, Json.normal, text, ← toList_intercalate_members]
    simp only [hsorted, List.map_map]
    simp [String.toList_append, Function.comp_def]

theorem dumpsAll_eq : (js : List Json) →
    dumpsAll js = (normalAll js).map fun j => String.ofList (text j)
  | [] => rfl
  | j :: js => by
    rw [dumpsAll, normalAll, List.map_cons, dumpsAll_eq js, ← toList_dumps j, String.ofList_toList]

theorem dumpsMembers_eq : (ms : List (String × Json)) →
    dumpsMembers ms = (normalMembers ms).map fun p => (p.1, String.ofList (text p.2))
  | [] => rfl
  | (k, j) :: ms => by
    rw [dumpsMembers, normalMembers, List.map_cons, dumpsMembers_eq ms, ← toList_dumps j,
      String.ofList_toList]

end

theorem membersNumberFree_iff {ms : List (String × Json)} :
    membersNumberFree ms = true ↔ ∀ p ∈ ms, p.2.numberFree = true := by
  induction ms with
  | nil => simp [membersNumberFree]
  | cons m ms ih => simp [membersNumberFree, ih]

mutual

theorem numberFree_normal : (j : Json) → j.normal.numberFree = j.numberFree
  | .null | .bool _ | .num _ | .str _ => rfl
  | .arr elems => by rw [Json.normal, Json.numberFree, allNumberFree_normal elems, Json.numberFree]
  | .obj members => by
    have hperm := List.perm_insertionSort (fun a b : String × Json => a.1 ≤ b.1) (normalMembers members)
    rw [Json.normal, Json.numberFree, Json.numberFree, ← membersNumberFree_normal members,
      Bool.eq_iff_iff, membersNumberFree_iff, membersNumberFree_iff]
    exact forall_congr' fun p => imp_congr_left hperm.mem_iff

theorem allNumberFree_normal : (js : List Json) → allNumberFree (normalAll js) = allNumberFree js
  | [] => rfl
  | j :: js => by
    rw [normalAll, allNumberFree, allNumberFree, numberFree_normal j, allNumberFree_normal js]

theorem membersNumberFree_normal : (ms : List (String × Json)) →
    membersNumberFree (normalMembers ms) = membersNumberFree ms
  | [] => rfl
  | (k, j) :: ms => by
    rw [normalMembers, membersNumberFree, membersNumberFree, numberFree_normal j,
      membersNumberFree_normal ms]

end

/-- Values that differ in the order of members only have one text. -/
theorem dumps_eq_of_normal {i j : Json} (h : i.normal = j.normal) : dumps i = dumps j := by
  apply String.ext
  rw [toList_dumps, toList_dumps, h]

/-- The canonical text tells values without numbers apart, up to the order of members. -/
theorem dumps_inj {i j : Json} (hi : i.numberFree = true) (hj : j.numberFree = true) :
    dumps i = dumps j ↔ i.normal = j.normal := by
  constructor
  · intro h
    have htext : text i.normal ++ [] = text j.normal ++ [] := by
      rw [← toList_dumps, ← toList_dumps, h]
    rw [← numberFree_normal] at hi hj
    exact (text_inj i.normal hi hj htext).1
  · exact dumps_eq_of_normal

/-! ## Members in order -/

open Keyed (Dict Table)

/-- Two dictionaries with the same values under the same keys have the same rows in order. -/
theorem sorted_rows_eq_iff {α : Type} {d e : Dict String α} :
    (d.rows.insertionSort fun a b => a.1 ≤ b.1) = (e.rows.insertionSort fun a b => a.1 ≤ b.1) ↔
      ∀ k, d.get? k = e.get? k := by
  have hperm : ∀ d : Dict String α,
      List.Perm (d.rows.insertionSort fun a b => a.1 ≤ b.1) d.rows :=
    fun d => List.perm_insertionSort _ _
  constructor
  · intro h k
    have hrows : d.rows.Perm e.rows := (hperm d).symm.trans ((List.Perm.of_eq h).trans (hperm e))
    ext v
    rw [Dict.get?_eq_some, Dict.get?_eq_some]
    exact hrows.mem_iff
  · intro h
    have hrows : d.rows.Perm e.rows := by
      refine (List.perm_ext_iff_of_nodup d.nodup_keys.of_map e.nodup_keys.of_map).2 ?_
      rintro ⟨k, v⟩
      have hk : d.get? k = some v ↔ e.get? k = some v := by rw [h k]
      rwa [Dict.get?_eq_some, Dict.get?_eq_some] at hk
    have : Std.Total fun a b : String × α => a.1 ≤ b.1 := ⟨fun a b => le_total a.1 b.1⟩
    have : IsTrans (String × α) fun a b => a.1 ≤ b.1 := ⟨fun _ _ _ => le_trans⟩
    refine List.Perm.eq_of_pairwise (fun a b ha hb hab hba => ?_)
      (List.pairwise_insertionSort (fun a b : String × α => a.1 ≤ b.1) _)
      (List.pairwise_insertionSort _ _) ((hperm d).trans (hrows.trans (hperm e).symm))
    have ha' : a ∈ d.rows := (hperm d).mem_iff.1 ha
    have hb' : b ∈ d.rows := hrows.mem_iff.2 ((hperm e).mem_iff.1 hb)
    exact Table.eq_of_key_eq ha' hb' (le_antisymm hab hba)

end Canonical
