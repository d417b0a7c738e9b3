import Mathlib.Data.Rat.Defs
import Mathlib.Tactic.Common

/-!
# HermesRpt.Common.Difflib

`SequenceMatcher(None, a, b).ratio()` of the standard library. A longest matching block is found
first, the earliest in `a` and then the earliest in `b`, and the pieces before and after it are
matched in the same way.

* `findLongestMatch`     : one block, by the lengths of the matches that end at each position.
* `matchedCharacters`    : how many characters all blocks have.
* `matchedCharacters_eq` : the pieces get shorter, so the bound on the depth is never met.
* `ratio`                : twice that over both lengths, rounded to a double.
-/

namespace HermesRpt

namespace Difflib

/-- `b[j : j + size]` is `a[i : i + size]`. -/
structure Match where
  i : Nat
  j : Nat
  size : Nat

/-- The characters that anchor no match: of 200 characters or more, those that are over one in a
hundred. -/
def popular (b : List Char) : List Char :=
  if 200 ≤ b.length then b.filter fun c => b.length / 100 + 1 < b.count c else []

/-- `newj2len`: the length of the match that ends at each position of `b`, from those of the
character before. -/
def nextRow (unanchored : List Char) (c : Char) (b : List Char) (row : List Nat) : List Nat :=
  List.zipWith (fun d k => if d = c ∧ d ∉ unanchored then k + 1 else 0) b (0 :: row)

/-- The matches that end at position `i` of `a`, of which only a longer one replaces the best. -/
def better (i : Nat) (best : Match) (row : List Nat) : Match :=
  row.zipIdx.foldl (fun best p =>
    if best.size < p.1 then ⟨i + 1 - p.1, p.2 + 1 - p.1, p.1⟩ else best) best

def longestAnchored (unanchored a b : List Char) : Match :=
  (a.zipIdx.foldl (fun (found : Match × List Nat) p =>
    let row := nextRow unanchored p.1 b found.2
    (better p.2 found.1 row, row)) (⟨0, 0, 0⟩, b.map fun _ => 0)).1

/-- The match is extended to the left by what is the same there. -/
def extendLeft (a b : List Char) : Nat → Nat → Nat → Match
  | i + 1, j + 1, size =>
    if a[i]? = b[j]? then extendLeft a b i j (size + 1) else ⟨i + 1, j + 1, size⟩
  | i, j, size => ⟨i, j, size⟩

def commonPrefix : List Char → List Char → Nat
  | c :: a, d :: b => if c = d then commonPrefix a b + 1 else 0
  | _, _ => 0

def findLongestMatch (unanchored a b : List Char) : Match :=
  let best := longestAnchored unanchored a b
  let found := extendLeft a b best.i best.j best.size
  { found with
    size := found.size +
      commonPrefix (a.drop (found.i + found.size)) (b.drop (found.j + found.size)) }

/-- The sizes of `get_matching_blocks()`, to some depth. -/
def matchedTo (unanchored : List Char) : Nat → List Char → List Char → Nat
  | 0, _, _ => 0
  | depth + 1, a, b =>
    let found := findLongestMatch unanchored a b
    if found.size = 0 then 0
    else found.size + matchedTo unanchored depth (a.take found.i) (b.take found.j) +
      matchedTo unanchored depth (a.drop (found.i + found.size)) (b.drop (found.j + found.size))

def matchedCharacters (a b : List Char) : Nat := matchedTo (popular b) a.length a b

/-- `SequenceMatcher(None, a, b).ratio()` -/
def ratio (round : ℚ → ℚ) (a b : List Char) : ℚ :=
  if a.length + b.length = 0 then 1
  else round (2 * matchedCharacters a b / (a.length + b.length : Nat))

section

variable {unanchored a b : List Char}

theorem findLongestMatch_nil : (findLongestMatch unanchored [] b).size = 0 := by
  simp [findLongestMatch, longestAnchored, extendLeft, commonPrefix]

theorem better_bound {i n : Nat} {best : Match} {row : List Nat} (hi : i ≤ n) (h : best.i ≤ n) :
    (better i best row).i ≤ n := by
  unfold better
  induction row.zipIdx generalizing best with
  | nil => exact h
  | cons p l ih =>
    rw [List.foldl_cons]
    by_cases hsize : best.size < p.1
    · rw [if_pos hsize]
      refine ih (?_ : i + 1 - p.1 ≤ n)
      omega
    · rw [if_neg hsize]
      exact ih h

theorem longestAnchored_bound {n : Nat} (h : ∀ p ∈ a.zipIdx, p.2 ≤ n) :
    (longestAnchored unanchored a b).i ≤ n := by
  unfold longestAnchored
  suffices ∀ found : Match × List Nat, found.1.i ≤ n → (a.zipIdx.foldl (fun found p =>
      let row := nextRow unanchored p.1 b found.2
      (better p.2 found.1 row, row)) found).1.i ≤ n from this _ (Nat.zero_le n)
  generalize a.zipIdx = l at h
  induction l with
  | nil => exact fun _ h => h
  | cons p l ih =>
    intro found hfound
    exact ih (fun q hq => h q (.tail _ hq)) _ (better_bound (h p (.head _)) hfound)

theorem extendLeft_le (i j size : Nat) : (extendLeft a b i j size).i ≤ i := by
  induction i generalizing j size with
  | zero => simp [extendLeft]
  | succ i ih =>
    cases j with
    | zero => simp [extendLeft]
    | succ j =>
      rw [extendLeft]
      split
      · exact (ih j _).trans (by omega)
      · exact le_refl _

/-- A block that is not empty starts inside of `a`. -/
theorem findLongestMatch_lt (h : (findLongestMatch unanchored a b).size ≠ 0) :
    (findLongestMatch unanchored a b).i < a.length := by
  cases a with
  | nil => exact absurd findLongestMatch_nil h
  | cons c a =>
    have hanchored : (longestAnchored unanchored (c :: a) b).i ≤ a.length :=
      longestAnchored_bound fun p hp => by
        have hlt := (List.mem_zipIdx hp).2.1
        simp only [List.length_cons] at hlt
        omega
    refine Nat.lt_succ_of_le (le_trans ?_ hanchored)
    exact extendLeft_le _ _ _

/-- Depths from the length of `a` on find the same. -/
theorem matchedTo_eq {depth depth' : Nat} (h : a.length ≤ depth) (h' : a.length ≤ depth') :
    matchedTo unanchored depth a b = matchedTo unanchored depth' a b := by
  induction depth generalizing a b depth' with
  | zero =>
    obtain rfl := List.eq_nil_of_length_eq_zero (Nat.le_zero.1 h)
    cases depth' with
    | zero => rfl
    | succ depth' => simp [matchedTo, findLongestMatch_nil]
  | succ depth ih =>
    cases depth' with
    | zero =>
      obtain rfl := List.eq_nil_of_length_eq_zero (Nat.le_zero.1 h')
      simp [matchedTo, findLongestMatch_nil]
    | succ depth' =>
      unfold matchedTo
      by_cases hsize : (findLongestMatch unanchored a b).size = 0
      · simp only [hsize, if_true]
      · have hlt := findLongestMatch_lt hsize
        have hbefore : (a.take (findLongestMatch unanchored a b).i).length < a.length := by
          simp only [List.length_take]
          omega
        have hafter : (a.drop ((findLongestMatch unanchored a b).i +
            (findLongestMatch unanchored a b).size)).length < a.length := by
          simp only [List.length_drop]
          omega
        simp only [hsize, if_false]
        rw [ih (by omega) (show _ ≤ depth' by omega), ih (by omega) (show _ ≤ depth' by omega)]

/-- The number of characters by one block and the pieces around it, with no bound on the depth. -/
theorem matchedCharacters_eq (a b : List Char) :
    matchedTo (popular b) (a.length + 1) a b = matchedCharacters a b :=
  matchedTo_eq (Nat.le_succ _) le_rfl

end

end Difflib

end HermesRpt
