import Mathlib.Data.List.Basic
import Mathlib.Data.List.Infix
import Mathlib.Tactic.Common

/-!
# HermesRpt.Lib.Pattern

Regular expressions that are a row of character classes, each read once, at most once, or as often
as possible. A repetition is greedy and gives characters back when what follows needs them.

* `Pattern.match?` : what a match at the front of a text leaves of it.
* `pieces`         : the text cut into its leftmost matches and the characters between them.
* `sub`            : every match replaced.
* `occurs`         : the items match somewhere in the text.
* `Closes`         : the scan of the text ends in a match that ends with it.

Two ways to cut a replacement are at the end of the module. `sub_split` cuts at a character that
no class accepts, `sub_mandatory` leaves a text alone that lacks a character every match has.
-/

namespace Patterns

inductive Item where
  | one (p : Char → Bool)
  | opt (p : Char → Bool)
  | many (p : Char → Bool)

def Item.accepts : Item → Char → Bool
  | .one p | .opt p | .many p => p

/-- A first character and the items after it, so that a match is never empty. -/
structure Pattern where
  first : Char → Bool
  items : List Item

def Pattern.row (P : Pattern) : List Item := .one P.first :: P.items

/-- `k` after as many characters of the class as leave it a match. -/
def greedy (p : Char → Bool) (k : List Char → Option (List Char)) :
    List Char → Option (List Char)
  | [] => k []
  | c :: s => if p c then (greedy p k s).or (k (c :: s)) else k (c :: s)

/-- What the first match of the items leaves of a text. -/
def rest? : List Item → List Char → Option (List Char)
  | [], s => some s
  | .one _ :: _, [] => none
  | .one p :: is, c :: s => if p c then rest? is s else none
  | .opt _ :: is, [] => rest? is []
  | .opt p :: is, c :: s => if p c then (rest? is s).or (rest? is (c :: s)) else rest? is (c :: s)
  | .many p :: is, s => greedy p (rest? is) s

/-- `re.search` finds a match. -/
def occurs (is : List Item) (s : List Char) : Bool := s.tails.any fun t => (rest? is t).isSome

inductive Piece where
  | plain (c : Char)
  | found (text : List Char)
  deriving DecidableEq

namespace Piece

/-- A piece after the replacement. -/
def render (repl : List Char) : Piece → List Char
  | plain c => [c]
  | found _ => repl

def isFound : Piece → Bool
  | plain _ => false
  | found _ => true

end Piece

namespace Pattern

def match? (P : Pattern) : List Char → Option (List Char)
  | [] => none
  | c :: s => if P.first c then rest? P.items s else none

/-- The pieces of a text whose first `n` characters belong to a match. -/
def piecesFrom (P : Pattern) : Nat → List Char → List Piece
  | _, [] => []
  | n + 1, _ :: s => piecesFrom P n s
  | 0, c :: s =>
    match P.match? (c :: s) with
    | some rest =>
      .found ((c :: s).take (s.length + 1 - rest.length)) ::
        piecesFrom P (s.length - rest.length) s
    | none => .plain c :: piecesFrom P 0 s

def pieces (P : Pattern) (s : List Char) : List Piece := P.piecesFrom 0 s

/-- `pattern.sub(repl, s)` -/
def sub (P : Pattern) (repl s : List Char) : List Char := (P.pieces s).flatMap (Piece.render repl)

/-- The last piece of the text is a match. -/
def Closes (P : Pattern) (s : List Char) : Prop := ∃ m, (P.pieces s).getLast? = some (.found m)

instance (P : Pattern) (s : List Char) : Decidable (P.Closes s) :=
  decidable_of_iff ((P.pieces s).getLast?.any Piece.isFound = true) (by
    unfold Closes
    cases (P.pieces s).getLast? with
    | none => simp
    | some x => cases x <;> simp [Piece.isFound])

end Pattern

/-! ## Matches -/

theorem greedy_suffix {p : Char → Bool} {k : List Char → Option (List Char)}
    (hk : ∀ s r, k s = some r → r <:+ s) {s r : List Char} (h : greedy p k s = some r) :
    r <:+ s := by
  induction s with
  | nil => exact hk _ _ h
  | cons c s ih =>
    unfold greedy at h
    split at h
    · rcases Option.or_eq_some_iff.1 h with h | ⟨-, h⟩
      · exact (ih h).trans (List.suffix_cons c s)
      · exact hk _ _ h
    · exact hk _ _ h

theorem rest?_suffix {is : List Item} {s r : List Char} (h : rest? is s = some r) : r <:+ s := by
  induction is generalizing s r with
  | nil =>
    cases h
    exact List.suffix_refl s
  | cons i is ih =>
    cases i with
    | one p =>
      cases s with
      | nil => cases h
      | cons c s =>
        simp only [rest?, Option.ite_none_right_eq_some] at h
        exact (ih h.2).trans (List.suffix_cons c s)
    | opt p =>
      cases s with
      | nil => exact ih h
      | cons c s =>
        simp only [rest?] at h
        split at h
        · rcases Option.or_eq_some_iff.1 h with h | ⟨-, h⟩
          · exact (ih h).trans (List.suffix_cons c s)
          · exact ih h
        · exact ih h
    | many p => exact greedy_suffix (fun _ _ => ih) h

theorem greedy_append {p : Char → Bool} {k : List Char → Option (List Char)} {d : Char}
    {v : List Char} (hd : p d = false)
    (hk : ∀ u, k (u ++ d :: v) = (k u).map (· ++ d :: v)) (u : List Char) :
    greedy p k (u ++ d :: v) = (greedy p k u).map (· ++ d :: v) := by
  induction u with
  | nil => simpa [greedy, hd] using hk []
  | cons c u ih =>
    have hc := hk (c :: u)
    simp only [List.cons_append] at hc ⊢
    unfold greedy
    by_cases hp : p c = true
    · simp only [hp, if_true, ih, hc]
      cases greedy p k u <;> rfl
    · simp only [hp, hc]
      rfl

/-- What stands from a character no item accepts onwards is not read. -/
theorem rest?_append {is : List Item} {d : Char} (v : List Char)
    (hd : ∀ i ∈ is, i.accepts d = false) (u : List Char) :
    rest? is (u ++ d :: v) = (rest? is u).map (· ++ d :: v) := by
  induction is generalizing u with
  | nil => rfl
  | cons i is ih =>
    have ih' := ih fun j hj => hd j (by simp [hj])
    have hi : i.accepts d = false := hd i (by simp)
    cases i with
    | one p =>
      cases u with
      | nil =>
        have hp : p d = false := hi
        simp [rest?, hp]
      | cons c u =>
        simp only [List.cons_append, rest?]
        split
        · exact ih' u
        · rfl
    | opt p =>
      cases u with
      | nil =>
        have hp : p d = false := hi
        simpa [rest?, hp] using ih' []
      | cons c u =>
        have hc := ih' (c :: u)
        simp only [List.cons_append] at hc
        simp only [List.cons_append, rest?, hc, ih' u]
        split
        · cases rest? is u <;> rfl
        · rfl
    | many p => exact greedy_append hi ih' u

theorem greedy_eq_none {p q : Char → Bool} {k : List Char → Option (List Char)}
    (hk : ∀ s, (∀ c ∈ s, q c = false) → k s = none) {s : List Char}
    (hs : ∀ c ∈ s, q c = false) : greedy p k s = none := by
  induction s with
  | nil => exact hk [] hs
  | cons c s ih =>
    have hrest := ih fun d hd => hs d (by simp [hd])
    simp [greedy, hrest, hk _ hs]

/-- A text without a character of a class that is read once has no match. -/
theorem rest?_eq_none {is : List Item} {q : Char → Bool} (hq : Item.one q ∈ is) {s : List Char}
    (hs : ∀ c ∈ s, q c = false) : rest? is s = none := by
  induction is generalizing s with
  | nil => cases hq
  | cons i is ih =>
    rcases List.mem_cons.1 hq with rfl | hq
    · cases s with
      | nil => rfl
      | cons c s => simp [rest?, hs c]
    · have ih' := fun {s} => @ih hq s
      cases i with
      | one p =>
        cases s with
        | nil => rfl
        | cons c s =>
          have hrest := @ih' s fun d hd => hs d (by simp [hd])
          simp [rest?, hrest]
      | opt p =>
        cases s with
        | nil => exact ih' hs
        | cons c s =>
          have hrest := @ih' s fun d hd => hs d (by simp [hd])
          simp [rest?, hrest, ih' hs]
      | many p => exact greedy_eq_none (fun _ => ih') hs

theorem greedy_last {p q : Char → Bool} {k : List Char → Option (List Char)}
    (hk : ∀ s r, k s = some r → ∃ u c, s = u ++ c :: r ∧ q c = true) {s r : List Char}
    (h : greedy p k s = some r) : ∃ u c, s = u ++ c :: r ∧ q c = true := by
  induction s with
  | nil => exact hk _ _ h
  | cons a s ih =>
    unfold greedy at h
    split at h
    · rcases Option.or_eq_some_iff.1 h with h | ⟨-, h⟩
      · obtain ⟨u, c, rfl, hc⟩ := ih h
        exact ⟨a :: u, c, rfl, hc⟩
      · exact hk _ _ h
    · exact hk _ _ h

/-- A match ends with a character of the last class. -/
theorem rest?_last {is : List Item} {q : Char → Bool} {s r : List Char}
    (h : rest? (is ++ [.one q]) s = some r) : ∃ u c, s = u ++ c :: r ∧ q c = true := by
  induction is generalizing s r with
  | nil =>
    cases s with
    | nil => cases h
    | cons c s =>
      simp only [List.nil_append, rest?, Option.ite_none_right_eq_some] at h
      obtain ⟨hc, hr⟩ := h
      cases hr
      exact ⟨[], c, rfl, hc⟩
  | cons i is ih =>
    cases i with
    | one p =>
      cases s with
      | nil => cases h
      | cons a s =>
        simp only [List.cons_append, rest?, Option.ite_none_right_eq_some] at h
        obtain ⟨u, c, rfl, hc⟩ := ih h.2
        exact ⟨a :: u, c, rfl, hc⟩
    | opt p =>
      cases s with
      | nil => exact ih h
      | cons a s =>
        simp only [List.cons_append, rest?] at h
        split at h
        · rcases Option.or_eq_some_iff.1 h with h | ⟨-, h⟩
          · obtain ⟨u, c, rfl, hc⟩ := ih h
            exact ⟨a :: u, c, rfl, hc⟩
          · exact ih h
        · exact ih h
    | many p => exact greedy_last (fun _ _ => ih) h

namespace Pattern

variable {P : Pattern} {repl : List Char}

/-- No class of the pattern accepts the character. -/
def Refuses (P : Pattern) (d : Char) : Prop :=
  P.first d = false ∧ ∀ i ∈ P.items, i.accepts d = false

theorem match?_shorter {c : Char} {s r : List Char} (h : P.match? (c :: s) = some r) :
    r <:+ s := by
  simp only [match?, Option.ite_none_right_eq_some] at h
  exact rest?_suffix h.2

theorem match?_of_first {c : Char} (h : P.first c = false) (s : List Char) :
    P.match? (c :: s) = none := by
  simp [match?, h]

theorem match?_append {d : Char} (hd : P.Refuses d) (v u : List Char) :
    P.match? (u ++ d :: v) = (P.match? u).map (· ++ d :: v) := by
  cases u with
  | nil => simp [match?, hd.1]
  | cons c u =>
    simp only [List.cons_append, match?]
    split
    · exact rest?_append v hd.2 u
    · rfl

/-- Past its first character the match needs one of each class that is read once. -/
theorem match?_eq_none {q : Char → Bool} (hq : Item.one q ∈ P.items) {c : Char} {s : List Char}
    (hs : ∀ d ∈ s, q d = false) : P.match? (c :: s) = none := by
  simp [match?, rest?_eq_none hq hs]

theorem match?_last {is : List Item} {q : Char → Bool} (hP : P.items = is ++ [.one q])
    {s r : List Char} (h : P.match? s = some r) : ∃ u c, s = u ++ c :: r ∧ q c = true := by
  cases s with
  | nil => cases h
  | cons a s =>
    simp only [match?, hP, Option.ite_none_right_eq_some] at h
    obtain ⟨u, c, rfl, hc⟩ := rest?_last h.2
    exact ⟨a :: u, c, rfl, hc⟩

/-! ## Pieces -/

theorem piecesFrom_eq (n : Nat) (s : List Char) : P.piecesFrom n s = P.pieces (s.drop n) := by
  induction s generalizing n with
  | nil => simp [pieces, piecesFrom]
  | cons c s ih =>
    cases n with
    | zero => rfl
    | succ n => simpa [piecesFrom] using ih n

@[simp] theorem pieces_nil : P.pieces [] = [] := rfl

theorem pieces_plain {c : Char} {s : List Char} (h : P.match? (c :: s) = none) :
    P.pieces (c :: s) = .plain c :: P.pieces s := by
  simp only [pieces, piecesFrom, h]

theorem pieces_found {s r : List Char} (h : P.match? s = some r) :
    ∃ m, m ≠ [] ∧ s = m ++ r ∧ P.pieces s = .found m :: P.pieces r := by
  cases s with
  | nil => cases h
  | cons c s =>
    obtain ⟨m, rfl⟩ := match?_shorter h
    refine ⟨c :: m, by simp, rfl, ?_⟩
    have htake : (c :: (m ++ r)).take ((m ++ r).length + 1 - r.length) = c :: m := by
      rw [show (m ++ r).length + 1 - r.length = m.length + 1 by simp; omega]
      simp
    have hdrop : (m ++ r).drop ((m ++ r).length - r.length) = r := by simp
    rw [pieces, piecesFrom, h]
    dsimp only
    rw [htake, piecesFrom_eq, hdrop]

/-- Along the scan of a text: its end, a character no match starts at, or a match. -/
theorem scan_induction {motive : List Char → Prop} (nil : motive [])
    (plain : ∀ c s, P.match? (c :: s) = none → motive s → motive (c :: s))
    (found : ∀ m r, m ≠ [] → P.match? (m ++ r) = some r →
      P.pieces (m ++ r) = .found m :: P.pieces r → motive r → motive (m ++ r))
    (s : List Char) : motive s := by
  induction hn : s.length using Nat.strong_induction_on generalizing s with
  | _ n ih =>
    cases s with
    | nil => exact nil
    | cons c s =>
      cases h : P.match? (c :: s) with
      | none => exact plain c s h (ih s.length (by simp at hn; omega) s rfl)
      | some r =>
        obtain ⟨m, hm, heq, hp⟩ := pieces_found h
        have hlen : r.length < n := by
          have := (match?_shorter h).length_le
          simp at hn
          omega
        rw [heq] at h hp ⊢
        exact found m r hm h hp (ih r.length hlen r rfl)

@[simp] theorem sub_nil : P.sub repl [] = [] := rfl

theorem sub_plain {c : Char} {s : List Char} (h : P.match? (c :: s) = none) :
    P.sub repl (c :: s) = c :: P.sub repl s := by
  simp [sub, pieces_plain h, Piece.render]

theorem sub_found {s r : List Char} (h : P.match? s = some r) :
    P.sub repl s = repl ++ P.sub repl r := by
  obtain ⟨m, -, -, hp⟩ := pieces_found h
  simp [sub, hp, Piece.render]

@[simp] theorem not_closes_nil : ¬P.Closes [] := by simp [Closes]

theorem pieces_eq_nil {s : List Char} : P.pieces s = [] ↔ s = [] := by
  constructor
  · intro h
    cases s with
    | nil => rfl
    | cons c s =>
      cases hm : P.match? (c :: s) with
      | none => simp [pieces_plain hm] at h
      | some r =>
        obtain ⟨m, -, -, hp⟩ := pieces_found hm
        simp [hp] at h
  · rintro rfl
    rfl

theorem closes_plain {c : Char} {s : List Char} (h : P.match? (c :: s) = none) :
    P.Closes (c :: s) ↔ P.Closes s := by
  unfold Closes
  rw [pieces_plain h, List.getLast?_cons]
  cases (P.pieces s).getLast? <;> simp

theorem closes_found {s r : List Char} (h : P.match? s = some r) :
    P.Closes s ↔ r = [] ∨ P.Closes r := by
  obtain ⟨m, -, -, hp⟩ := pieces_found h
  unfold Closes
  rw [hp, List.getLast?_cons, ← pieces_eq_nil (P := P)]
  cases hr : P.pieces r with
  | nil => simp
  | cons x xs => simp [List.getLast?_cons]

/-- A text that ends in a match ends, replaced, in the replacement. -/
theorem sub_of_closes {s : List Char} (h : P.Closes s) : ∃ t, P.sub repl s = t ++ repl := by
  obtain ⟨m, hm⟩ := h
  obtain ⟨init, hp⟩ := List.getLast?_eq_some_iff.1 hm
  exact ⟨init.flatMap (Piece.render repl), by simp [sub, hp, Piece.render]⟩

/-! ## Cutting a replacement -/

theorem sub_first {c : Char} (h : P.first c = false) (s : List Char) :
    P.sub repl (c :: s) = c :: P.sub repl s := sub_plain (match?_of_first h s)

theorem sub_skip {u : List Char} (hu : ∀ c ∈ u, P.first c = false) (v : List Char) :
    P.sub repl (u ++ v) = u ++ P.sub repl v := by
  induction u with
  | nil => rfl
  | cons c u ih =>
    rw [List.cons_append, sub_first (hu c (by simp)), ih fun d hd => hu d (by simp [hd]),
      List.cons_append]

theorem sub_split {d : Char} (hd : P.Refuses d) (u v : List Char) :
    P.sub repl (u ++ d :: v) = P.sub repl u ++ d :: P.sub repl v := by
  induction u using scan_induction (P := P) with
  | nil => exact sub_first hd.1 v
  | plain c s h ih =>
    have h' : P.match? (c :: (s ++ d :: v)) = none := by
      rw [← List.cons_append, match?_append hd, h]
      rfl
    rw [List.cons_append, sub_plain h', ih, sub_plain h, List.cons_append]
  | found m r _ h _ ih =>
    have h' := match?_append hd v (m ++ r)
    rw [h] at h'
    rw [sub_found h', ih, sub_found h, List.append_assoc]

theorem closes_split {d : Char} (hd : P.Refuses d) (u v : List Char) :
    P.Closes (u ++ d :: v) ↔ P.Closes v := by
  induction u using scan_induction (P := P) with
  | nil => exact closes_plain (match?_of_first hd.1 v)
  | plain c s h ih =>
    have h' : P.match? (c :: (s ++ d :: v)) = none := by
      rw [← List.cons_append, match?_append hd, h]
      rfl
    rw [List.cons_append, closes_plain h', ih]
  | found m r _ h _ ih =>
    have h' := match?_append hd v (m ++ r)
    rw [h] at h'
    rw [closes_found h', ih]
    simp

/-- A text in which no match starts stays as it is. -/
theorem sub_unmatched {s : List Char} (h : ∀ t, t <:+ s → P.match? t = none) :
    P.sub repl s = s := by
  induction s with
  | nil => rfl
  | cons c s ih =>
    rw [sub_plain (h _ (List.suffix_refl _)), ih fun t ht => h t (ht.trans (List.suffix_cons c s))]

theorem sub_mandatory {q : Char → Bool} (hq : Item.one q ∈ P.items) {s : List Char}
    (hs : ∀ c ∈ s, q c = false) : P.sub repl s = s :=
  sub_unmatched fun t ht => by
    cases t with
    | nil => rfl
    | cons c t => exact match?_eq_none hq fun d hd => hs d (ht.subset (by simp [hd]))

theorem not_closes_mandatory {q : Char → Bool} (hq : Item.one q ∈ P.items) {s : List Char}
    (hs : ∀ c ∈ s, q c = false) : ¬P.Closes s := by
  induction s with
  | nil => exact not_closes_nil
  | cons c s ih =>
    have hs' : ∀ d ∈ s, q d = false := fun d hd => hs d (by simp [hd])
    rw [closes_plain (match?_eq_none hq hs')]
    exact ih hs'

/-- One character over and over is no match of a pattern that reads two disjoint classes. -/
theorem sub_replicate {q : Char → Bool} (hq : Item.one q ∈ P.items)
    (hdisj : ∀ c, P.first c = true → q c = false) (n : Nat) (c : Char) :
    P.sub repl (List.replicate n c) = List.replicate n c := by
  by_cases hc : P.first c = true
  · refine sub_mandatory hq fun d hd => ?_
    rw [(List.mem_replicate.1 hd).2]
    exact hdisj c hc
  · induction n with
    | zero => rfl
    | succ n ih =>
      rw [List.replicate_succ, sub_first (by simpa using hc), ih]

end Pattern

end Patterns
