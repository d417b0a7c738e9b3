import HermesRpt.Lib.Pattern

/-!
# HermesRpt.Lib.Scan

Patterns that never have to give a character back (`Determ`), read from left to right. After part of
a text the reader has failed, has stopped before a character, or waits for the items that are left.

* `next`, `feed` : the reader after one character, and after a text.
* `walk`         : a match found by reading on; `rest?_eq_walk`: it is the one of the pattern.
* `sub_hole`     : a replacement in a text with a hole that the match of a stand-in closes.
* `sub_append`   : a replacement in two texts that no match joins.
-/

namespace Patterns

/-- The reader after a character: there is no match, it ended before the character, or it goes on. -/
inductive Step where
  | fail
  | stop
  | go (is : List Item)

def next : List Item → Char → Step
  | [], _ => .stop
  | .one p :: is, c => if p c then .go is else .fail
  | .opt p :: is, c => if p c then .go is else next is c
  | .many p :: is, c => if p c then .go (.many p :: is) else next is c

/-- Nothing more has to be read. -/
def complete : List Item → Bool
  | [] => true
  | .one _ :: _ => false
  | .opt _ :: is | .many _ :: is => complete is

inductive Reader where
  | fail
  | stop (rest : List Char)
  | go (is : List Item)

def feed : List Item → List Char → Reader
  | is, [] => .go is
  | is, c :: s =>
    match next is c with
    | .fail => .fail
    | .stop => .stop (c :: s)
    | .go is' => feed is' s

def walk : List Item → List Char → Option (List Char)
  | is, [] => if complete is then some [] else none
  | is, c :: s =>
    match next is c with
    | .fail => none
    | .stop => some (c :: s)
    | .go is' => walk is' s

/-- A repetition ends the pattern, or what follows it does not accept its characters. -/
def Determ : List Item → Prop
  | [] => True
  | .one _ :: is => Determ is
  | .opt p :: is | .many p :: is =>
    (is = [] ∨ ∀ c, p c = true → next is c = .fail) ∧ Determ is

theorem walk_of_next {is js : List Item} {c : Char} (h : next is c = next js c) (s : List Char) :
    walk is (c :: s) = walk js (c :: s) := by
  simp only [walk, h]

theorem walk_go {is js : List Item} {c : Char} (h : next is c = .go js) (s : List Char) :
    walk is (c :: s) = walk js s := by
  simp only [walk, h]

theorem walk_fail {is : List Item} {c : Char} (h : next is c = .fail) (s : List Char) :
    walk is (c :: s) = none := by
  simp only [walk, h]

@[simp] theorem walk_end (s : List Char) : walk [] s = some s := by
  cases s <;> rfl

theorem walk_many {p : Char → Bool} {is : List Item} {u : List Char}
    (hu : ∀ c ∈ u, p c = true) (v : List Char) :
    walk (.many p :: is) (u ++ v) = walk (.many p :: is) v := by
  induction u with
  | nil => rfl
  | cons c u ih =>
    have hnext : next (.many p :: is) c = .go (.many p :: is) := by simp [next, hu c]
    rw [List.cons_append, walk_go hnext, ih fun d hd => hu d (by simp [hd])]

theorem walk_one {p : Char → Bool} {is : List Item} {c : Char} (hc : p c = true)
    (s : List Char) : walk (.one p :: is) (c :: s) = walk is s :=
  walk_go (by simp [next, hc]) s

theorem walk_skip {p : Char → Bool} {is : List Item} {c : Char} (hc : p c = false)
    (s : List Char) : walk (.many p :: is) (c :: s) = walk is (c :: s) :=
  walk_of_next (by simp [next, hc]) s

theorem greedy_some (p : Char → Bool) (s : List Char) : ∃ r, greedy p some s = some r := by
  induction s with
  | nil => exact ⟨[], rfl⟩
  | cons c s ih =>
    obtain ⟨r, hr⟩ := ih
    unfold greedy
    split
    · exact ⟨r, by rw [hr]; rfl⟩
    · exact ⟨c :: s, rfl⟩

/-- Without giving back, the first match is the only one. -/
theorem rest?_eq_walk {is : List Item} (hd : Determ is) (s : List Char) :
    rest? is s = walk is s := by
  induction is generalizing s with
  | nil => cases s <;> rfl
  | cons i is ih =>
    cases i with
    | one p =>
      cases s with
      | nil => rfl
      | cons c s =>
        simp only [rest?, walk, next]
        split
        · exact ih hd s
        · rfl
    | opt p =>
      obtain ⟨hp, hd'⟩ := hd
      cases s with
      | nil => exact ih hd' []
      | cons c s =>
        simp only [rest?, ih hd']
        by_cases hc : p c = true
        · have hnext : next (.opt p :: is) c = .go is := by simp [next, hc]
          rw [if_pos hc, walk_go hnext]
          rcases hp with rfl | hp
          · cases s <;> rfl
          · rw [walk_fail (hp c hc), Option.or_none]
        · rw [if_neg hc]
          exact (walk_of_next (by simp [next, hc]) s).symm
    | many p =>
      obtain ⟨hp, hd'⟩ := hd
      induction s with
      | nil => exact ih hd' []
      | cons c s ihs =>
        have ihs' : greedy p (rest? is) s = walk (.many p :: is) s := ihs
        show greedy p (rest? is) (c :: s) = _
        unfold greedy
        by_cases hc : p c = true
        · have hnext : next (.many p :: is) c = .go (.many p :: is) := by simp [next, hc]
          rw [if_pos hc, walk_go hnext, ← ihs']
          rcases hp with rfl | hp
          · obtain ⟨r, hr⟩ := greedy_some p s
            rw [show rest? [] = some from rfl, hr]
            rfl
          · rw [ih hd' (c :: s), walk_fail (hp c hc), Option.or_none]
        · rw [if_neg hc, ih hd']
          exact (walk_of_next (by simp [next, hc]) s).symm

theorem walk_append (is : List Item) (u v : List Char) : walk is (u ++ v) =
    match feed is u with
    | .fail => none
    | .stop r => some (r ++ v)
    | .go js => walk js v := by
  induction u generalizing is with
  | nil => rfl
  | cons c u ih =>
    simp only [List.cons_append, walk, feed]
    cases next is c with
    | fail => rfl
    | stop => rfl
    | go js => exact ih js

theorem next_suffix {is js : List Item} {c : Char} (h : next is c = .go js) : js <:+ is := by
  induction is with
  | nil => cases h
  | cons i is ih =>
    cases i with
    | one p =>
      simp only [next] at h
      split at h
      · cases h
        exact List.suffix_cons _ _
      · cases h
    | opt p =>
      simp only [next] at h
      split at h
      · cases h
        exact List.suffix_cons _ _
      · exact (ih h).trans (List.suffix_cons _ _)
    | many p =>
      simp only [next] at h
      split at h
      · cases h
        exact List.suffix_refl _
      · exact (ih h).trans (List.suffix_cons _ _)

theorem feed_append_char {is js : List Item} {u : List Char} {c : Char}
    (h : feed is (u ++ [c]) = .go js) : ∃ ks, feed is u = .go ks ∧ next ks c = .go js := by
  induction u generalizing is with
  | nil =>
    refine ⟨is, rfl, ?_⟩
    simp only [List.nil_append, feed] at h
    cases hn : next is c with
    | fail => simp [hn] at h
    | stop => simp [hn] at h
    | go ks =>
      simp only [hn] at h
      cases h
      rfl
  | cons a u ih =>
    simp only [List.cons_append, feed] at h ⊢
    cases hn : next is a with
    | fail => simp [hn] at h
    | stop => simp [hn] at h
    | go ks =>
      simp only [hn] at h
      exact ih h

/-- What the reader waits for is the end of the pattern, from some item on. -/
theorem feed_suffix {is js : List Item} {u : List Char} (h : feed is u = .go js) : js <:+ is := by
  induction u generalizing is with
  | nil =>
    cases h
    exact List.suffix_refl _
  | cons c u ih =>
    simp only [feed] at h
    cases hn : next is c with
    | fail => simp [hn] at h
    | stop => simp [hn] at h
    | go ks =>
      simp only [hn] at h
      exact (ih h).trans (next_suffix hn)

theorem feed_stop {is : List Item} {u r : List Char} (h : feed is u = .stop r) :
    r <:+ u ∧ r ≠ [] := by
  induction u generalizing is with
  | nil => cases h
  | cons c u ih =>
    simp only [feed] at h
    cases hn : next is c with
    | fail => simp [hn] at h
    | stop =>
      simp only [hn, Reader.stop.injEq] at h
      subst h
      exact ⟨List.suffix_refl _, by simp⟩
    | go ks =>
      simp only [hn] at h
      obtain ⟨hr, hne⟩ := ih h
      exact ⟨hr.trans (List.suffix_cons c u), hne⟩

theorem walk_nil (is : List Item) : walk is [] = none ∨ walk is [] = some [] := by
  unfold walk
  split <;> simp

/-- The reader makes of the text what it would make of the end: nothing of it is read. -/
def Apart (is : List Item) (v : List Char) : Prop := walk is v = (walk is []).map (· ++ v)

namespace Pattern

variable {P : Pattern} {repl : List Char}

def feed (P : Pattern) : List Char → Reader
  | [] => .fail
  | c :: s => if P.first c then Patterns.feed P.items s else .fail

theorem match?_feed (hd : Determ P.items) {t : List Char} (ht : t ≠ []) (v : List Char) :
    P.match? (t ++ v) =
      match P.feed t with
      | .fail => none
      | .stop r => some (r ++ v)
      | .go js => walk js v := by
  cases t with
  | nil => exact absurd rfl ht
  | cons c t =>
    simp only [List.cons_append, match?, feed]
    split
    · rw [rest?_eq_walk hd, walk_append]
    · rfl

theorem feed_stop {c : Char} {s r : List Char} (h : P.feed (c :: s) = .stop r) :
    r <:+ s ∧ r ≠ [] := by
  by_cases hc : P.first c = true
  · simp only [feed, hc, if_true] at h
    exact Patterns.feed_stop h
  · simp [feed, hc] at h

/-- The text after `L` is a hole. Where the scan reaches it inside a match, `w` ends that match like
the stand-in `q₀` does, and the scan of `L` with the stand-in ends there. -/
theorem sub_hole (hd : Determ P.items) {L q₀ w post : List Char} (hq : q₀ ≠ [])
    (hq₀ : ¬P.Closes q₀)
    (hgo : ∀ t js, t ≠ [] → t <:+ L → P.Closes (t ++ q₀) → P.feed t = .go js →
      (walk js q₀ = some [] ∧ walk js w = some post) ∨ (Apart js q₀ ∧ Apart js w))
    (hc : P.Closes (L ++ q₀)) :
    P.sub repl (L ++ w) = P.sub repl (L ++ q₀) ++ P.sub repl post := by
  induction hn : L.length using Nat.strong_induction_on generalizing L with
  | _ n ih =>
    cases L with
    | nil => exact absurd hc hq₀
    | cons c s =>
      have hmatch := match?_feed hd (List.cons_ne_nil c s)
      have hlater : ∀ r, r <:+ s → P.Closes (r ++ q₀) →
          P.sub repl (r ++ w) = P.sub repl (r ++ q₀) ++ P.sub repl post := by
        intro r hr hcr
        have hlen := hr.length_le
        refine ih r.length (by simp at hn; omega) (fun t js ht hsuf => ?_) hcr rfl
        exact hgo t js ht (hsuf.trans (hr.trans (List.suffix_cons c s)))
      have hplain : P.match? (c :: s ++ q₀) = none → P.match? (c :: s ++ w) = none →
          P.sub repl (c :: s ++ w) = P.sub repl (c :: s ++ q₀) ++ P.sub repl post := by
        intro h₀ h₁
        have hs := hlater s (List.suffix_refl s) ((closes_plain h₀).1 hc)
        rw [List.cons_append] at h₀ h₁ ⊢
        rw [sub_plain h₁, hs, List.cons_append, sub_plain h₀, List.cons_append]
      cases hf : P.feed (c :: s) with
      | fail =>
        simp only [hf] at hmatch
        exact hplain (hmatch q₀) (hmatch w)
      | stop r =>
        simp only [hf] at hmatch
        obtain ⟨hr, hne⟩ := feed_stop hf
        have hcr := ((closes_found (hmatch q₀)).1 hc).resolve_left (by simp [hne])
        rw [sub_found (hmatch w), sub_found (hmatch q₀), hlater r hr hcr, List.append_assoc]
      | go js =>
        simp only [hf] at hmatch
        rcases hgo _ js (List.cons_ne_nil c s) (List.suffix_refl _) hc hf with ⟨h₀, h₁⟩ | ⟨h₀, h₁⟩
        · rw [sub_found ((hmatch w).trans h₁), sub_found ((hmatch q₀).trans h₀), sub_nil,
            List.append_nil]
        · have m₀ := (hmatch q₀).trans h₀
          have m₁ := (hmatch w).trans h₁
          rcases walk_nil js with hnil | hnil
          · rw [hnil] at m₀ m₁
            exact hplain m₀ m₁
          · rw [hnil] at m₀
            rcases (closes_found m₀).1 hc with h | h
            · exact absurd h hq
            · exact absurd h hq₀

/-- Where the scan reaches the end of `L` inside a match, the match ends there, or the stand-in
would close it; but the scan of `L` with the stand-in ends in no match. -/
theorem sub_append (hd : Determ P.items) {L q₀ v : List Char}
    (hgo : ∀ t js, t ≠ [] → t <:+ L → P.feed t = .go js →
      walk js q₀ = some [] ∨ (Apart js q₀ ∧ Apart js v))
    (hc : ¬P.Closes (L ++ q₀)) : P.sub repl (L ++ v) = P.sub repl L ++ P.sub repl v := by
  induction hn : L.length using Nat.strong_induction_on generalizing L with
  | _ n ih =>
    cases L with
    | nil => rfl
    | cons c s =>
      have hmatch := match?_feed hd (List.cons_ne_nil c s)
      have hself := hmatch []
      rw [List.append_nil] at hself
      have hlater : ∀ r, r <:+ s → ¬P.Closes (r ++ q₀) →
          P.sub repl (r ++ v) = P.sub repl r ++ P.sub repl v := by
        intro r hr hcr
        have hlen := hr.length_le
        refine ih r.length (by simp at hn; omega) (fun t js ht hsuf => ?_) hcr rfl
        exact hgo t js ht (hsuf.trans (hr.trans (List.suffix_cons c s)))
      have hplain : P.match? (c :: s ++ q₀) = none → P.match? (c :: s) = none →
          P.match? (c :: s ++ v) = none →
          P.sub repl (c :: s ++ v) = P.sub repl (c :: s) ++ P.sub repl v := by
        intro h₀ h₁ h₂
        have hs := hlater s (List.suffix_refl s) fun h => hc ((closes_plain h₀).2 h)
        rw [List.cons_append] at h₂ ⊢
        rw [sub_plain h₂, sub_plain h₁, hs, List.cons_append]
      cases hf : P.feed (c :: s) with
      | fail =>
        simp only [hf] at hmatch hself
        exact hplain (hmatch q₀) hself (hmatch v)
      | stop r =>
        simp only [hf, List.append_nil] at hmatch hself
        obtain ⟨hr, -⟩ := feed_stop hf
        have hcr : ¬P.Closes (r ++ q₀) := fun h => hc ((closes_found (hmatch q₀)).2 (.inr h))
        rw [sub_found (hmatch v), sub_found hself, hlater r hr hcr, List.append_assoc]
      | go js =>
        simp only [hf] at hmatch hself
        rcases hgo _ js (List.cons_ne_nil c s) (List.suffix_refl _) hf with h | ⟨h₀, h₁⟩
        · exact absurd ((closes_found ((hmatch q₀).trans h)).2 (.inl rfl)) hc
        · have m₀ := (hmatch q₀).trans h₀
          have m₁ := (hmatch v).trans h₁
          rcases walk_nil js with hnil | hnil
          · rw [hnil] at m₀ m₁ hself
            exact hplain m₀ hself m₁
          · rw [hnil] at m₁ hself
            rw [sub_found m₁, sub_found hself, sub_nil, List.append_nil]
            rfl

end Pattern

end Patterns
