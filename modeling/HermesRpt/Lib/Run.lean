import Mathlib.Logic.Basic
import Mathlib.Data.List.Basic
import Mathlib.Data.List.Induction
import Mathlib.Tactic.Common

/-!
# HermesRpt.Lib.Run

Runs of a machine given by a step function: a state, a list of actions, and the state after
them. A machine that refuses an action leaves its state as it is, so every list of actions is a
run.

* `run`      : the state after a list of actions.
* `Saw`      : events happened in this order during the run. An event is a predicate on an
  action and the state it was performed in.
* `Since`    : an event happened during the run, and another kind of event did not happen after it.
* `Meets`    : every action of the run met a condition on the state it was performed in.
* `outputs`  : what the actions put out, each in the state it was performed in.

The rules are the inductions on the list: `run_invariant` (an invariant every step keeps),
`run_invariant_of_meets` (one every step keeps under the run's condition), and `run_history`
(one that also speaks about the actions so far).
-/

namespace Machine

variable {S A : Type*}

/-- The state after performing `as`, one after the other, from `s`. -/
def run (step : S → A → S) (s : S) (as : List A) : S := as.foldl step s

@[simp] theorem run_nil (step : S → A → S) (s : S) : run step s [] = s := rfl

@[simp] theorem run_cons (step : S → A → S) (s : S) (a : A) (as : List A) :
    run step s (a :: as) = run step (step s a) as := rfl

@[simp] theorem run_append (step : S → A → S) (s : S) (as bs : List A) :
    run step s (as ++ bs) = run step (run step s as) bs := List.foldl_append

/-- The run performs `as` in states that all meet `Ok`. -/
def Meets (step : S → A → S) (Ok : S → A → Prop) : S → List A → Prop
  | _, [] => True
  | s, a :: as => Ok s a ∧ Meets step Ok (step s a) as

/-- The events `Ps` happened in this order, at different actions of the run `as` from `s`. -/
def Saw (step : S → A → S) : S → List A → List (S → A → Prop) → Prop
  | _, _, [] => True
  | _, [], _ :: _ => False
  | s, a :: as, P :: Ps => (P s a ∧ Saw step (step s a) as Ps) ∨ Saw step (step s a) as (P :: Ps)

/-- `P` happened, and `Q` did not happen after it. -/
def Since (step : S → A → S) (P Q : S → A → Prop) (s : S) (as : List A) : Prop :=
  ∃ pre a post, as = pre ++ a :: post ∧ P (run step s pre) a ∧
    Meets step (fun s b => ¬Q s b) (run step s (pre ++ [a])) post

/-- What the actions of the run put out, in order. -/
def outputs {B : Type*} (step : S → A → S) (out : S → A → List B) : S → List A → List B
  | _, [] => []
  | s, a :: as => out s a ++ outputs step out (step s a) as

section Rules

variable {step : S → A → S}

theorem run_invariant {I : S → Prop} (hstep : ∀ s a, I s → I (step s a)) {s : S} (h : I s)
    (as : List A) : I (run step s as) := by
  induction as generalizing s with
  | nil => exact h
  | cons a as ih => exact ih (hstep s a h)

theorem run_invariant_of_meets {I : S → Prop} {Ok : S → A → Prop}
    (hstep : ∀ s a, I s → Ok s a → I (step s a)) {s : S} (h : I s) {as : List A}
    (hm : Meets step Ok s as) : I (run step s as) := by
  induction as generalizing s with
  | nil => exact h
  | cons a as ih => exact ih (hstep s a h hm.1) hm.2

/-- An invariant that mentions the actions so far, by induction from the end of the run. -/
theorem run_history {s : S} (I : List A → S → Prop) (h : I [] s)
    (hstep : ∀ as a, I as (run step s as) → I (as ++ [a]) (step (run step s as) a))
    (as : List A) : I as (run step s as) := by
  induction as using List.reverseRecOn with
  | nil => exact h
  | append_singleton as a ih => simpa using hstep as a ih

theorem outputs_snoc {B : Type*} {out : S → A → List B} (s : S) (as : List A) (a : A) :
    outputs step out s (as ++ [a]) = outputs step out s as ++ out (run step s as) a := by
  induction as generalizing s with
  | nil => simp [outputs]
  | cons b as ih => simp [outputs, ih]

theorem meets_append {Ok : S → A → Prop} {s : S} {as bs : List A} :
    Meets step Ok s (as ++ bs) ↔ Meets step Ok s as ∧ Meets step Ok (run step s as) bs := by
  induction as generalizing s with
  | nil => simp [Meets]
  | cons a as ih => simp only [List.cons_append, Meets, ih, run_cons, and_assoc]

/-- A condition on every action of a run, with the state it was performed in. -/
theorem meets_iff {Ok : S → A → Prop} {s : S} {as : List A} :
    Meets step Ok s as ↔ ∀ pre a post, as = pre ++ a :: post → Ok (run step s pre) a := by
  induction as generalizing s with
  | nil => simp [Meets]
  | cons b as ih =>
    constructor
    · rintro ⟨hb, has⟩ pre a post heq
      cases pre with
      | nil =>
        cases heq
        exact hb
      | cons c pre =>
        cases heq
        exact ih.1 has pre a post rfl
    · intro h
      exact ⟨h [] b as rfl, ih.2 fun pre a post heq => h (b :: pre) a post (by rw [heq]; rfl)⟩

theorem Since.snoc {P Q : S → A → Prop} {s : S} {as : List A} {a : A}
    (h : Since step P Q s as) (hq : ¬Q (run step s as) a) : Since step P Q s (as ++ [a]) := by
  obtain ⟨pre, b, post, rfl, hp, hpost⟩ := h
  refine ⟨pre, b, post ++ [a], by simp, hp, meets_append.2 ⟨hpost, ?_, trivial⟩⟩
  simpa using hq

theorem since_last {P Q : S → A → Prop} {s : S} {as : List A} {a : A} (h : P (run step s as) a) :
    Since step P Q s (as ++ [a]) :=
  ⟨as, a, [], rfl, h, trivial⟩

theorem since_snoc {P Q : S → A → Prop} {s : S} {as : List A} {a : A} :
    Since step P Q s (as ++ [a]) ↔
      P (run step s as) a ∨ Since step P Q s as ∧ ¬Q (run step s as) a := by
  constructor
  · rintro ⟨pre, b, post, heq, hp, hpost⟩
    rcases List.eq_nil_or_concat post with rfl | ⟨post, c, rfl⟩
    · obtain ⟨rfl, hab⟩ := List.append_inj' heq rfl
      cases hab
      exact .inl hp
    · rw [List.concat_eq_append] at heq hpost
      rw [← List.cons_append, ← List.append_assoc] at heq
      obtain ⟨rfl, hac⟩ := List.append_inj' heq rfl
      cases hac
      obtain ⟨hpost, hlast, -⟩ := meets_append.1 hpost
      refine .inr ⟨⟨pre, b, post, rfl, hp, hpost⟩, ?_⟩
      simpa using hlast
  · rintro (hp | ⟨h, hq⟩)
    · exact since_last hp
    · exact h.snoc hq

theorem meets_of_forall {Ok : S → A → Prop} {as : List A} (h : ∀ a ∈ as, ∀ s, Ok s a) (s : S) :
    Meets step Ok s as := by
  induction as generalizing s with
  | nil => trivial
  | cons a as ih => exact ⟨h a (by simp) s, ih (fun b hb => h b (by simp [hb])) _⟩

theorem saw_nil (s : S) (as : List A) : Saw step s as [] := by cases as <;> trivial

theorem Saw.append {s : S} {as : List A} {Ps : List (S → A → Prop)} (h : Saw step s as Ps)
    (bs : List A) : Saw step s (as ++ bs) Ps := by
  induction as generalizing s Ps with
  | nil => cases Ps with
    | nil => exact saw_nil s _
    | cons P Ps => exact h.elim
  | cons a as ih =>
    cases Ps with
    | nil => trivial
    | cons P Ps => exact h.imp (fun ⟨hp, h'⟩ => ⟨hp, ih h'⟩) ih

/-- The next action adds its event at the end of what was seen. -/
theorem Saw.snoc {s : S} {as : List A} {Ps : List (S → A → Prop)} {P : S → A → Prop} {a : A}
    (h : Saw step s as Ps) (hp : P (run step s as) a) : Saw step s (as ++ [a]) (Ps ++ [P]) := by
  induction as generalizing s Ps with
  | nil => cases Ps with
    | nil => exact .inl ⟨hp, trivial⟩
    | cons P Ps => exact h.elim
  | cons b as ih =>
    cases Ps with
    | nil => exact .inr (ih (saw_nil _ as) hp)
    | cons Q Ps => exact h.imp (fun ⟨hq, h'⟩ => ⟨hq, ih h' hp⟩) (fun h' => ih h' hp)

theorem Saw.init {s : S} {as : List A} {Ps Qs : List (S → A → Prop)}
    (h : Saw step s as (Ps ++ Qs)) : Saw step s as Ps := by
  induction as generalizing s Ps with
  | nil => cases Ps with
    | nil => trivial
    | cons P Ps => exact h.elim
  | cons a as ih =>
    cases Ps with
    | nil => trivial
    | cons P Ps => exact h.imp (fun ⟨hp, h'⟩ => ⟨hp, ih h'⟩) ih

theorem Saw.later {s : S} {a : A} {as : List A} {Ps : List (S → A → Prop)}
    (h : Saw step (step s a) as Ps) : Saw step s (a :: as) Ps := by
  cases Ps with
  | nil => trivial
  | cons P Ps => exact .inr h

theorem Saw.tail {s : S} {as : List A} {P : S → A → Prop} {Ps : List (S → A → Prop)}
    (h : Saw step s as (P :: Ps)) : Saw step s as Ps := by
  induction as generalizing s with
  | nil => exact h.elim
  | cons a as ih =>
    rcases h with ⟨-, h'⟩ | h'
    · exact h'.later
    · exact (ih h').later

/-- What was seen first happened at some action, and the rest after it. -/
theorem Saw.split {s : S} {as : List A} {P : S → A → Prop} {Ps : List (S → A → Prop)}
    (h : Saw step s as (P :: Ps)) :
    ∃ pre a post, as = pre ++ a :: post ∧ P (run step s pre) a ∧
      Saw step (run step s (pre ++ [a])) post Ps := by
  induction as generalizing s with
  | nil => exact h.elim
  | cons a as ih =>
    rcases h with ⟨hp, h'⟩ | h'
    · exact ⟨[], a, as, rfl, hp, h'⟩
    · obtain ⟨pre, b, post, rfl, hb, hrest⟩ := ih h'
      exact ⟨a :: pre, b, post, rfl, hb, hrest⟩

/-- The last of the events that were seen. -/
theorem saw_last {s : S} {as : List A} (Ps : List (S → A → Prop)) {P : S → A → Prop}
    (h : Saw step s as (Ps ++ [P])) : ∃ pre a post, as = pre ++ a :: post ∧ P (run step s pre) a := by
  induction Ps generalizing s as with
  | nil =>
    obtain ⟨pre, a, post, heq, hp, -⟩ := Saw.split h
    exact ⟨pre, a, post, heq, hp⟩
  | cons Q Ps ih => exact ih h.tail

end Rules

end Machine
