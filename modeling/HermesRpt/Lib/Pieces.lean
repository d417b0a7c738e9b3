import Mathlib.Logic.Relation
import Mathlib.Tactic.Common

/-!
# HermesRpt.Lib.Pieces

Words written one after the other with nothing between them. The text does not tell where a word
ends.

* `Shift`     : a part of a word goes over to the next word, or an empty word goes away.
* `Recut`     : what shifts in either direction make of a list of words.
* `recut_iff` : these are the lists that are written alike.
-/

namespace Pieces

variable {α : Type*}

inductive Shift : List (List α) → List (List α) → Prop where
  | move (before after : List (List α)) (a b c : List α) :
      Shift (before ++ (a ++ b) :: c :: after) (before ++ a :: (b ++ c) :: after)
  | drop (before after : List (List α)) : Shift (before ++ [] :: after) (before ++ after)

def Recut (l l' : List (List α)) : Prop := Relation.EqvGen Shift l l'

theorem Shift.flatten_eq {l l' : List (List α)} (h : Shift l l') : l.flatten = l'.flatten := by
  cases h with
  | move before after a b c => simp
  | drop before after => simp

theorem Recut.flatten_eq {l l' : List (List α)} (h : Recut l l') : l.flatten = l'.flatten := by
  induction h with
  | rel _ _ h => exact h.flatten_eq
  | refl _ => rfl
  | symm _ _ _ ih => exact ih.symm
  | trans _ _ _ _ _ ih ih' => exact ih.trans ih'

theorem Shift.cons {l l' : List (List α)} (w : List α) (h : Shift l l') :
    Shift (w :: l) (w :: l') := by
  cases h with
  | move before after a b c => exact .move (w :: before) after a b c
  | drop before after => exact .drop (w :: before) after

theorem Recut.cons {l l' : List (List α)} (w : List α) (h : Recut l l') :
    Recut (w :: l) (w :: l') := by
  induction h with
  | rel _ _ h => exact .rel _ _ (h.cons w)
  | refl _ => exact .refl _
  | symm _ _ _ ih => exact ih.symm
  | trans _ _ _ _ _ ih ih' => exact ih.trans _ _ _ ih'

/-- Every list of words can be shifted together into one word. -/
theorem recut_one (l : List (List α)) : Recut l [l.flatten] := by
  induction l with
  | nil => exact (Relation.EqvGen.rel _ _ (.drop [] [])).symm
  | cons w l ih =>
    have htwo : Recut (w :: l) [w, l.flatten] := ih.cons w
    have hmove : Shift [w, l.flatten] [[], w ++ l.flatten] := by
      have h := Shift.move [] [] [] w l.flatten
      simpa using h
    have hdrop : Shift [[], w ++ l.flatten] [w ++ l.flatten] := .drop [] [w ++ l.flatten]
    have hone : Recut [w, l.flatten] [w ++ l.flatten] :=
      (Relation.EqvGen.rel _ _ hmove).trans _ _ _ (.rel _ _ hdrop)
    rw [List.flatten_cons]
    exact htwo.trans _ _ _ hone

theorem recut_iff {l l' : List (List α)} : Recut l l' ↔ l.flatten = l'.flatten := by
  constructor
  · intro h
    exact h.flatten_eq
  · intro h
    have hl := recut_one l
    rw [h] at hl
    exact hl.trans _ _ _ (recut_one l').symm

end Pieces
