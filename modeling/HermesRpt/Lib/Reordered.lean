import Mathlib.Data.List.Perm.Basic

/-!
# HermesRpt.Lib.Reordered

Lists that are the same but for the order of their elements, and perhaps for the order of something
within an element.

* `Reordered`          : a permutation, and a relation of the elements one by one.
* `Reordered.map_perm` : what does not see the relation sees the same elements.
* `Reordered.last`     : any element may be moved to the end.
-/

namespace Reordering

variable {α β : Type*} {R : α → α → Prop} {l l' : List α}

/-- The second list has the elements of the first in some order, each of them changed as `R`
allows. -/
def Reordered (R : α → α → Prop) (l l' : List α) : Prop := ∃ m, l.Perm m ∧ List.Forall₂ R m l'

theorem map_eq_of_forall₂ {f : α → β} (hf : ∀ a b, R a b → f a = f b)
    (h : List.Forall₂ R l l') : l.map f = l'.map f := by
  induction h with
  | nil => rfl
  | cons hab _ ih => rw [List.map_cons, List.map_cons, hf _ _ hab, ih]

/-- Of elements with different keys, one may be moved to the front. -/
theorem perm_cons_filter_ne {κ : Type*} [DecidableEq κ] {key : α → κ} {a : α}
    (hl : (l.map key).Nodup) (ha : a ∈ l) : l.Perm (a :: l.filter (key · ≠ key a)) := by
  obtain ⟨A, B, rfl⟩ := List.append_of_mem ha
  have hkeys : ((a :: (A ++ B)).map key).Nodup := (List.perm_middle.map key).nodup_iff.1 hl
  rw [List.map_cons, List.nodup_cons] at hkeys
  have hne : ∀ b ∈ A ++ B, key b ≠ key a := by
    intro b hb he
    exact hkeys.1 (he ▸ List.mem_map_of_mem hb)
  have hrest : (A ++ a :: B).filter (key · ≠ key a) = A ++ B := by
    rw [List.filter_append, List.filter_cons_of_neg (by simp), ← List.filter_append]
    exact List.filter_eq_self.2 fun b hb => by simpa using hne b hb
  rw [hrest]
  exact List.perm_middle

namespace Reordered

theorem map_perm {f : α → β} (hf : ∀ a b, R a b → f a = f b) (h : Reordered R l l') :
    (l.map f).Perm (l'.map f) := by
  obtain ⟨m, hperm, hrel⟩ := h
  rw [← map_eq_of_forall₂ hf hrel]
  exact hperm.map f

theorem of_perm (hR : ∀ a, R a a) (h : l.Perm l') : Reordered R l l' :=
  ⟨l', h, List.forall₂_same.2 fun a _ => hR a⟩

theorem refl (hR : ∀ a, R a a) (l : List α) : Reordered R l l := of_perm hR (.refl l)

theorem exists_of_mem {b : α} (h : Reordered R l l') (hb : b ∈ l') : ∃ a ∈ l, R a b := by
  obtain ⟨m, hperm, hrel⟩ := h
  have hm : ∃ a ∈ m, R a b := by
    clear hperm
    induction hrel with
    | nil => cases hb
    | cons hab _ ih =>
      rcases List.mem_cons.1 hb with rfl | hb
      · exact ⟨_, List.mem_cons_self, hab⟩
      · obtain ⟨a, ha, hR⟩ := ih hb
        exact ⟨a, List.mem_cons_of_mem _ ha, hR⟩
  obtain ⟨a, ha, hR⟩ := hm
  exact ⟨a, hperm.mem_iff.2 ha, hR⟩

/-- An element may be moved to the end, and changed there. -/
theorem last [DecidableEq α] (hR : ∀ a, R a a) {a b : α} (ha : a ∈ l) (hab : R a b) :
    Reordered R l (l.erase a ++ [b]) := by
  refine ⟨l.erase a ++ [a], (List.perm_cons_erase ha).trans ?_, ?_⟩
  · exact (List.perm_append_singleton a (l.erase a)).symm
  · exact List.rel_append (List.forall₂_same.2 fun c _ => hR c) (.cons hab .nil)

/-- So may two of them. -/
theorem last_two [DecidableEq α] (hR : ∀ a, R a a) {a b a' b' : α} (ha : a ∈ l) (ha' : a' ∈ l)
    (hne : a ≠ a') (hab : R a b) (hab' : R a' b') :
    Reordered R l ((l.erase a).erase a' ++ [b, b']) := by
  have hmem : a' ∈ l.erase a := (List.mem_erase_of_ne hne.symm).2 ha'
  have hperm : l.Perm ((l.erase a).erase a' ++ [a, a']) := by
    refine (List.perm_cons_erase ha).trans ?_
    refine (List.Perm.cons a (List.perm_cons_erase hmem)).trans ?_
    show ([a, a'] ++ (l.erase a).erase a').Perm ((l.erase a).erase a' ++ [a, a'])
    exact List.perm_append_comm
  refine ⟨_, hperm, ?_⟩
  exact List.rel_append (List.forall₂_same.2 fun c _ => hR c) (.cons hab (.cons hab' .nil))

end Reordered

end Reordering
