import Mathlib.Data.Set.Basic
import Mathlib.Tactic.Common

/-!
# HermesRpt.Lib.Custody

Names that refer to keys of a store, when the store is written on its own: the references change
together, but what is done to the store stays done.

* `Held`     : every key that is referred to is stored, and belongs to one name only.
* `Exact`    : and every key that is stored is referred to.
* `Assigned` : one name is given another key, or none. A new key is stored, and only the key that
  the name had may be removed.
-/

namespace Custody

variable {C K : Type*}

structure Held (refs : C → Option K) (stored : Set K) : Prop where
  stored : ∀ {c k}, refs c = some k → k ∈ stored
  own : ∀ {c c' k}, refs c = some k → refs c' = some k → c = c'

def Exact (refs : C → Option K) (stored : Set K) : Prop := ∀ k ∈ stored, ∃ c, refs c = some k

structure Assigned (c : C) (new : Option K) (refs refs' : C → Option K) (stored stored' : Set K) :
    Prop where
  fresh : ∀ k, new = some k → k ∉ stored
  self : refs' c = new
  other : ∀ c', c' ≠ c → refs' c' = refs c'
  added : ∀ k, new = some k → k ∈ stored'
  kept : ∀ k ∈ stored, refs c ≠ some k → k ∈ stored'

variable {refs refs' : C → Option K} {stored stored' : Set K} {c : C} {new : Option K}

theorem Held.of_none (h : ∀ c, refs c = none) : Held refs stored where
  stored hc := by simp [h] at hc
  own hc := by simp [h] at hc

/-- What is not removed stays held. -/
theorem Held.kept (h : Held refs stored) (hkept : ∀ k ∈ stored, k ∈ stored') :
    Held refs stored' where
  stored hc := hkept _ (h.stored hc)
  own := h.own

/-- A key that another name has is not the new one, which was not stored, nor the one that is
removed, which was the name's own. -/
theorem Held.assigned (h : Held refs stored) (ha : Assigned c new refs refs' stored stored') :
    Held refs' stored' where
  stored {c'} k hc' := by
    by_cases hc : c' = c
    · rw [hc, ha.self] at hc'
      exact ha.added k hc'
    · rw [ha.other c' hc] at hc'
      exact ha.kept k (h.stored hc') fun hk => hc (h.own hc' hk)
  own {c₁ c₂} k h₁ h₂ := by
    have hnew : ∀ c', c' ≠ c → refs' c' = some k → new ≠ some k := by
      intro c' hc hc' hk
      rw [ha.other c' hc] at hc'
      exact ha.fresh k hk (h.stored hc')
    by_cases hc₁ : c₁ = c <;> by_cases hc₂ : c₂ = c
    · rw [hc₁, hc₂]
    · rw [hc₁, ha.self] at h₁
      exact absurd h₁ (hnew c₂ hc₂ h₂)
    · rw [hc₂, ha.self] at h₂
      exact absurd h₂ (hnew c₁ hc₁ h₁)
    · rw [ha.other c₁ hc₁] at h₁
      rw [ha.other c₂ hc₂] at h₂
      exact h.own h₁ h₂

/-- When the key that the name had is removed, nothing is left without a name. -/
theorem Exact.assigned (h : Exact refs stored) (ha : Assigned c new refs refs' stored stored')
    (hdropped : ∀ k ∈ stored', k ∈ stored ∧ refs c ≠ some k ∨ new = some k) :
    Exact refs' stored' := by
  intro k hk
  rcases hdropped k hk with ⟨hstored, hne⟩ | hnew
  · obtain ⟨c', hc'⟩ := h k hstored
    have hc : c' ≠ c := by
      rintro rfl
      exact hne hc'
    exact ⟨c', (ha.other c' hc).trans hc'⟩
  · exact ⟨c, ha.self.trans hnew⟩

end Custody
