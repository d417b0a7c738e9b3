import HermesRpt.Lib.Transaction

/-!
# HermesRpt.Lib.Invariant

Invariants of transactions. What a transaction may do to its state is said by an invariant that
mentions the state at its start, and proved step by step along its text.

* `Maintains J T x` : a run of `x` that succeeds keeps `J`, and its result satisfies `T`.

A raise writes nothing, so `J` also holds of the state that is left then (`Maintains.after`).
-/

namespace Transaction

variable {σ ε α β : Type} {J : σ → Prop}

def Maintains (J : σ → Prop) (T : α → Prop) (x : Tx σ ε α) : Prop :=
  ∀ s a s', J s → x s = .ok (a, s') → J s' ∧ T a

namespace Maintains

variable {T : α → Prop} {U : β → Prop} {x : Tx σ ε α}

theorem pure {a : α} (h : T a) : Maintains J T (pure a : Tx σ ε α) := by
  intro s b s' hs hx
  cases pure_ok.1 hx
  exact ⟨hs, h⟩

theorem returned (a : α) : Maintains J (fun _ => True) (Pure.pure a : Tx σ ε α) := pure trivial

theorem read {f : σ → Except ε α} (h : ∀ s a, J s → f s = .ok a → T a) :
    Maintains J T (read f : Tx σ ε α) := by
  intro s a s' hs hx
  obtain ⟨ha, rfl⟩ := read_ok.1 hx
  exact ⟨hs, h s' a hs ha⟩

/-- A read of which nothing is needed. -/
theorem looked (f : σ → Except ε α) : Maintains J (fun _ => True) (Transaction.read f : Tx σ ε α) :=
  read fun _ _ _ _ => trivial

theorem raiseIf (c : Prop) [Decidable c] (e : ε) :
    Maintains J (fun _ => True) (raiseIf c e : Tx σ ε Unit) := by
  intro s a s' hs hx
  obtain ⟨-, rfl⟩ := raiseIf_ok.1 hx
  exact ⟨hs, trivial⟩

theorem write {f : σ → Except ε σ} (h : ∀ s s', J s → f s = .ok s' → J s') :
    Maintains J (fun _ => True) (write f : Tx σ ε Unit) := by
  intro s a s' hs hx
  exact ⟨h s s' hs (write_ok.1 hx), trivial⟩

theorem bind {f : α → Tx σ ε β} (hx : Maintains J T x) (hf : ∀ a, T a → Maintains J U (f a)) :
    Maintains J U (x >>= f) := by
  intro s b s' hs h
  obtain ⟨a, s₁, hxs, hfs⟩ := bind_ok.1 h
  obtain ⟨hs₁, hT⟩ := hx s a s₁ hs hxs
  exact hf a hT s₁ b s' hs₁ hfs

/-- A step of whose result nothing is known. -/
theorem andThen {f : α → Tx σ ε β} (hx : Maintains J (fun _ => True) x)
    (hf : ∀ a, Maintains J U (f a)) : Maintains J U (x >>= f) := hx.bind fun a _ => hf a

theorem gather {f : β → Tx σ ε (List α)} {bs : List β}
    (hf : ∀ b ∈ bs, Maintains J (fun _ => True) (f b)) :
    Maintains J (fun _ => True) (gather f bs) := by
  induction bs with
  | nil => exact returned []
  | cons b bs ih =>
    refine (hf b List.mem_cons_self).andThen fun as => ?_
    exact (ih fun b' hb => hf b' (List.mem_cons_of_mem _ hb)).andThen fun rest => returned _

theorem after (hx : Maintains J T x) {s : σ} (hs : J s) : J (after x s) := by
  rcases after_cases x s with ⟨a, h⟩ | ⟨-, h⟩
  · exact (hx s a _ hs h).1
  · rw [h]
    exact hs

end Maintains

end Transaction
