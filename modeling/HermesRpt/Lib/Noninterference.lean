import HermesRpt.Lib.Invariant
import HermesRpt.Lib.Run

/-!
# HermesRpt.Lib.Noninterference

What one party can tell of the others, by comparing two runs.

* `Agree J T x` : from states that `J` relates, the transaction `x` does the same: it raises the
  same error, or it returns the same result, which satisfies `T`, in states that `J` relates again.
* `Separated`   : the two obligations a machine meets for one party, an action of its own and an
  action of another.
* `run_purge`   : a run and the run of the party's actions alone end in related states.
* `outputs_purge` : the actions of the party put out the same in both.

The rules of `Agree` follow the text of a transaction, so a method is compared with itself step by
step.
-/

namespace Transaction

variable {σ ε α β : Type} {J : σ → σ → Prop}

def Agree (J : σ → σ → Prop) (T : α → Prop) (x : Tx σ ε α) : Prop :=
  ∀ s t, J s t → (∃ a s' t', x s = .ok (a, s') ∧ x t = .ok (a, t') ∧ J s' t' ∧ T a) ∨
    ∃ e, x s = .error e ∧ x t = .error e

namespace Agree

variable {T : α → Prop} {U : β → Prop} {x : Tx σ ε α}

theorem pure {a : α} (h : T a) : Agree J T (pure a : Tx σ ε α) :=
  fun s t hst => .inl ⟨a, s, t, rfl, rfl, hst, h⟩

theorem returned (a : α) : Agree J (fun _ => True) (Pure.pure a : Tx σ ε α) := pure trivial

theorem read {f : σ → Except ε α} (hf : ∀ s t, J s t → f s = f t)
    (h : ∀ s t a, J s t → f s = .ok a → T a) : Agree J T (read f : Tx σ ε α) := by
  intro s t hst
  have heq := hf s t hst
  unfold Transaction.read
  cases hs : f s with
  | error e =>
    rw [hs] at heq
    exact .inr ⟨e, rfl, by rw [← heq]⟩
  | ok a =>
    rw [hs] at heq
    exact .inl ⟨a, s, t, rfl, by rw [← heq], hst, h s t a hst hs⟩

theorem read_of_maintains {K : σ → σ → Prop} {I : σ → Prop} {f : σ → Except ε α}
    (hx : Maintains I T (Transaction.read f : Tx σ ε α)) (hf : ∀ s t, K s t → f s = f t) :
    Agree (fun s t => K s t ∧ I s) T (Transaction.read f : Tx σ ε α) :=
  read (fun s t h => hf s t h.1) fun s _ a h hs => (hx s a s h.2 (read_ok.2 ⟨hs, rfl⟩)).2

/-- A read of which nothing is needed. -/
theorem looked {f : σ → Except ε α} (hf : ∀ s t, J s t → f s = f t) :
    Agree J (fun _ => True) (Transaction.read f : Tx σ ε α) := read hf fun _ _ _ _ _ => trivial

theorem raiseIf (c : Prop) [Decidable c] (e : ε) :
    Agree J (fun _ => True) (raiseIf c e : Tx σ ε Unit) := by
  intro s t hst
  by_cases hc : c
  · exact .inr ⟨e, if_pos hc, if_pos hc⟩
  · exact .inl ⟨(), s, t, if_neg hc, if_neg hc, hst, trivial⟩

/-- A write is refused in both states for the same reason, or succeeds in both. -/
theorem write {f : σ → Except ε σ}
    (h : ∀ s t, J s t → (∃ s' t', f s = .ok s' ∧ f t = .ok t' ∧ J s' t') ∨
      ∃ e, f s = .error e ∧ f t = .error e) :
    Agree J (fun _ => True) (write f : Tx σ ε Unit) := by
  intro s t hst
  unfold Transaction.write
  rcases h s t hst with ⟨s', t', hs, ht, hst'⟩ | ⟨e, hs, ht⟩
  · exact .inl ⟨(), s', t', by rw [hs], by rw [ht], hst', trivial⟩
  · exact .inr ⟨e, by rw [hs], by rw [ht]⟩

theorem bind {f : α → Tx σ ε β} (hx : Agree J T x) (hf : ∀ a, T a → Agree J U (f a)) :
    Agree J U (x >>= f) := by
  intro s t hst
  rcases hx s t hst with ⟨a, s', t', hs, ht, hst', ha⟩ | ⟨e, hs, ht⟩
  · have hbind (s₀ s₁ : σ) (h : x s₀ = .ok (a, s₁)) : (x >>= f) s₀ = f a s₁ := by
      simp only [Bind.bind, StateT.bind, Except.bind, h]
    rw [hbind s s' hs, hbind t t' ht]
    exact hf a ha s' t' hst'
  · have hbind (s₀ : σ) (h : x s₀ = .error e) : (x >>= f) s₀ = .error e := by
      simp only [Bind.bind, StateT.bind, Except.bind, h]
    exact .inr ⟨e, hbind s hs, hbind t ht⟩

/-- A step of whose result nothing is known. -/
theorem andThen {f : α → Tx σ ε β} (hx : Agree J (fun _ => True) x)
    (hf : ∀ a, Agree J U (f a)) : Agree J U (x >>= f) := hx.bind fun a _ => hf a

theorem gather {f : β → Tx σ ε (List α)} {bs : List β}
    (hf : ∀ b ∈ bs, Agree J (fun _ => True) (f b)) : Agree J (fun _ => True) (gather f bs) := by
  induction bs with
  | nil => exact returned []
  | cons b bs ih =>
    refine (hf b List.mem_cons_self).andThen fun as => ?_
    exact (ih fun b' hb => hf b' (List.mem_cons_of_mem _ hb)).andThen fun rest => returned _

/-- An invariant of the first run, proved apart. -/
theorem write_of_maintains {K : σ → σ → Prop} {I : σ → Prop} {f : σ → Except ε σ}
    (hx : Maintains I (fun _ => True) (Transaction.write f : Tx σ ε Unit))
    (h : ∀ s t, K s t → I s → (∃ s' t', f s = .ok s' ∧ f t = .ok t' ∧ K s' t') ∨
      ∃ e, f s = .error e ∧ f t = .error e) :
    Agree (fun s t => K s t ∧ I s) (fun _ => True) (Transaction.write f : Tx σ ε Unit) := by
  refine write fun s t ⟨hK, hI⟩ => ?_
  rcases h s t hK hI with ⟨s', t', hs, ht, hK'⟩ | herror
  · exact .inl ⟨s', t', hs, ht, hK', (hx s () s' hI (write_ok.2 hs)).1⟩
  · exact .inr herror

/-- A raise drops what was written in both. -/
theorem after (hx : Agree J T x) {s t : σ} (hst : J s t) : J (after x s) (after x t) := by
  rcases hx s t hst with ⟨a, s', t', hs, ht, hst', -⟩ | ⟨e, hs, ht⟩
  · rw [after_ok hs, after_ok ht]
    exact hst'
  · rw [after_error hs, after_error ht]
    exact hst

/-- Both are told the same. -/
theorem result (hx : Agree J T x) {s t : σ} (hst : J s t) :
    (x s).map Prod.fst = (x t).map Prod.fst := by
  rcases hx s t hst with ⟨a, s', t', hs, ht, -, -⟩ | ⟨e, hs, ht⟩
  · rw [hs, ht]
    rfl
  · rw [hs, ht]

end Agree

end Transaction

namespace Machine

section Purge

variable {S A B : Type*}

/-- An action of the party's own does the same in related states, and an action of another is not
seen in the first. -/
structure Separated (step : S → A → S) (Ok : S → A → Prop) (mine : A → Bool) (out : S → A → List B)
    (R : S → S → Prop) : Prop where
  own : ∀ s t a, R s t → Ok s a → mine a = true → R (step s a) (step t a) ∧ out s a = out t a
  other : ∀ s t a, R s t → mine a = false → R (step s a) t ∧ out s a = []

variable {step : S → A → S} {Ok : S → A → Prop} {mine : A → Bool} {out : S → A → List B}
  {R : S → S → Prop}

theorem Separated.run_purge (h : Separated step Ok mine out R) {s t : S} {as : List A}
    (hst : R s t) (hok : Meets step Ok s as) :
    R (run step s as) (run step t (as.filter mine)) := by
  induction as generalizing s t with
  | nil => exact hst
  | cons a as ih =>
    cases ha : mine a with
    | true =>
      rw [List.filter_cons_of_pos ha]
      exact ih (h.own s t a hst hok.1 ha).1 hok.2
    | false =>
      rw [List.filter_cons_of_neg (by simp [ha])]
      exact ih (h.other s t a hst ha).1 hok.2

theorem Separated.outputs_purge (h : Separated step Ok mine out R) {s t : S} {as : List A}
    (hst : R s t) (hok : Meets step Ok s as) :
    outputs step out s as = outputs step out t (as.filter mine) := by
  induction as generalizing s t with
  | nil => rfl
  | cons a as ih =>
    cases ha : mine a with
    | true =>
      obtain ⟨hstep, hout⟩ := h.own s t a hst hok.1 ha
      rw [List.filter_cons_of_pos ha, outputs, outputs, hout, ih hstep hok.2]
    | false =>
      obtain ⟨hstep, hout⟩ := h.other s t a hst ha
      rw [List.filter_cons_of_neg (by simp [ha]), outputs, hout, List.nil_append, ih hstep hok.2]

end Purge

end Machine
