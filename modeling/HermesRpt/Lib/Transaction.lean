import Mathlib.Logic.Basic
import Mathlib.Tactic.Common

/-!
# HermesRpt.Lib.Transaction

Transactions over a state `σ`: a computation reads and writes the state and may raise. A raise
drops every write, so the state after a failed transaction is the state before it.

The lemmas `*_ok` are inversions: what a successful transaction did, step by step. A proof about
an operation peels it apart with them and never unfolds the monad.
-/

namespace Transaction

variable {σ ε α β : Type}

/-- A transaction raising `ε`. -/
abbrev Tx (σ ε α : Type) := StateT σ (Except ε) α

/-- Reads the state; the read may raise. -/
def read (f : σ → Except ε α) : Tx σ ε α := fun s =>
  match f s with
  | .ok a => .ok (a, s)
  | .error e => .error e

/-- Replaces the state; the write may be refused. -/
def write (f : σ → Except ε σ) : Tx σ ε Unit := fun s =>
  match f s with
  | .ok s' => .ok ((), s')
  | .error e => .error e

/-- Raises `e` when `c` holds. -/
def raiseIf (c : Prop) [Decidable c] (e : ε) : Tx σ ε Unit := fun s =>
  if c then .error e else .ok ((), s)

/-- The state a transaction leaves, committed when it succeeds and rolled back when it raises. -/
def after (x : Tx σ ε α) (s : σ) : σ :=
  match x s with
  | .ok (_, s') => s'
  | .error _ => s

theorem bind_ok {x : Tx σ ε α} {f : α → Tx σ ε β} {s : σ} {r : β × σ} :
    (x >>= f) s = .ok r ↔ ∃ a s', x s = .ok (a, s') ∧ f a s' = .ok r := by
  simp only [bind, StateT.bind, Except.bind]
  cases h : x s with
  | error e => simp
  | ok p =>
    obtain ⟨a, s'⟩ := p
    constructor
    · intro hf; exact ⟨a, s', rfl, hf⟩
    · rintro ⟨b, t, hbt, hf⟩
      cases hbt; exact hf

theorem pure_ok {a : α} {s : σ} {r : α × σ} :
    (pure a : Tx σ ε α) s = .ok r ↔ r = (a, s) := by
  show Except.ok (a, s) = .ok r ↔ _
  rw [Except.ok.injEq, eq_comm]

theorem read_ok {f : σ → Except ε α} {s : σ} {a : α} {s' : σ} :
    read f s = .ok (a, s') ↔ f s = .ok a ∧ s' = s := by
  unfold read
  split <;> rename_i h <;> simp [h, eq_comm]

theorem write_ok {f : σ → Except ε σ} {s s' : σ} {u : Unit} :
    write f s = .ok (u, s') ↔ f s = .ok s' := by
  unfold write
  split <;> rename_i h <;> simp [h]

theorem raiseIf_ok {c : Prop} [Decidable c] {e : ε} {s s' : σ} {u : Unit} :
    (raiseIf c e : Tx σ ε Unit) s = .ok (u, s') ↔ ¬c ∧ s' = s := by
  unfold raiseIf
  split <;> rename_i h <;> simp [h, eq_comm]

/-! ## Reads in a row -/

/-- One read that makes two is two reads: nothing is written in between. -/
theorem read_bind (f : σ → Except ε α) (g : α → σ → Except ε β) :
    (read fun s => f s >>= fun a => g a s) = (read f >>= fun a => read (g a) : Tx σ ε β) := by
  funext s
  cases h : f s <;> simp only [bind, StateT.bind, Except.bind, read, h]

theorem read_pure (a : α) : (read fun _ => pure a : Tx σ ε α) = pure a := rfl

theorem read_check (c : Prop) [Decidable c] (e : ε) :
    (read fun _ => if c then .error e else .ok () : Tx σ ε Unit) = raiseIf c e := by
  funext s
  by_cases h : c <;> simp [read, raiseIf, h]

/-! ## Peeling -/

theorem read_bind_ok {f : σ → Except ε α} {g : α → Tx σ ε β} {s : σ} {r : β × σ} :
    (read f >>= g) s = .ok r ↔ ∃ a, f s = .ok a ∧ g a s = .ok r := by
  simp only [bind_ok, read_ok]
  constructor
  · rintro ⟨a, s', ⟨ha, rfl⟩, h⟩; exact ⟨a, ha, h⟩
  · rintro ⟨a, ha, h⟩; exact ⟨a, s, ⟨ha, rfl⟩, h⟩

theorem read_bind_succeeds {f : σ → Except ε α} {g : α → Tx σ ε β} {s : σ} {a : α}
    (ha : f s = .ok a) (h : ∃ r, g a s = .ok r) : ∃ r, (read f >>= g) s = .ok r :=
  h.imp fun _ hr => read_bind_ok.2 ⟨a, ha, hr⟩

theorem raiseIf_bind_ok {c : Prop} [Decidable c] {e : ε} {g : Unit → Tx σ ε β} {s : σ}
    {r : β × σ} : (raiseIf c e >>= g) s = .ok r ↔ ¬c ∧ g () s = .ok r := by
  simp only [bind_ok, raiseIf_ok]
  constructor
  · rintro ⟨a, s', ⟨hc, rfl⟩, h⟩; exact ⟨hc, h⟩
  · rintro ⟨hc, h⟩; exact ⟨(), s, ⟨hc, rfl⟩, h⟩

/-- A step without a result, such as a write. -/
theorem unit_bind_ok {x : Tx σ ε Unit} {g : Unit → Tx σ ε β} {s : σ} {r : β × σ} :
    (x >>= g) s = .ok r ↔ ∃ s', x s = .ok ((), s') ∧ g () s' = .ok r := by
  rw [bind_ok]
  constructor
  · rintro ⟨⟨⟩, s', hx, h⟩; exact ⟨s', hx, h⟩
  · rintro ⟨s', hx, h⟩; exact ⟨(), s', hx, h⟩

theorem after_ok {x : Tx σ ε α} {s s' : σ} {a : α} (h : x s = .ok (a, s')) : after x s = s' := by
  simp [after, h]

theorem after_error {x : Tx σ ε α} {s : σ} {e : ε} (h : x s = .error e) : after x s = s := by
  simp [after, h]

/-- A transaction either succeeds, and its state is kept, or changes nothing. -/
theorem after_cases (x : Tx σ ε α) (s : σ) :
    (∃ a, x s = .ok (a, after x s)) ∨ ((∃ e, x s = .error e) ∧ after x s = s) := by
  cases h : x s with
  | error e => exact .inr ⟨⟨e, rfl⟩, after_error h⟩
  | ok p => exact .inl ⟨p.1, by rw [after_ok h]⟩

/-- Runs `f` on every element, in order, and joins the results; the first raise ends it. -/
def gather (f : β → Tx σ ε (List α)) : List β → Tx σ ε (List α)
  | [] => pure []
  | b :: bs => f b >>= fun as => gather f bs >>= fun rest => pure (as ++ rest)

theorem gather_nil_ok {f : β → Tx σ ε (List α)} {s : σ} {r : List α × σ} :
    gather f [] s = .ok r ↔ r = ([], s) := pure_ok

theorem gather_cons_ok {f : β → Tx σ ε (List α)} {b : β} {bs : List β} {s s' : σ} {as : List α} :
    gather f (b :: bs) s = .ok (as, s') ↔ ∃ as₁ as₂ s₁, f b s = .ok (as₁, s₁) ∧
      gather f bs s₁ = .ok (as₂, s') ∧ as = as₁ ++ as₂ := by
  simp only [gather, bind_ok, pure_ok, Prod.mk.injEq]
  constructor
  · rintro ⟨as₁, s₁, hb, as₂, s₂, hbs, rfl, rfl⟩; exact ⟨as₁, as₂, s₁, hb, hbs, rfl⟩
  · rintro ⟨as₁, as₂, s₁, hb, hbs, rfl⟩; exact ⟨as₁, s₁, hb, as₂, s', hbs, rfl, rfl⟩

/-- A loop keeps what every pass keeps; the invariant may mention the elements that remain. -/
theorem gather_invariant {I : List β → σ → Prop} {f : β → Tx σ ε (List α)} {bs : List β}
    (hf : ∀ b rest as s s', I (b :: rest) s → f b s = .ok (as, s') → I rest s') {s s' : σ}
    {as : List α} (hs : I bs s) (h : gather f bs s = .ok (as, s')) : I [] s' := by
  induction bs generalizing s as with
  | nil => rw [gather_nil_ok] at h; cases h; exact hs
  | cons b bs ih =>
    obtain ⟨as₁, as₂, s₁, hb, hbs, _⟩ := gather_cons_ok.1 h
    exact ih (hf b bs as₁ s s₁ hs hb) hbs

/-- A loop ends when every pass does. -/
theorem gather_succeeds {I : List β → σ → Prop} {f : β → Tx σ ε (List α)} {bs : List β}
    (hf : ∀ b rest s, I (b :: rest) s → ∃ r, f b s = .ok r ∧ I rest r.2) {s : σ}
    (hs : I bs s) : ∃ r, gather f bs s = .ok r := by
  induction bs generalizing s with
  | nil => exact ⟨([], s), gather_nil_ok.2 rfl⟩
  | cons b bs ih =>
    obtain ⟨⟨as₁, s₁⟩, hb, hI⟩ := hf b bs s hs
    obtain ⟨⟨as₂, s₂⟩, hbs⟩ := ih hI
    exact ⟨(as₁ ++ as₂, s₂), gather_cons_ok.2 ⟨as₁, as₂, s₁, hb, hbs, rfl⟩⟩

end Transaction
