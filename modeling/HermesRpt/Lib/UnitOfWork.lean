import HermesRpt.Lib.Process
import HermesRpt.Lib.Transaction

/-!
# HermesRpt.Lib.UnitOfWork

A session over a committed store. It sees its own writes; a commit publishes them, and a rollback or
the end of the session drops them. A raise keeps the writes before it: a handler that goes on with
the session sees them and may commit them.

* `Work`    : the committed state and what the session sees.
* `flush`   : a transaction on what the session sees.
* `session` : a process run in a session of its own, with the state it leaves committed.
* `Pending` : code that commits nothing, whatever it raises and whoever handles it.
-/

namespace UnitOfWork

open Transaction Effect Process

variable {σ ε α β : Type}

structure Work (σ : Type) where
  committed : σ
  view : σ

/-- Code that works in a session. -/
abbrev InSession (σ ε α : Type) := Process (Work σ) ε α

/-- A statement that raises writes nothing. -/
def flush (x : Tx σ ε α) : InSession σ ε α :=
  update fun w => (x w.view).map fun r => (r.1, { w with view := r.2 })

def commit : InSession σ ε Unit := modify fun w => { w with committed := w.view }

def rollback : InSession σ ε Unit := modify fun w => { w with view := w.committed }

/-- `async with session_factory() as session`: what the code returns or raises, and the store when
the session is closed. -/
def session (x : InSession σ ε α) (s : σ) : Except ε α × σ :=
  ((x ⟨s, s⟩).1, (x ⟨s, s⟩).2.committed)

/-! ## Single steps -/

section Steps

variable {x : Tx σ ε α} {f : α → InSession σ ε β} {w : Work σ} {a : α} {e : ε}

theorem flush_ok {s : σ} (h : x w.view = .ok (a, s)) :
    flush x w = (.ok a, { w with view := s }) := by
  simp [flush, update, h, Except.map]

theorem flush_error (h : x w.view = .error e) : flush x w = (.error e, w) := by
  simp [flush, update, h, Except.map]

theorem flush_eq_ok {w' : Work σ} :
    flush x w = (.ok a, w') ↔ ∃ s, x w.view = .ok (a, s) ∧ w' = { w with view := s } := by
  cases h : x w.view with
  | ok r =>
    rw [flush_ok (a := r.1) (s := r.2) h]
    constructor
    · intro hr
      cases hr
      exact ⟨r.2, rfl, rfl⟩
    · rintro ⟨s, hs, rfl⟩
      cases hs
      rfl
  | error e => simp [flush_error h]

/-- The next steps of a session after a statement. -/
theorem flush_bind_ok {s : σ} (h : x w.view = .ok (a, s)) :
    (flush x >>= f) w = f a { w with view := s } := bind_ok (flush_ok h)

/-! Inversions of a session that returns. -/

theorem flush_bind_eq_ok {b : β} {w' : Work σ} :
    (flush x >>= f) w = (.ok b, w') ↔
      ∃ a s, x w.view = .ok (a, s) ∧ f a { w with view := s } = (.ok b, w') := by
  simp only [bind_eq_ok, flush_eq_ok]
  constructor
  · rintro ⟨a, _, ⟨s, hx, rfl⟩, h⟩
    exact ⟨a, s, hx, h⟩
  · rintro ⟨a, s, hx, h⟩
    exact ⟨a, _, ⟨s, hx, rfl⟩, h⟩

theorem flush_read_bind_eq_ok {g : σ → Except ε α} {b : β} {w' : Work σ} :
    (flush (read g) >>= f) w = (.ok b, w') ↔ ∃ a, g w.view = .ok a ∧ f a w = (.ok b, w') := by
  simp only [flush_bind_eq_ok, read_ok]
  constructor
  · rintro ⟨a, _, ⟨hg, rfl⟩, h⟩
    exact ⟨a, hg, h⟩
  · rintro ⟨a, hg, h⟩
    exact ⟨a, _, ⟨hg, rfl⟩, h⟩

theorem lift_bind_eq_ok {r : Except ε α} {b : β} {w' : Work σ} :
    ((Process.lift r : InSession σ ε α) >>= f) w = (.ok b, w') ↔
      ∃ a, r = .ok a ∧ f a w = (.ok b, w') := by
  simp only [bind_eq_ok, lift_eq_ok]
  constructor
  · rintro ⟨a, _, ⟨hr, rfl⟩, h⟩
    exact ⟨a, hr, h⟩
  · rintro ⟨a, hr, h⟩
    exact ⟨a, _, ⟨hr, rfl⟩, h⟩

@[simp] theorem commit_apply : (commit : InSession σ ε Unit) w = (.ok (), ⟨w.view, w.view⟩) := rfl

@[simp] theorem rollback_apply :
    (rollback : InSession σ ε Unit) w = (.ok (), ⟨w.committed, w.committed⟩) := rfl

end Steps

/-! ## Code that commits nothing -/

def Pending (x : InSession σ ε α) : Prop :=
  ∀ s, Keeps (fun w => w.committed = s) (fun _ => True) x

namespace Pending

variable {x : InSession σ ε α} {f : α → InSession σ ε β}

theorem committed (h : Pending x) (w : Work σ) : (x w).2.committed = w.committed :=
  (h w.committed w rfl).1

theorem pure (a : α) : Pending (Pure.pure a : InSession σ ε α) := fun _ => .returned a

theorem raise (e : ε) : Pending (Process.raise e : InSession σ ε α) := fun _ => .raise e

theorem lift (r : Except ε α) : Pending (Process.lift r : InSession σ ε α) := fun _ => .lifted r

theorem flush (x : Tx σ ε α) : Pending (UnitOfWork.flush x) := by
  intro s w hw
  cases h : x w.view with
  | ok r =>
    rw [flush_ok (a := r.1) (s := r.2) h]
    exact ⟨hw, fun _ _ => trivial⟩
  | error e =>
    rw [flush_error h]
    exact ⟨hw, fun _ _ => trivial⟩

theorem rollback : Pending (UnitOfWork.rollback : InSession σ ε Unit) :=
  fun _ => .modify (fun _ hw => hw) trivial

theorem bind (hx : Pending x) (hf : ∀ a, Pending (f a)) : Pending (x >>= f) :=
  fun s => (hx s).andThen fun a => hf a s

theorem onRaise {handler : ε → InSession σ ε Unit} (hx : Pending x)
    (hh : ∀ e, Pending (handler e)) : Pending (x.onRaise handler) :=
  fun s => (hx s).onRaise fun e => hh e s

theorem orElse {handler : ε → InSession σ ε α} (hx : Pending x) (hh : ∀ e, Pending (handler e)) :
    Pending (x.orElse handler) :=
  fun s => (hx s).orElse fun e => hh e s

/-- A session that ends without a commit leaves the store as it was. -/
theorem session (hx : Pending x) (s : σ) : (UnitOfWork.session x s).2 = s := hx.committed ⟨s, s⟩

/-! A session that ends with its one commit. -/

theorem session_commit_ok {s s' : σ} {b : β} {g : α → β} :
    UnitOfWork.session (do let a ← x; commit; return g a) s = (.ok b, s') ↔
      ∃ a w, x ⟨s, s⟩ = (.ok a, w) ∧ b = g a ∧ s' = w.view := by
  rw [UnitOfWork.session, Prod.mk.injEq]
  rcases h : x ⟨s, s⟩ with ⟨r, w⟩
  cases r with
  | ok a =>
    rw [Process.bind_ok h]
    constructor
    · rintro ⟨hb, rfl⟩
      cases hb
      exact ⟨a, w, rfl, rfl, rfl⟩
    · rintro ⟨_, _, hw, rfl, rfl⟩
      cases hw
      exact ⟨rfl, rfl⟩
  | error e =>
    rw [Process.bind_error h]
    simp

/-- What it raises leaves the store as it was. -/
theorem session_commit_error (hx : Pending x) {s s' : σ} {e : ε} {g : α → β}
    (h : UnitOfWork.session (do let a ← x; commit; return g a) s = (.error e, s')) : s' = s := by
  rw [UnitOfWork.session, Prod.mk.injEq] at h
  obtain ⟨hr, rfl⟩ := h
  have hkept := hx.committed ⟨s, s⟩
  rcases hx' : x ⟨s, s⟩ with ⟨r, w⟩
  rw [hx'] at hkept
  cases r with
  | ok a =>
    rw [Process.bind_ok hx'] at hr
    cases hr
  | error e =>
    rw [Process.bind_error hx']
    exact hkept

end Pending

end UnitOfWork
